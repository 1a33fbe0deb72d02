/-
ModuleBundler/Proofs/Config/RoundTrip.lean

Settings that are written are read back.  What is written is two lines (`exists_lines_toml`), which
mean a table (`exists_table_toml`), and the table leaves nothing open (`ofToml_toml`); therefore
the settings that it is merged into do not matter.

Main result: `reads_back`.
-/
import ModuleBundler.Proofs.Config.Reading
import ModuleBundler.Proofs.Toml.Pairs

namespace ModuleBundler

open Toml

namespace Config

/-! ### Tokens -/

theorem isToken_name (f : Field) : IsToken .atom f.name.toList ' ' := by
  cases f with
  | target => exact isToken_atom (c := 't') (fun _ => rfl) rfl rfl
  | dedupeModules => exact isToken_atom (c := 'd') (fun _ => rfl) rfl rfl

theorem isToken_boolean (b : Bool) : IsToken .atom (Printer.boolean b).toList '\n' := by
  cases b with
  | false => exact isToken_atom (c := 'f') (fun _ => rfl) rfl rfl
  | true => exact isToken_atom (c := 't') (fun _ => rfl) rfl rfl

theorem exists_string_eq (s : String) :
    ∃ c body, (Printer.string s).toList = c :: body ∧ IsInk c := by
  rw [toList_string]
  cases Printer.quoteOf s.toList
  all_goals exact ⟨_, _, rfl, by decide, by decide⟩

theorem exists_boolean_eq (b : Bool) :
    ∃ c body, (Printer.boolean b).toList = c :: body ∧ IsInk c := by
  cases b
  all_goals exact ⟨_, _, rfl, by decide, by decide⟩

/-- Settings are written on two lines. -/
theorem exists_lines_toml (c : Config) :
    ∃ place, Line.ofText c.toml.toList = .ok
      [pairLine 0 Field.target.name.toList (.quoted (Printer.quoteOf c.target.toList))
          (Printer.string c.target).toList,
        pairLine place Field.dedupeModules.name.toList .atom
          (Printer.boolean c.dedupeModules).toList] := by
  have htext : c.toml.toList =
      (Printer.pair Field.target.name (Printer.string c.target)).toList ++
        ((Printer.pair Field.dedupeModules.name (Printer.boolean c.dedupeModules)).toList ++
          []) := by
    simp [toml]
  -- The first character is no mark of byte order.
  obtain ⟨body, hbody⟩ : ∃ body, c.toml.toList = 't' :: body := by
    rw [htext]
    exact ⟨_, by simp [Printer.pair, Field.name]; rfl⟩
  have hplace : Lexeme.tokens c.toml.toList = Lexeme.tokensFrom 0 c.toml.toList := by
    rw [hbody]
    rfl
  have htokens := tokensFrom_pair (isToken_name .dedupeModules) (isToken_boolean c.dedupeModules)
    (exists_boolean_eq c.dedupeModules)
    (0 + Field.target.name.toList.length + 3 + (Printer.string c.target).toList.length + 1) []
  rw [Lexeme.tokensFrom] at htokens
  refine ⟨0 + Field.target.name.toList.length + 3 + (Printer.string c.target).toList.length + 1, ?_⟩
  unfold Line.ofText
  rw [hplace, htext,
    tokensFrom_pair (isToken_name .target) (isToken_string _) (exists_string_eq _), htokens]
  refine bind_eq_ok.2 ⟨_, (lines_pair (.inr ⟨_, rfl⟩) 12 _ _ _ _ _).trans
    (congrArg _ (lines_pair (.inl rfl) 11 _ _ _ _ _)), rfl⟩

/-! ### The table -/

theorem key_name (f : Field) (place : Nat) :
    Decode.key (Grammar.Written.ofToken ⟨.atom, place, f.name.toList⟩) = .ok f.name := by
  cases f <;> rfl

theorem single_string (s : String) (place : Nat) :
    Decode.single (Grammar.Written.ofToken
      ⟨.quoted (Printer.quoteOf s.toList), place, (Printer.string s).toList⟩) = .ok (.string s) :=
  bind_eq_ok.2 ⟨s, quoted_string rfl, rfl⟩

theorem single_boolean (b : Bool) (place : Nat) :
    Decode.single (Grammar.Written.ofToken ⟨.atom, place, (Printer.boolean b).toList⟩) =
      .ok (.boolean b) := by
  cases b <;> rfl

/-- What is written means a table of the two settings. -/
theorem exists_table_toml (c : Config) :
    ∃ e₁ e₂ : Entry, Toml.table c.toml = .ok [e₁, e₂] ∧
      e₁.name = Field.target.name ∧ e₁.value = .string c.target ∧
      e₂.name = Field.dedupeModules.name ∧ e₂.value = .boolean c.dedupeModules := by
  obtain ⟨place, hlines⟩ := exists_lines_toml c
  obtain ⟨k₁, p₁, hfirst⟩ :=
    Document.line_pair (d := {}) rfl (key_name .target _) (single_string c.target _)
      List.not_mem_nil
  have hnew : Field.dedupeModules.name ∉ [Field.target.name] := by decide
  obtain ⟨k₂, p₂, hsecond⟩ := Document.line_pair
    (d := { entries := [⟨Field.target.name, k₁, p₁, .string c.target⟩] }) rfl
    (key_name .dedupeModules _) (single_boolean c.dedupeModules _) hnew
  have hdocument : List.foldlM Document.line {} [_, _] = .ok _ :=
    bind_eq_ok.2 ⟨_, hfirst, bind_eq_ok.2 ⟨_, hsecond, rfl⟩⟩
  exact ⟨_, _, bind_eq_ok.2 ⟨_, hlines, bind_eq_ok.2 ⟨_, hdocument, rfl⟩⟩, rfl, rfl, rfl, rfl⟩

/-- What is written leaves nothing open. -/
theorem ofToml_toml (c : Config) :
    PartialConfig.ofToml c.toml = .ok ⟨some c.target, some c.dedupeModules⟩ := by
  obtain ⟨e₁, e₂, htable, hname₁, hvalue₁, hname₂, hvalue₂⟩ := exists_table_toml c
  refine PartialConfig.ofToml_eq_ok_iff.2 ⟨_, htable, ?_, ?_⟩
  · rintro e he
    rcases List.mem_cons.1 he with rfl | he
    · exact .target hname₁ hvalue₁
    · obtain rfl := List.mem_singleton.1 he
      exact .dedupeModules hname₂ hvalue₂
  · have hne : Field.target.name ≠ Field.dedupeModules.name := by decide
    simp only [PartialConfig.ofEntries, lookup_cons, hname₁, hname₂, hvalue₁, hvalue₂, hne, if_true,
      if_false]
    rfl

/-- **Settings are read back.**  To read complete settings from a text and to merge what the text
sets into the defaults is the same, down to the error that is told; and what is written of settings
gives them back, whatever settings it is merged into. -/
theorem reads_back (text : String) (c c₀ : Config) :
    ofToml text = (PartialConfig.ofToml text).map ({} : Config).merge ∧
      (PartialConfig.ofToml c.toml).map c₀.merge = .ok c := by
  refine ⟨ofToml_eq_map text, ?_⟩
  rw [ofToml_toml]
  rfl

end Config

end ModuleBundler
