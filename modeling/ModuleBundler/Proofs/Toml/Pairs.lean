/-
ModuleBundler/Proofs/Toml/Pairs.lean

Lines that are printed with a key and a value.  Such a line is six tokens (`tokensFrom_pair`), of
which the grammar makes a pair (`lines_pair`); and a pair under a name that is not there adds an
entry to the table (`Document.line_pair`).

Main results: `tokensFrom_pair`, `lines_pair`, `Document.line_pair`.
-/
import ModuleBundler.Proofs.Toml.Printed
import ModuleBundler.Toml.Document

namespace ModuleBundler.Toml

/-! ### Tokens -/

/-- A character that is no blank. -/
def IsInk (c : Char) : Prop := c ≠ ' ' ∧ c ≠ '\t'

theorem isToken_blank {next : Char} (h : IsInk next) : IsToken .blank [' '] next := by
  refine isToken_of_scan fun rest => ?_
  simp [Lexeme.scan, h.1, h.2]

theorem isToken_equals {next : Char} : IsToken .equals ['='] next :=
  isToken_of_scan fun _ => rfl

theorem tokensFrom_newline (place : Nat) (rest : List Char) :
    Lexeme.tokensFrom place ('\n' :: rest) =
      ⟨.newline, place, ['\n']⟩ :: Lexeme.tokensFrom (place + 1) rest := by
  rw [Lexeme.tokensFrom]
  rfl

/-- A word before a character that ends it. -/
theorem isToken_atom {c next : Char} {body : List Char} (hscan : ∀ rest, Lexeme.scan c rest =
      (.atom, (rest.takeWhile fun d => !Lexeme.endsAtom d).length))
    (hbody : body.all (fun d => !Lexeme.endsAtom d) = true) (hnext : Lexeme.endsAtom next = true) :
    IsToken .atom (c :: body) next := by
  refine isToken_of_scan fun rest => ?_
  rw [hscan, List.takeWhile_append_of_pos (List.all_eq_true.1 hbody)]
  simp [hnext]

/-- The tokens of a line with a key and a value, the line beginning at a place. -/
def pairTokens (place : Nat) (key : List Char) (kind : TokenKind) (value : List Char) :
    List Token :=
  [⟨.atom, place, key⟩, ⟨.blank, place + key.length, [' ']⟩,
    ⟨.equals, place + key.length + 1, ['=']⟩, ⟨.blank, place + key.length + 2, [' ']⟩,
    ⟨kind, place + key.length + 3, value⟩,
    ⟨.newline, place + key.length + 3 + value.length, ['\n']⟩]

/-- The tokens of a printed line, and of what comes after it. -/
theorem tokensFrom_pair {key value : String} {kind : TokenKind}
    (hkey : IsToken .atom key.toList ' ') (hvalue : IsToken kind value.toList '\n')
    (hink : ∃ c body, value.toList = c :: body ∧ IsInk c) (place : Nat) (rest : List Char) :
    Lexeme.tokensFrom place ((Printer.pair key value).toList ++ rest) =
      pairTokens place key.toList kind value.toList ++
        Lexeme.tokensFrom (place + key.toList.length + 3 + value.toList.length + 1) rest := by
  obtain ⟨c, body, hbody, hc⟩ := hink
  have htext : (Printer.pair key value).toList ++ rest =
      key.toList ++ ' ' :: '=' :: ' ' :: (value.toList ++ '\n' :: rest) := by
    simp [Printer.pair]
  have hbefore : ∀ p r, Lexeme.tokensFrom p (' ' :: '=' :: r) =
      ⟨.blank, p, [' ']⟩ :: Lexeme.tokensFrom (p + 1) ('=' :: r) :=
    isToken_blank ⟨by decide, by decide⟩
  have hequals : ∀ p r, Lexeme.tokensFrom p ('=' :: ' ' :: r) =
      ⟨.equals, p, ['=']⟩ :: Lexeme.tokensFrom (p + 1) (' ' :: r) := isToken_equals
  have hafter : ∀ p, Lexeme.tokensFrom p (' ' :: (value.toList ++ '\n' :: rest)) =
      ⟨.blank, p, [' ']⟩ :: Lexeme.tokensFrom (p + 1) (value.toList ++ '\n' :: rest) := by
    rw [hbody]
    exact fun p => isToken_blank hc p _
  rw [htext, hkey, hbefore, hequals, hafter, hvalue, tokensFrom_newline]
  rfl

/-! ### Lines -/

/-- The pair that the tokens of a line make. -/
def pairLine (place : Nat) (key : List Char) (kind : TokenKind) (value : List Char) : Line :=
  .pair [Grammar.Written.ofToken ⟨.atom, place, key⟩]
    (.single (Grammar.Written.ofToken ⟨kind, place + key.length + 3, value⟩))

/-- The grammar takes a key, the sign after it, a value and the end of the line, each as it is
written, and goes on with the rest. -/
theorem lines_pair {kind : TokenKind} (hkind : kind = .atom ∨ ∃ q, kind = .quoted q) (n place : Nat)
    (key value : List Char) (rest : List Token) (size : Nat) :
    (Grammar.lines (n + 1)).run ⟨pairTokens place key kind value ++ rest, size⟩ =
      ((Grammar.lines n).run ⟨rest, size⟩).map fun (ls, r) =>
        (pairLine place key kind value :: ls, r) := by
  rcases hkind with rfl | ⟨q, rfl⟩
  · rfl
  · rfl

/-! ### Tables -/

namespace Document

theorem update_of_notMem {name : String} {change : Option Entry → Except Error Entry}
    {es : List Entry} (h : name ∉ es.map (·.name)) :
    update name change es = (change none).map fun e => es ++ [e] := by
  induction es with
  | nil => cases hchange : change none <;> simp [update, hchange] <;> rfl
  | cons e es ih =>
      rw [List.map_cons, List.mem_cons, not_or] at h
      rw [update, if_neg (Ne.symm h.1), ih h.2]
      cases change none <;> rfl

/-- A pair under a name that is not there adds an entry. -/
theorem line_pair {d : State} {place : Nat} {key value : List Char} {kind : TokenKind}
    {name : String} {x : Value} (hpath : d.path = [])
    (hkey : Decode.key (Grammar.Written.ofToken ⟨.atom, place, key⟩) = .ok name)
    (hvalue : Decode.single (Grammar.Written.ofToken ⟨kind, place + key.length + 3, value⟩) = .ok x)
    (hnew : name ∉ d.entries.map (·.name)) :
    ∃ keyPlace valuePlace, line d (pairLine place key kind value) =
      .ok { d with entries := d.entries ++ [⟨name, keyPlace, valuePlace, x⟩] } := by
  let k := Grammar.Written.ofToken ⟨.atom, place, key⟩
  let v := Grammar.Written.ofToken ⟨kind, place + key.length + 3, value⟩
  have hsteps : Document.key [k] = .ok [⟨name, k.place⟩] := by simp [Document.key, k, hkey]
  have hentries : atPath (insert v.place x [⟨name, k.place⟩]) d.path d.entries =
      .ok (d.entries ++ [⟨name, k.place, v.place, x⟩]) := by
    rw [hpath, atPath, insert, update_of_notMem hnew]
    rfl
  exact ⟨k.place, v.place,
    bind_eq_ok.2 ⟨_, hsteps, bind_eq_ok.2 ⟨x, hvalue, bind_eq_ok.2 ⟨_, hentries, rfl⟩⟩⟩⟩

end Document

end ModuleBundler.Toml
