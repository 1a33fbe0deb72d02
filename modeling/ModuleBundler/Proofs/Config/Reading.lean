/-
ModuleBundler/Proofs/Config/Reading.lean

What a configuration file says.  Its table must hold nothing but the two settings, each with a
value of its type (`Toml.Entry.Fits`), and then what is read is what stands under the two
names (`PartialConfig.ofToml_eq_ok_iff`).  The order in which the entries are looked at does not
matter, since no name occurs twice.

To read complete settings is to read what a file sets and to merge it into the defaults
(`Config.ofToml_eq_map`): entry by entry, both readings fail alike.
-/
import ModuleBundler.Config.Basic
import ModuleBundler.Proofs.Toml.Document

namespace ModuleBundler

namespace Toml

/-! ### Tables -/

def Value.string? : Value → Option String
  | .string s => some s
  | _ => none

def Value.boolean? : Value → Option Bool
  | .boolean b => some b
  | _ => none

/-- The value under a name. -/
def lookup (es : List Entry) (name : String) : Option Value :=
  (es.find? (·.name = name)).map (·.value)

theorem lookup_cons (e : Entry) (es : List Entry) (name : String) :
    lookup (e :: es) name = if e.name = name then some e.value else lookup es name := by
  unfold lookup
  split
  next h => rw [List.find?_cons_of_pos (by simpa using h)]; rfl
  next h => rw [List.find?_cons_of_neg (by simpa using h)]

theorem lookup_eq_none {es : List Entry} {name : String} (h : name ∉ es.map (·.name)) :
    lookup es name = none := by
  unfold lookup
  rw [List.find?_eq_none.2, Option.map_none]
  intro e he hname
  refine h ?_
  rw [← of_decide_eq_true hname]
  exact List.mem_map_of_mem he

theorem sorted_perm (es : List Entry) : (sorted es).Perm es := List.mergeSort_perm es _

theorem UniqueNames.sorted {es : List Entry} (h : UniqueNames es) : UniqueNames (sorted es) :=
  ((sorted_perm es).map _).nodup_iff.2 h

theorem lookup_sorted {es : List Entry} (h : UniqueNames es) (name : String) :
    lookup (sorted es) name = lookup es name := by
  unfold lookup
  congr 1
  ext e
  rw [h.sorted.find?_eq_some_iff, h.find?_eq_some_iff, (sorted_perm es).mem_iff]

/-! ### Entries -/

variable {e : Entry}

theorem Entry.text_eq_ok_iff {s : String} : e.text = .ok s ↔ e.value = .string s := by
  unfold Entry.text
  split
  next t h => rw [h]; simp
  next h => exact iff_of_false (fun h' => by cases h') (h s)

theorem Entry.truth_eq_ok_iff {b : Bool} : e.truth = .ok b ↔ e.value = .boolean b := by
  unfold Entry.truth
  split
  next t h => rw [h]; simp
  next h => exact iff_of_false (fun h' => by cases h') (h b)

/-- An entry sets the field that it is named for. -/
theorem Entry.field_eq_ok_iff {f : Config.Field} : e.field = .ok f ↔ e.name = f.name := by
  have hfind : Config.Field.ofName? e.name = some f ↔ e.name = f.name := by
    unfold Config.Field.ofName? Config.Field.all
    constructor
    · intro h
      have hname := List.find?_some h
      exact (beq_iff_eq.1 hname).symm
    · intro h
      rw [h]
      cases f <;> rfl
  rw [← hfind]
  unfold Entry.field
  split
  next g h => rw [h]; simp
  next h => rw [h]; simp

/-- An entry is one of the settings, with a value of its type. -/
inductive Entry.Fits : Entry → Prop
  | target {e : Entry} {s : String} (hname : e.name = Config.Field.target.name)
      (hvalue : e.value = .string s) : Fits e
  | dedupeModules {e : Entry} {b : Bool} (hname : e.name = Config.Field.dedupeModules.name)
      (hvalue : e.value = .boolean b) : Fits e

end Toml

open Toml

namespace PartialConfig

variable {p p' : PartialConfig} {e : Entry} {es : List Entry}

/-- What entries set. -/
def ofEntries (es : List Entry) : PartialConfig :=
  ⟨(lookup es Config.Field.target.name).bind Value.string?,
    (lookup es Config.Field.dedupeModules.name).bind Value.boolean?⟩

/-- Settings that go before others. -/
def before (p q : PartialConfig) : PartialConfig :=
  ⟨p.target.or q.target, p.dedupeModules.or q.dedupeModules⟩

theorem set_target (hname : e.name = Config.Field.target.name) {s : String}
    (hvalue : e.value = .string s) (p : PartialConfig) :
    p.set e = .ok { p with target := some s } := by
  unfold set
  rw [Entry.field_eq_ok_iff.2 hname, Entry.text_eq_ok_iff.2 hvalue]
  rfl

theorem set_dedupeModules (hname : e.name = Config.Field.dedupeModules.name) {b : Bool}
    (hvalue : e.value = .boolean b) (p : PartialConfig) :
    p.set e = .ok { p with dedupeModules := some b } := by
  unfold set
  rw [Entry.field_eq_ok_iff.2 hname, Entry.truth_eq_ok_iff.2 hvalue]
  rfl

theorem fits_of_set (h : p.set e = .ok p') : e.Fits := by
  obtain ⟨f, hf, h⟩ := bind_eq_ok.1 h
  cases f with
  | target =>
      obtain ⟨s, hs, -⟩ := bind_eq_ok.1 h
      exact .target (Entry.field_eq_ok_iff.1 hf) (Entry.text_eq_ok_iff.1 hs)
  | dedupeModules =>
      obtain ⟨b, hb, -⟩ := bind_eq_ok.1 h
      exact .dedupeModules (Entry.field_eq_ok_iff.1 hf) (Entry.truth_eq_ok_iff.1 hb)

/-- The settings after one entry and others behind it, none of which has its name. -/
theorem exists_set_before (h : e.Fits) (hes : UniqueNames (e :: es)) (p : PartialConfig) :
    ∃ p₁, p.set e = .ok p₁ ∧ (ofEntries es).before p₁ = (ofEntries (e :: es)).before p := by
  have hnone : lookup es e.name = none := lookup_eq_none (List.nodup_cons.1 hes).1
  cases h with
  | target hname hvalue =>
      refine ⟨_, set_target hname hvalue p, ?_⟩
      rw [hname] at hnone
      simp only [before, ofEntries, lookup_cons, hname, hvalue, hnone]
      rfl
  | dedupeModules hname hvalue =>
      refine ⟨_, set_dedupeModules hname hvalue p, ?_⟩
      rw [hname] at hnone
      simp only [before, ofEntries, lookup_cons, hname, hvalue, hnone]
      rfl

theorem foldlM_set_eq_ok_iff (hes : UniqueNames es) :
    es.foldlM set p = .ok p' ↔ (∀ e ∈ es, e.Fits) ∧ p' = (ofEntries es).before p := by
  induction es generalizing p with
  | nil =>
      rw [List.foldlM_nil, pure_eq_ok]
      simp [before, ofEntries, lookup, eq_comm]
  | cons e es ih =>
      rw [List.foldlM_cons, List.forall_mem_cons]
      constructor
      · intro h
        obtain ⟨p₁, hset, h⟩ := bind_eq_ok.1 h
        obtain ⟨hfits, rfl⟩ := (ih (List.nodup_cons.1 hes).2).1 h
        obtain ⟨p₂, hset₂, hbefore⟩ := exists_set_before (fits_of_set hset) hes p
        obtain rfl : p₁ = p₂ := Except.ok.inj (hset.symm.trans hset₂)
        exact ⟨⟨fits_of_set hset, hfits⟩, hbefore⟩
      · rintro ⟨⟨he, hfits⟩, rfl⟩
        obtain ⟨p₁, hset, hbefore⟩ := exists_set_before he hes p
        refine bind_eq_ok.2 ⟨p₁, hset, (ih (List.nodup_cons.1 hes).2).2 ⟨hfits, hbefore.symm⟩⟩

/-- **A configuration file is read exactly if it sets nothing but the settings, each to a value of
its type.**  It says what stands under their names. -/
theorem ofToml_eq_ok_iff {text : String} :
    ofToml text = .ok p ↔
      ∃ es, Toml.table text = .ok es ∧ (∀ e ∈ es, e.Fits) ∧ p = ofEntries es := by
  have hsorted : ∀ es, Toml.table text = .ok es →
      ((sorted es).foldlM set {} = .ok p ↔ (∀ e ∈ es, e.Fits) ∧ p = ofEntries es) := by
    intro es hes
    have hunique := uniqueNames_table hes
    rw [foldlM_set_eq_ok_iff hunique.sorted]
    simp only [(sorted_perm es).mem_iff, before, ofEntries, lookup_sorted hunique, Option.or_none]
  constructor
  · intro h
    obtain ⟨es, hes, h⟩ := bind_eq_ok.1 h
    exact ⟨es, hes, (hsorted es hes).1 h⟩
  · rintro ⟨es, hes, h⟩
    exact bind_eq_ok.2 ⟨es, hes, (hsorted es hes).2 h⟩

end PartialConfig

namespace Config

/-! ### Complete settings -/

theorem set_merge (c : Config) (p : PartialConfig) (e : Entry) :
    (c.merge p).set e = (p.set e).map c.merge := by
  unfold set PartialConfig.set
  rcases e.field with err | f
  · rfl
  cases f with
  | target => rcases e.text with err | s <;> rfl
  | dedupeModules => rcases e.truth with err | b <;> rfl

theorem foldlM_set_merge (c : Config) (p : PartialConfig) (es : List Entry) :
    es.foldlM set (c.merge p) = (es.foldlM PartialConfig.set p).map c.merge := by
  induction es generalizing p with
  | nil => rfl
  | cons e es ih =>
      rw [List.foldlM_cons, List.foldlM_cons, set_merge]
      rcases p.set e with err | p₁
      · rfl
      · exact ih p₁

/-- **To read complete settings is to merge what is read into the defaults.**  Both readings fail
with the same error. -/
theorem ofToml_eq_map (text : String) :
    ofToml text = (PartialConfig.ofToml text).map ({} : Config).merge := by
  unfold ofToml PartialConfig.ofToml
  rcases Toml.table text with err | es
  · rfl
  · exact foldlM_set_merge {} {} (sorted es)

end Config

end ModuleBundler
