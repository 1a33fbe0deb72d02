/-
ModuleBundler/Proofs/Toml/Document.lean

A table has every name once.  All changes of a table go through `update`, which changes the entry
of a name or adds one (`names_update`); so no line of a text can make a name occur twice
(`uniqueNames_line`), and a lookup in the table of a text finds the only entry of a name
(`find?_eq_some_iff`).

Main result: `uniqueNames_table`.
-/
import ModuleBundler.Toml.Document

namespace ModuleBundler.Toml

/-- A reading in two steps succeeds if both do. -/
theorem bind_eq_ok {ε α β : Type} {x : Except ε α} {f : α → Except ε β} {b : β} :
    (x >>= f) = .ok b ↔ ∃ a, x = .ok a ∧ f a = .ok b := by
  constructor
  · intro h
    rcases x with e | a
    · cases h
    · exact ⟨a, rfl, h⟩
  · rintro ⟨a, rfl, h⟩
    exact h

theorem pure_eq_ok {ε α : Type} {a b : α} : (pure a : Except ε α) = .ok b ↔ a = b :=
  ⟨Except.ok.inj, congrArg _⟩

/-- Every name occurs once. -/
def UniqueNames (es : List Entry) : Prop := (es.map (·.name)).Nodup

/-- In a table with every name once, the entry of a name is the one that is found. -/
theorem UniqueNames.find?_eq_some_iff {es : List Entry} (h : UniqueNames es) {name : String}
    {e : Entry} : es.find? (·.name = name) = some e ↔ e ∈ es ∧ e.name = name := by
  refine ⟨fun hfind => ⟨List.mem_of_find?_eq_some hfind, by simpa using List.find?_some hfind⟩, ?_⟩
  rintro ⟨hmem, rfl⟩
  induction es with
  | nil => cases hmem
  | cons e' es ih =>
      obtain ⟨hhead, htail⟩ : e'.name ∉ es.map (·.name) ∧ UniqueNames es := List.nodup_cons.1 h
      rcases List.mem_cons.1 hmem with rfl | hmem
      · exact List.find?_cons_of_pos (by simp)
      · have hne : e'.name ≠ e.name := by
          intro heq
          rw [heq] at hhead
          exact hhead (List.mem_map_of_mem hmem)
        rw [List.find?_cons_of_neg (by simpa using hne), ih htail hmem]

namespace Document

variable {change : Option Entry → Except Error Entry} {name : String} {es es' : List Entry}

/-- What is put under a name has the name. -/
def Names (name : String) (change : Option Entry → Except Error Entry) : Prop :=
  ∀ o e, (∀ e₀, o = some e₀ → e₀.name = name) → change o = .ok e → e.name = name

/-- An update adds a name at the end, if it is not there, and leaves the names as they are
otherwise. -/
theorem names_update (hchange : Names name change) (h : update name change es = .ok es') :
    es'.map (·.name) =
      if name ∈ es.map (·.name) then es.map (·.name) else es.map (·.name) ++ [name] := by
  induction es generalizing es' with
  | nil =>
      obtain ⟨e, he, h⟩ := bind_eq_ok.1 h
      obtain rfl := pure_eq_ok.1 h
      simp [hchange none e (by simp) he]
  | cons e es ih =>
      rw [update] at h
      split at h
      next hname =>
        obtain ⟨e', he', h⟩ := bind_eq_ok.1 h
        obtain rfl := pure_eq_ok.1 h
        -- the entry keeps its place and its name
        have hname' : e'.name = name := hchange (some e) e' (by simp [hname]) he'
        simp [hname, hname']
      next hname =>
        obtain ⟨rest, hrest, h⟩ := bind_eq_ok.1 h
        obtain rfl := pure_eq_ok.1 h
        have hne : ¬ name = e.name := fun heq => hname heq.symm
        simp only [List.map_cons, List.mem_cons, hne, false_or, ih hrest]
        split <;> rfl

/-- A change of a table after which every name still occurs once. -/
def Change.KeepsUnique (change : Change) : Prop :=
  ∀ es es', UniqueNames es → change es = .ok es' → UniqueNames es'

theorem keepsUnique_update (hchange : Names name change) :
    Change.KeepsUnique (update name change) := by
  intro es es' hes h
  unfold UniqueNames
  rw [names_update hchange h]
  split
  · exact hes
  · next hnew =>
      refine List.nodup_append.2 ⟨hes, by simp, fun a ha b hb hab => hnew ?_⟩
      rw [← List.mem_singleton.1 hb, ← hab]
      exact ha

/-- A value that is read for an entry leaves the name of the entry. -/
theorem name_of_bind_pure {α : Type} {x : Except Error α} {make : α → Entry} {e : Entry}
    (h : (do return make (← x)) = Except.ok e) (hmake : ∀ a, (make a).name = name) :
    e.name = name := by
  obtain ⟨a, -, h⟩ := bind_eq_ok.1 h
  obtain rfl := pure_eq_ok.1 h
  exact hmake a

theorem keepsUnique_insert (place : Stretch) (v : Value) (steps : List Step) :
    Change.KeepsUnique (insert place v steps) := by
  rcases steps with - | ⟨s, - | ⟨t, rest⟩⟩
  · rintro es es' hes ⟨⟩
    exact hes
  · refine keepsUnique_update fun o e ho h => ?_
    rcases o with - | e₀ <;> cases h
    rfl
  · refine keepsUnique_update fun o e ho h => ?_
    rcases o with - | e₀
    · exact name_of_bind_pure h fun _ => rfl
    · have hname := ho e₀ rfl
      dsimp only at h
      split at h
      next =>
        exact name_of_bind_pure h fun _ => hname
      next => cases h
      next => cases h

theorem keepsUnique_openTable (isArray : Bool) (place : Stretch) (s : Step) :
    Change.KeepsUnique (openTable isArray place s) := by
  refine keepsUnique_update fun o e ho h => ?_
  rcases o with - | e₀
  · cases h
    rfl
  · have hname := ho e₀ rfl
    dsimp only at h
    split at h <;> cases h <;> exact hname

theorem keepsUnique_atPath {change : Change} (hchange : change.KeepsUnique) (path : List Step) :
    Change.KeepsUnique (atPath change path) := by
  rcases path with - | ⟨s, rest⟩
  · exact hchange
  · refine keepsUnique_update fun o e ho h => ?_
    rcases o with - | e₀
    · exact name_of_bind_pure h fun _ => rfl
    · have hname := ho e₀ rfl
      dsimp only at h
      split at h
      next => cases h
      next =>
        exact name_of_bind_pure h fun _ => hname
      next =>
        exact name_of_bind_pure h fun _ => hname
      next => cases h

/-- After a line every name still occurs once. -/
theorem uniqueNames_line {d d' : State} (hd : UniqueNames d.entries) {l : Line}
    (h : line d l = .ok d') : UniqueNames d'.entries := by
  cases l with
  | pair k v =>
      obtain ⟨steps, -, h⟩ := bind_eq_ok.1 h
      obtain ⟨x, -, h⟩ := bind_eq_ok.1 h
      obtain ⟨es, hes, h⟩ := bind_eq_ok.1 h
      obtain rfl := pure_eq_ok.1 h
      exact keepsUnique_atPath (keepsUnique_insert _ x steps) d.path _ _ hd hes
  | header isArray place k =>
      obtain ⟨steps, -, h⟩ := bind_eq_ok.1 h
      split at h
      next last _ =>
        obtain ⟨es, hes, h⟩ := bind_eq_ok.1 h
        obtain rfl := pure_eq_ok.1 h
        exact keepsUnique_atPath (keepsUnique_openTable isArray place last) _ _ _ hd hes
      next =>
        obtain rfl := pure_eq_ok.1 h
        exact hd

theorem uniqueNames_lines {ls : List Line} {d d' : State} (hd : UniqueNames d.entries)
    (h : ls.foldlM line d = .ok d') : UniqueNames d'.entries := by
  induction ls generalizing d with
  | nil =>
      obtain rfl := pure_eq_ok.1 h
      exact hd
  | cons l ls ih =>
      rw [List.foldlM_cons] at h
      obtain ⟨d₁, hline, h⟩ := bind_eq_ok.1 h
      exact ih (uniqueNames_line hd hline) h

end Document

/-- **A text never sets a name twice.** -/
theorem uniqueNames_table {text : String} {es : List Entry} (h : table text = .ok es) :
    UniqueNames es := by
  obtain ⟨ls, -, h⟩ := bind_eq_ok.1 h
  obtain ⟨d, hd, h⟩ := bind_eq_ok.1 h
  obtain rfl := pure_eq_ok.1 h
  exact Document.uniqueNames_lines (d := {}) List.nodup_nil hd

end ModuleBundler.Toml
