/-
ModuleBundler/Proofs/Graph/Level.lean

The import tree of an entry, cut into levels: the entry is on level zero, and the
files of a level import those of the next, one for each specifier (`Project.level`).

A file is reached exactly if it is on some level (`reaches_iff_exists_mem_level`).
Whether the levels come to an end says whether the tree is finite:

* below a file that leads to a cycle no level is empty, since an import of it leads
  to the cycle again (`level_ne_nil_of_cycle`);
* if finitely many files are reached and none lies on a cycle, then some level is
  empty (`exists_level_eq_nil`).
-/
import Mathlib.Data.Fintype.Card
import Mathlib.Data.Set.Finite.Basic
import ModuleBundler.Proofs.Graph.Reachable

namespace ModuleBundler.Project

variable {p : Project} {entry file : String}

/-- The files that a file imports, one for each of its specifiers. -/
def imports (p : Project) (file : String) : List String := (p.specifiers file).map (resolve file)

theorem mem_imports_iff {other : String} : other ∈ p.imports file ↔ p.Imports file other := by
  rw [imports, List.mem_map, Imports]
  constructor
  · rintro ⟨s, hs, rfl⟩
    exact ⟨s, hs, rfl⟩
  · rintro ⟨s, hs, rfl⟩
    exact ⟨s, hs, rfl⟩

/-- The targets of a compiled module are what its file imports. -/
theorem targets_eq_imports {m : CompiledModule} (h : p.compiled m.filename = .ok m) :
    m.targets = p.imports m.filename := by
  rw [CompiledModule.targets, imports, specifiers_of_compiled h]

/-- A file can be read, is accepted by the grammar and can be compiled. -/
def Builds (p : Project) (file : String) : Prop := ∃ m, p.compiled file = .ok m

/-! ### Levels -/

/-- The files that are a number of levels below given ones. -/
def descend (p : Project) : Nat → List String → List String
  | 0, files => files
  | k + 1, files => descend p k (files.flatMap p.imports)

/-- A level of the import tree of the entry. -/
def level (p : Project) (entry : String) (k : Nat) : List String := p.descend k [normalize entry]

theorem descend_nil (p : Project) (k : Nat) : p.descend k [] = [] := by
  induction k with
  | zero => rfl
  | succ k ih => exact ih

theorem descend_append (p : Project) (k : Nat) (files more : List String) :
    p.descend k (files ++ more) = p.descend k files ++ p.descend k more := by
  induction k generalizing files more with
  | zero => rfl
  | succ k ih => rw [descend, List.flatMap_append, ih, ← descend, ← descend]

theorem descend_add (p : Project) (j k : Nat) (files : List String) :
    p.descend (j + k) files = p.descend k (p.descend j files) := by
  induction j generalizing files with
  | zero => rw [Nat.zero_add, descend]
  | succ j ih => rw [Nat.succ_add, descend, ih, ← descend]

theorem level_succ (p : Project) (entry : String) (k : Nat) :
    p.level entry (k + 1) = (p.level entry k).flatMap p.imports :=
  p.descend_add k 1 [normalize entry]

/-! ### Levels and reachability -/

theorem reaches_of_mem_level {k : Nat} (h : file ∈ p.level entry k) : p.Reaches entry file := by
  induction k generalizing file with
  | zero =>
      obtain rfl := List.mem_singleton.1 h
      exact p.reaches_entry entry
  | succ k ih =>
      rw [level_succ] at h
      obtain ⟨other, hother, hfile⟩ := List.mem_flatMap.1 h
      exact (ih hother).tail (mem_imports_iff.1 hfile)

/-- The files reached are those on the levels. -/
theorem reaches_iff_exists_mem_level : p.Reaches entry file ↔ ∃ k, file ∈ p.level entry k := by
  constructor
  · intro h
    induction h with
    | refl => exact ⟨0, List.mem_singleton_self _⟩
    | @tail other file _ himports ih =>
        obtain ⟨k, hk⟩ := ih
        refine ⟨k + 1, ?_⟩
        rw [level_succ]
        exact List.mem_flatMap.2 ⟨other, hk, mem_imports_iff.2 himports⟩
  · rintro ⟨k, hk⟩
    exact reaches_of_mem_level hk

/-! ### Cycles -/

/-- What leads to a cycle imports something that leads to it as well. -/
theorem exists_imports_of_cycle {other : String} (h : Relation.ReflTransGen p.Imports other file)
    (hcycle : Relation.TransGen p.Imports file file) :
    ∃ next, p.Imports other next ∧ Relation.ReflTransGen p.Imports next file :=
  Relation.TransGen.head'_iff.1 (Relation.TransGen.trans_right h hcycle)

/-- If a cycle is reached, then the levels do not come to an end. -/
theorem level_ne_nil_of_cycle (h : p.Reaches entry file)
    (hcycle : Relation.TransGen p.Imports file file) (k : Nat) : p.level entry k ≠ [] := by
  -- on every level there is a file that leads to the cycle
  obtain ⟨other, hother, -⟩ : ∃ other ∈ p.level entry k,
      Relation.ReflTransGen p.Imports other file := by
    induction k with
    | zero => exact ⟨normalize entry, List.mem_singleton_self _, h⟩
    | succ k ih =>
        obtain ⟨other, hother, hpath⟩ := ih
        obtain ⟨next, himports, hnext⟩ := exists_imports_of_cycle hpath hcycle
        refine ⟨next, ?_, hnext⟩
        rw [level_succ]
        exact List.mem_flatMap.2 ⟨other, hother, mem_imports_iff.2 himports⟩
  exact List.ne_nil_of_mem hother

/-- Below an empty level all levels are empty. -/
theorem descend_eq_nil_of_le {j k : Nat} {files : List String} (hjk : j ≤ k)
    (h : p.descend j files = []) : p.descend k files = [] := by
  obtain ⟨i, rfl⟩ := Nat.exists_eq_add_of_le hjk
  rw [descend_add, h, descend_nil]

/-- If below each of finitely many files there is an empty level, then they have one in common. -/
theorem exists_descend_eq_nil {files : List String}
    (h : ∀ file ∈ files, ∃ k, p.descend k [file] = []) : ∃ k, p.descend k files = [] := by
  induction files with
  | nil => exact ⟨0, rfl⟩
  | cons file files ih =>
      obtain ⟨j, hj⟩ := h file List.mem_cons_self
      obtain ⟨k, hk⟩ := ih fun other hother => h other (List.mem_cons_of_mem _ hother)
      refine ⟨max j k, ?_⟩
      rw [← List.singleton_append, descend_append, List.append_eq_nil_iff]
      exact ⟨descend_eq_nil_of_le (Nat.le_max_left j k) hj,
        descend_eq_nil_of_le (Nat.le_max_right j k) hk⟩

/-- If finitely many files are reached, none of them on a cycle, then the levels come to an end. -/
theorem exists_level_eq_nil (hfinite : {file | p.Reaches entry file}.Finite)
    (hacyclic : ∀ file, p.Reaches entry file → ¬ Relation.TransGen p.Imports file file) :
    ∃ k, p.level entry k = [] := by
  have : Finite {file // p.Reaches entry file} := hfinite.to_subtype
  let below : {file // p.Reaches entry file} → {file // p.Reaches entry file} → Prop :=
    fun a b => Relation.TransGen p.Imports b.1 a.1
  have : IsTrans _ below := ⟨fun _ _ _ hab hbc => hbc.trans hab⟩
  have : Std.Irrefl below := ⟨fun a => hacyclic a.1 a.2⟩
  -- imports are below, and there is no infinite way down
  have hdown : ∀ a : {file // p.Reaches entry file}, ∃ k, p.descend k [a.1] = [] := by
    intro a
    induction a using (Finite.wellFounded_of_trans_of_irrefl below).induction with
    | _ a ih =>
        have himports : ∀ other ∈ p.imports a.1, ∃ k, p.descend k [other] = [] := by
          intro other hother
          have h := mem_imports_iff.1 hother
          exact ih ⟨other, a.2.tail h⟩ (.single h)
        obtain ⟨k, hk⟩ := exists_descend_eq_nil himports
        refine ⟨k + 1, ?_⟩
        rw [descend, List.flatMap_singleton]
        exact hk
  exact hdown ⟨normalize entry, p.reaches_entry entry⟩

end ModuleBundler.Project
