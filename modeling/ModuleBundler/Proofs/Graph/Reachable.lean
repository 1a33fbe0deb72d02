/-
ModuleBundler/Proofs/Graph/Reachable.lean

The files that an entry needs, said without a search.  A file imports what its
specifiers resolve to; the files needed are those that the entry reaches by imports
(`Project.Reaches`).  They are the least set that holds the entry and, with every
file, its imports (`isLeast_reaches`).
-/
import Mathlib.Logic.Relation
import Mathlib.Order.Bounds.Basic
import ModuleBundler.Proofs.Graph.Build

namespace ModuleBundler.Project

variable {p : Project} {entry file : String}

/-- The specifiers in a file; one that cannot be read or is not accepted has none. -/
def specifiers (p : Project) (file : String) : List String :=
  match SourceModule.ofFile p.read file with
  | .ok m => m.dependencies
  | .error _ => []

/-- A file names another in one of its specifiers. -/
def Imports (p : Project) (file other : String) : Prop :=
  ∃ s ∈ p.specifiers file, other = resolve file s

/-- The entry leads to a file by imports. -/
def Reaches (p : Project) (entry : String) : String → Prop :=
  Relation.ReflTransGen p.Imports (normalize entry)

/-- A set of files that has the entry and all that its files import. -/
structure IsClosed (p : Project) (entry : String) (files : Set String) : Prop where
  entry_mem : normalize entry ∈ files
  resolve_mem : ∀ file ∈ files, ∀ s ∈ p.specifiers file, resolve file s ∈ files

theorem reaches_entry (p : Project) (entry : String) : p.Reaches entry (normalize entry) := .refl

theorem Reaches.resolve (h : p.Reaches entry file) {s : String} (hs : s ∈ p.specifiers file) :
    p.Reaches entry (resolve file s) :=
  h.tail ⟨s, hs, rfl⟩

/-- What is reached is normal. -/
theorem Reaches.normalize_eq (h : p.Reaches entry file) : normalize file = file := by
  induction h with
  | refl => exact normalize_normalize entry
  | tail _ himports _ =>
      obtain ⟨s, -, rfl⟩ := himports
      exact normalize_resolve _ s

/-- A closed set has everything that is reached. -/
theorem IsClosed.mem_of_reaches {files : Set String} (h : p.IsClosed entry files)
    (hfile : p.Reaches entry file) : file ∈ files := by
  induction hfile with
  | refl => exact h.entry_mem
  | tail _ himports ih =>
      obtain ⟨s, hs, rfl⟩ := himports
      exact h.resolve_mem _ ih s hs

/-- What is reached is the least closed set. -/
theorem isLeast_reaches (p : Project) (entry : String) :
    IsLeast {files | p.IsClosed entry files} {file | p.Reaches entry file} := by
  refine ⟨⟨p.reaches_entry entry, fun file hfile s hs => Reaches.resolve hfile hs⟩, ?_⟩
  intro files hfiles file hfile
  exact hfiles.mem_of_reaches hfile

/-- A compiled module has the specifiers of its file as dependencies. -/
theorem specifiers_of_compiled {m : CompiledModule} (h : p.compiled file = .ok m) :
    p.specifiers file = m.dependencies := by
  unfold compiled at h
  unfold specifiers
  rcases hm : SourceModule.ofFile p.read file with e | source
  · rw [hm] at h
    cases h
  · rw [hm] at h
    rcases hcode : source.compile p.target with e | code
    · simp only [hcode] at h
      cases h
    · simp only [hcode] at h
      cases h
      rfl

/-- The targets of a compiled module are what its file imports. -/
theorem mem_targets_iff {m : CompiledModule} (h : p.compiled m.filename = .ok m) :
    file ∈ m.targets ↔ p.Imports m.filename file := by
  rw [CompiledModule.targets, List.mem_map, Imports, specifiers_of_compiled h]
  constructor
  · rintro ⟨s, hs, rfl⟩
    exact ⟨s, hs, rfl⟩
  · rintro ⟨s, hs, rfl⟩
    exact ⟨s, hs, rfl⟩

end ModuleBundler.Project
