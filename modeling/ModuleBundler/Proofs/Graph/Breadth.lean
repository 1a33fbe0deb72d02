/-
ModuleBundler/Proofs/Graph/Breadth.lean

A search with sharing goes through the files breadth first.  The distance of a file is
the first level of the import tree on which it is found, that is the least number of
imports that lead to it from the entry (`Project.distance`).

In every state of the search the files found are in the order of their distances, and
none of them is more than one further away than the file that is finished next
(`Discovery.Layered`).  So all files that are no further away than this one have been found
(`Layered.mem_files`): an import that comes back to one of them finds an asset there,
and what a step adds lies exactly one level below.

Main result: `graph?_true_breadth_first`.
-/
import Mathlib.Order.Lattice.Nat
import ModuleBundler.Proofs.Graph.Level
import ModuleBundler.Proofs.Graph.Linking
import ModuleBundler.Proofs.Graph.Shared

namespace ModuleBundler

/-! ### Distances -/

namespace Project

variable {p : Project} {entry file other : String} {k : Nat}

/-- The least number of imports on a way from the entry to a file. -/
noncomputable def distance (p : Project) (entry file : String) : Nat :=
  sInf {k | file ∈ p.level entry k}

theorem mem_level_succ : file ∈ p.level entry (k + 1) ↔
    ∃ other ∈ p.level entry k, p.Imports other file := by
  rw [level_succ, List.mem_flatMap]
  simp only [mem_imports_iff]

/-- A file that is reached is on the level of its distance. -/
theorem mem_level_distance (h : p.Reaches entry file) :
    file ∈ p.level entry (p.distance entry file) :=
  Nat.sInf_mem (reaches_iff_exists_mem_level.1 h)

theorem distance_le (h : file ∈ p.level entry k) : p.distance entry file ≤ k := Nat.sInf_le h

theorem distance_entry (p : Project) (entry : String) :
    p.distance entry (normalize entry) = 0 :=
  Nat.le_zero.1 (distance_le (k := 0) (List.mem_singleton_self _))

/-- An import leads at most one further away. -/
theorem distance_le_succ (h : p.Reaches entry file) (himports : p.Imports file other) :
    p.distance entry other ≤ p.distance entry file + 1 :=
  distance_le (mem_level_succ.2 ⟨file, mem_level_distance h, himports⟩)

/-- A file that is reached is the entry, or is imported by a file that is one nearer. -/
theorem eq_entry_or_exists_nearer (h : p.Reaches entry file) :
    file = normalize entry ∨ ∃ other, p.Reaches entry other ∧ p.Imports other file ∧
      p.distance entry file = p.distance entry other + 1 := by
  have hmem := mem_level_distance h
  rcases hk : p.distance entry file with - | k
  · rw [hk] at hmem
    exact .inl (List.mem_singleton.1 hmem)
  · rw [hk] at hmem
    obtain ⟨other, hother, himports⟩ := mem_level_succ.1 hmem
    have hreaches := reaches_of_mem_level hother
    have hle := distance_le hother
    have hge := distance_le_succ hreaches himports
    exact .inr ⟨other, hreaches, himports, by omega⟩

end Project

/-! ### States of a search -/

namespace Discovery

variable {p : Project} {entry : String} {d d' : Discovery}

/-- What holds in every state of a search with sharing, as to distances. -/
structure Layered (p : Project) (entry : String) (d : Discovery) : Prop
    extends Shared p entry d where
  sorted : d.files.Pairwise fun f g => p.distance entry f ≤ p.distance entry g
  /-- No file found is more than one further away than the file that is finished next. -/
  within : ∀ {a rest}, d.queue = a :: rest → ∀ file ∈ d.files,
    p.distance entry file ≤ p.distance entry a.filename + 1
  /-- A file found after the entry was found as an import of one that is just one nearer. -/
  imported : ∀ {i file}, d.files[i]? = some file → i ≠ 0 → ∃ j < i, ∃ other,
    d.files[j]? = some other ∧ p.Imports other file ∧
      p.distance entry file = p.distance entry other + 1

/-- A file that is nearer than the next to be finished is finished, if it has been found. -/
theorem Layered.exists_finished (h : Layered p entry d) {a : UnlinkedAsset}
    {rest : List UnlinkedAsset} (hq : d.queue = a :: rest) {file : String} (hfile : file ∈ d.files)
    (hlt : p.distance entry file < p.distance entry a.filename) :
    ∃ b ∈ d.finished, b.filename = file := by
  have hsorted := h.sorted
  rw [files_eq_append] at hfile hsorted
  rcases List.mem_append.1 hfile with hfile | hfile
  · exact List.mem_map.1 hfile
  · -- those that wait are no nearer than the first of them
    exfalso
    have hwaiting := (List.pairwise_append.1 hsorted).2.1
    rw [hq, List.map_cons] at hfile hwaiting
    rcases List.mem_cons.1 hfile with rfl | hfile
    · exact Nat.lt_irrefl _ hlt
    · exact Nat.not_lt.2 ((List.pairwise_cons.1 hwaiting).1 file hfile) hlt

/-- **All files that are no further away than the next to be finished have been found.** -/
theorem Layered.mem_files (h : Layered p entry d) {a : UnlinkedAsset} {rest : List UnlinkedAsset}
    (hq : d.queue = a :: rest) {file : String} (hreaches : p.Reaches entry file)
    (hle : p.distance entry file ≤ p.distance entry a.filename) : file ∈ d.files := by
  induction hk : p.distance entry file generalizing file with
  | zero =>
      rcases Project.eq_entry_or_exists_nearer hreaches with rfl | ⟨_, _, _, hsucc⟩
      · rw [h.files_eq, List.mem_eraseDups]
        exact List.mem_cons_self
      · omega
  | succ k ih =>
      rcases Project.eq_entry_or_exists_nearer hreaches with rfl | ⟨other, hother, himports, hsucc⟩
      · rw [Project.distance_entry] at hk
        cases hk
      · -- an importer that is nearer has been found, so it is finished, with its imports
        have hnear : p.distance entry other < p.distance entry a.filename := by omega
        obtain ⟨b, hb, rfl⟩ := h.exists_finished hq (ih hother (Nat.le_of_lt hnear) (by omega)) hnear
        obtain ⟨s, hs, rfl⟩ := himports
        have hspecifiers : p.specifiers b.filename = b.dependencies :=
          Project.specifiers_of_compiled (h.compiled b.content (content_mem_found hb))
        exact h.targets_found hb (hspecifiers ▸ hs)

/-- What a step adds is one further away than the file that it finishes. -/
theorem Layered.distance_fresh (h : Layered p entry d) {a : UnlinkedAsset}
    {rest : List UnlinkedAsset} (hq : d.queue = a :: rest) {file : String}
    (hfile : file ∈ fresh d.files a.content.targets) :
    p.Imports a.filename file ∧
      p.distance entry file = p.distance entry a.filename + 1 := by
  have ha := content_mem_found_of_queue hq
  have hreaches : p.Reaches entry a.filename := h.reaches _ (List.mem_map_of_mem ha)
  have himports : p.Imports a.filename file :=
    (Project.mem_targets_iff (h.compiled _ ha)).1 (mem_of_mem_fresh hfile)
  have hle := Project.distance_le_succ hreaches himports
  have hgt : ¬ p.distance entry file ≤ p.distance entry a.filename := fun hnear =>
    notMem_of_mem_fresh hfile (h.mem_files hq (hreaches.tail himports) hnear)
  exact ⟨himports, by omega⟩

theorem Layered.start {m : CompiledModule} (hm : p.compiled entry = .ok m) :
    Layered p entry (initial.push m) where
  toShared := .start hm
  sorted := List.pairwise_singleton _ _
  within := by
    intro a rest hq file hfile
    obtain rfl : file = m.filename := List.mem_singleton.1 hfile
    rw [Project.filename_of_compiled hm, Project.distance_entry]
    exact Nat.zero_le _
  imported := by
    intro i file hfile hi
    obtain ⟨hlt, -⟩ := List.getElem?_eq_some_iff.1 hfile
    exact absurd (Nat.lt_one_iff.1 hlt) hi

theorem Layered.step (h : Layered p entry d) (hq : d.queue ≠ []) (hs : step p true d = .ok d') :
    Layered p entry d' := by
  have hshared := h.toShared.step hq hs
  obtain ⟨a, rest, ms, hq, -, hnew, rfl⟩ := h.exists_advance hq hs
  have hfiles : (d.advance a rest (sharedMapping (d.files ++ fresh d.files a.content.targets)
      a.filename a.dependencies) ms).files = d.files ++ fresh d.files a.content.targets := by
    rw [files_advance hq, hnew]
  have hwithin := h.within hq
  have hfresh : ∀ file ∈ fresh d.files a.content.targets, p.Imports a.filename file ∧
      p.distance entry file = p.distance entry a.filename + 1 := fun _ => h.distance_fresh hq
  have hsorted : (d.files ++ fresh d.files a.content.targets).Pairwise fun f g =>
      p.distance entry f ≤ p.distance entry g := by
    refine List.pairwise_append.2 ⟨h.sorted, ?_, fun f hf g hg => ?_⟩
    · refine List.pairwise_of_forall_mem_list fun f hf g hg => ?_
      rw [(hfresh f hf).2, (hfresh g hg).2]
    · rw [(hfresh g hg).2]
      exact hwithin f hf
  refine ⟨hshared, by rwa [hfiles], ?_, ?_⟩
  · intro b rest' hq' file hfile
    -- the next to be finished is no nearer than the one before it
    have hab : p.distance entry a.filename ≤ p.distance entry b.filename := by
      rw [← hfiles, files_eq_append, finished_advance, hq', List.map_append, List.append_assoc]
        at hsorted
      have hbehind := (List.pairwise_append.1 hsorted).2.1
      exact (List.pairwise_cons.1 hbehind).1 b.filename List.mem_cons_self
    rw [hfiles] at hfile
    rcases List.mem_append.1 hfile with hfile | hfile
    · exact Nat.le_trans (hwithin file hfile) (Nat.succ_le_succ hab)
    · rw [(hfresh file hfile).2]
      exact Nat.succ_le_succ hab
  · intro i file hfile hi
    rw [hfiles] at hfile ⊢
    by_cases hlt : i < d.files.length
    · rw [List.getElem?_append_left hlt] at hfile
      obtain ⟨j, hj, other, hother, himports⟩ := h.imported hfile hi
      exact ⟨j, hj, other, getElem?_append_of_some hother _, himports⟩
    · -- what is new is an import of the file that the step finishes
      rw [List.getElem?_append_right (Nat.not_lt.1 hlt)] at hfile
      have hfound : a.filename ∈ d.files := List.mem_map_of_mem (content_mem_found_of_queue hq)
      obtain ⟨j, hother⟩ := List.getElem?_of_mem hfound
      have hj := (List.getElem?_eq_some_iff.1 hother).1
      exact ⟨j, by omega, a.filename, getElem?_append_of_some hother _,
        hfresh file (List.mem_of_getElem? hfile)⟩

end Discovery

/-! ### The finished graph -/

/-- The numbers of a graph are in breadth-first order. -/
structure AssetGraph.IsBreadthFirst (g : AssetGraph) (p : Project) (entry : String) : Prop where
  mem_level : ∀ a ∈ g.assets, a.filename ∈ p.level entry (p.distance entry a.filename)
  id_lt : ∀ a ∈ g.assets, ∀ b ∈ g.assets,
    p.distance entry a.filename < p.distance entry b.filename → a.id < b.id
  /-- An asset is imported by one with a smaller number that is just one nearer. -/
  imported : ∀ b ∈ g.assets, b.id ≠ entryNumber → ∃ a ∈ g.assets, a.id < b.id ∧
    p.Imports a.filename b.filename ∧
      p.distance entry b.filename = p.distance entry a.filename + 1

/-- **With sharing the numbers of assets are in breadth-first order.** -/
theorem graph?_true_breadth_first (p : Project) (entry : String) (g : AssetGraph)
    (h : p.graph? true entry = .ok (some g)) : g.IsBreadthFirst p entry := by
  obtain ⟨d, hd, hq, rfl⟩ := Discovery.exists_of_graph? (I := Discovery.Layered p entry)
    Discovery.Layered.start Discovery.Layered.step h
  have hfiles := Discovery.files_finished hq
  have hid : ∀ {i : Nat} {a : Asset}, d.finished[i]? = some a → a.id = i :=
    Asset.id_eq_of_getElem? (hd.ids_finished hq)
  -- numbers are places, so each asset stands at the place of its number
  have hplace : ∀ a ∈ d.finished, d.files[a.id]? = some a.filename := by
    intro a ha
    obtain ⟨i, hi⟩ := List.getElem?_of_mem ha
    rw [hfiles, hid hi, List.getElem?_map, hi]
    rfl
  refine ⟨fun a ha => ?_, fun a ha b hb hlt => ?_, fun b hb hne => ?_⟩
  · exact Project.mem_level_distance (hd.reaches _ (List.mem_of_getElem? (hplace a ha)))
  · by_contra hle
    obtain ⟨hi, ha'⟩ := List.getElem?_eq_some_iff.1 (hplace a ha)
    obtain ⟨hj, hb'⟩ := List.getElem?_eq_some_iff.1 (hplace b hb)
    rcases Nat.lt_or_eq_of_le (Nat.le_of_not_lt hle) with hba | hba
    · have hsorted := List.pairwise_iff_getElem.1 hd.sorted _ _ hj hi hba
      rw [ha', hb'] at hsorted
      omega
    · have hsame := hplace b hb
      rw [hba, hplace a ha, Option.some.injEq] at hsame
      rw [hsame] at hlt
      exact Nat.lt_irrefl _ hlt
  · obtain ⟨j, hj, other, hother, himports, hsucc⟩ := hd.imported (hplace b hb) hne
    rw [hfiles, List.getElem?_map, Option.map_eq_some_iff] at hother
    obtain ⟨a, ha, rfl⟩ := hother
    exact ⟨a, List.mem_of_getElem? ha, (hid ha).symm ▸ hj, himports, hsucc⟩

/-- Files on three levels, with an import on the same level, one across two levels, and one back. -/
def Project.importingAcrossLevels : Project where
  read := (Sources.ofList [("a", "import 'b'; import 'c'"), ("b", "import 'd'; import 'c'"),
    ("c", "import 'a'; import 'd'"), ("d", "import 'b'")]).read
  target := ⟨.next, []⟩

theorem importingAcrossLevels_breadth_first :
    ∃ g, Project.importingAcrossLevels.graph? true "a" = .ok (some g) ∧
      g.IsBreadthFirst Project.importingAcrossLevels "a" := by
  obtain ⟨g, hg⟩ : ∃ g, Project.importingAcrossLevels.graph? true "a" = .ok (some g) :=
    exists_graph_of_isSome (by decide +kernel)
  exact ⟨g, hg, graph?_true_breadth_first Project.importingAcrossLevels "a" g hg⟩

end ModuleBundler
