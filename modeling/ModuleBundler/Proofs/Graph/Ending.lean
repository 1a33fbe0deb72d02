/-
ModuleBundler/Proofs/Graph/Ending.lean

Whether a search ends, and in what.

With sharing every step finishes a file that was not finished before.  What is found
has been read, so that a reader of finitely many texts bounds the number of steps
(`Shared.exists_run`).

Without sharing the queue, first in and first out, goes through the import tree level
by level: after as many steps as there are files above a level, exactly that level
waits, unless a file failed before (`Tree.exists_after_level`).  So a file that cannot
be built is met whatever cycles there are, an empty level is the end of the search,
and on an endless tree the queue never runs empty.

Main result: `endings_of_sources` says this of every entry over finitely many texts.
-/
import ModuleBundler.Proofs.Graph.Agreement
import ModuleBundler.Proofs.Graph.Level

namespace ModuleBundler

/-! ### Steps, one after the other -/

namespace Discovery

variable {p : Project} {dedupe : Bool} {entry : String} {d d' : Discovery}

/-- The state after a number of steps, if none of them fails. -/
def after (p : Project) (dedupe : Bool) : Nat → Discovery → Except BuildError Discovery
  | 0, d => .ok d
  | n + 1, d => (step p dedupe d).bind (after p dedupe n)

theorem step_of_isEmpty (hq : d.queue = []) : step p dedupe d = .ok d := by
  rw [step, hq]

theorem after_of_isEmpty (hq : d.queue = []) (n : Nat) : after p dedupe n d = .ok d := by
  induction n with
  | zero => rfl
  | succ n ih =>
      rw [after, step_of_isEmpty hq]
      exact ih

theorem after_add (m n : Nat) (d : Discovery) :
    after p dedupe (m + n) d = (after p dedupe m d).bind (after p dedupe n) := by
  induction m generalizing d with
  | zero =>
      rw [Nat.zero_add]
      rfl
  | succ m ih =>
      rw [Nat.succ_add, after, after]
      rcases step p dedupe d with e | d'
      · rfl
      · exact ih d'

/-- A run is as many steps as it may take; it gives a graph if the queue is empty then. -/
theorem run_eq_after (n : Nat) (d : Discovery) :
    run p dedupe n d =
      (after p dedupe n d).map fun e => if e.queue.isEmpty then some ⟨e.finished⟩ else none := by
  induction n generalizing d with
  | zero => rfl
  | succ n ih =>
      by_cases hq : d.queue = []
      · rw [run_of_isEmpty hq, after_of_isEmpty hq, Except.map, hq]
        rfl
      · rw [run_succ hq, after]
        rcases step p dedupe d with e | d'
        · rfl
        · exact ih d'

/-- What every step preserves holds where a step fails. -/
theorem exists_step_of_after_error {I : Discovery → Prop}
    (hstep : ∀ {d d'}, I d → d.queue ≠ [] → step p dedupe d = .ok d' → I d')
    {n : Nat} {x : BuildError} (hafter : after p dedupe n d = .error x) (hd : I d) :
    ∃ e, I e ∧ e.queue ≠ [] ∧ step p dedupe e = .error x := by
  induction n generalizing d with
  | zero => cases hafter
  | succ n ih =>
      have hq : d.queue ≠ [] := by
        intro hq
        rw [after_of_isEmpty hq] at hafter
        cases hafter
      rcases hs : step p dedupe d with e | d'
      · rw [after, hs] at hafter
        cases hafter
        exact ⟨d, hd, hq, hs⟩
      · rw [after, hs] at hafter
        exact ih hafter (hstep hd hq hs)

/-- Once the queue is empty the state stays as it is. -/
theorem after_of_le {m n : Nat} (hmn : m ≤ n) {e : Discovery}
    (hm : after p dedupe m d = .ok e) (hq : e.queue = []) : after p dedupe n d = .ok e := by
  obtain ⟨k, rfl⟩ := Nat.exists_eq_add_of_le hmn
  rw [after_add, hm]
  exact after_of_isEmpty hq k

/-- A failure is not undone by more steps. -/
theorem after_error_of_le {m n : Nat} (hmn : m ≤ n) {x : BuildError}
    (hm : after p dedupe m d = .error x) : after p dedupe n d = .error x := by
  obtain ⟨k, rfl⟩ := Nat.exists_eq_add_of_le hmn
  rw [after_add, hm]
  rfl

/-! ### Level by level -/

/-- A step without sharing puts the imports of the file at the head at the end of the queue. -/
theorem Tree.queue_step (h : Tree p entry d) {a : UnlinkedAsset} {rest : List UnlinkedAsset}
    (hq : d.queue = a :: rest) (hs : Discovery.step p false d = .ok d') :
    d'.queue.map (·.filename) = rest.map (·.filename) ++ p.imports a.filename := by
  rw [step_false hq] at hs
  rcases hms : p.compileAll a.content.targets with e | ms
  · rw [hms] at hs
    cases hs
  rw [hms] at hs
  cases hs
  have hnew := Project.filenames_of_subset_targets hms (List.Subset.refl _)
  have hcontent : (d.advance a rest (d.treeMapping a) ms).queue.map (·.content) =
      rest.map (·.content) ++ ms := content_queue_pushAll { d with queue := rest } ms
  have hfiles := congrArg (List.map CompiledModule.filename) hcontent
  rw [List.map_map, List.map_append, List.map_map, hnew,
    Project.targets_eq_imports (h.compiled _ (content_mem_found_of_queue hq))] at hfiles
  exact hfiles

/-- As many steps as there are files at the head of the queue put the imports of all of them at its
end. -/
theorem Tree.after_length (h : Tree p entry d) {files more : List String}
    (hq : d.queue.map (·.filename) = files ++ more) :
    (∃ x, after p false files.length d = .error x) ∨
      ∃ e, after p false files.length d = .ok e ∧ Tree p entry e ∧
        e.queue.map (·.filename) = more ++ files.flatMap p.imports := by
  induction files generalizing d more with
  | nil => exact .inr ⟨d, rfl, h, by simpa using hq⟩
  | cons file files ih =>
      obtain ⟨a, rest, hcons, rfl, hrest⟩ := List.map_eq_cons_iff.1 hq
      rw [List.length_cons, after]
      rcases hs : Discovery.step p false d with x | d'
      · exact .inl ⟨x, rfl⟩
      · have hqueue := h.queue_step hcons hs
        have hrest : rest.map (·.filename) = files ++ more := hrest
        rw [hrest, List.append_assoc] at hqueue
        rw [List.flatMap_cons, ← List.append_assoc]
        exact ih (h.step (by simp [hcons]) hs) hqueue

/-- After as many steps as there are files above a level, the level waits, unless a step failed. -/
theorem Tree.exists_after_level (h : Tree p entry d)
    (hq : d.queue.map (·.filename) = p.level entry 0) (k : Nat) :
    (∃ x, after p false ((List.range k).flatMap (p.level entry)).length d = .error x) ∨
      ∃ e, after p false ((List.range k).flatMap (p.level entry)).length d = .ok e ∧
        Tree p entry e ∧ e.queue.map (·.filename) = p.level entry k := by
  induction k with
  | zero => exact .inr ⟨d, rfl, h, hq⟩
  | succ k ih =>
      rw [List.range_succ, List.flatMap_append, List.flatMap_singleton, List.length_append,
        after_add]
      rcases ih with ⟨x, hx⟩ | ⟨e, he, htree, hlevel⟩
      · rw [hx]
        exact .inl ⟨x, rfl⟩
      · rw [he, Project.level_succ]
        have hwaiting : e.queue.map (·.filename) = p.level entry k ++ [] := by
          rw [hlevel, List.append_nil]
        exact htree.after_length hwaiting

/-- A file that waits is reached. -/
def Waiting (p : Project) (entry : String) (d : Discovery) : Prop :=
  ∀ a ∈ d.queue, p.Reaches entry a.filename

theorem Tree.waiting_step (h : Tree p entry d) (hw : Waiting p entry d) (hq : d.queue ≠ [])
    (hs : Discovery.step p false d = .ok d') : Waiting p entry d' := by
  obtain ⟨a, rest, hq⟩ := List.exists_cons_of_ne_nil hq
  have hqueue := h.queue_step hq hs
  intro b hb
  have hfile : b.filename ∈ rest.map (·.filename) ++ p.imports a.filename := by
    rw [← hqueue]
    exact List.mem_map_of_mem hb
  rcases List.mem_append.1 hfile with hfile | hfile
  · obtain ⟨c, hc, hname⟩ := List.mem_map.1 hfile
    rw [← hname]
    exact hw c (by rw [hq]; exact List.mem_cons_of_mem _ hc)
  · have ha := hw a (by rw [hq]; exact List.mem_cons_self)
    exact ha.tail (Project.mem_imports_iff.1 hfile)

/-- If a step fails without sharing, then a file that is reached cannot be built. -/
theorem Tree.exists_of_step_error (h : Tree p entry d) (hw : Waiting p entry d)
    (hq : d.queue ≠ []) {x : BuildError} (hs : Discovery.step p false d = .error x) :
    ∃ file, p.Reaches entry file ∧ ¬ p.Builds file := by
  obtain ⟨a, rest, hq⟩ := List.exists_cons_of_ne_nil hq
  have ha := hw a (by rw [hq]; exact List.mem_cons_self)
  by_contra hnone
  have hall : ∀ file ∈ a.content.targets, p.Builds file := by
    intro file hfile
    rw [Project.targets_eq_imports (h.compiled _ (content_mem_found_of_queue hq))] at hfile
    by_contra hbuild
    exact hnone ⟨file, ha.tail (Project.mem_imports_iff.1 hfile), hbuild⟩
  obtain ⟨ms, hms⟩ := p.exists_compileAll hall
  rw [step_false hq, hms] at hs
  cases hs

end Discovery

/-! ### Searches of any length -/

namespace Project

variable {p : Project} {dedupe : Bool} {entry : String} {n : Nat}

/-- The state of a search after a number of steps, if nothing fails. -/
def state (p : Project) (dedupe : Bool) (entry : String) (n : Nat) : Except BuildError Discovery :=
  (Discovery.start p entry).bind (Discovery.after p dedupe n)

/-- What a search ends in that may take a number of steps; nothing if that is not enough. -/
def search (p : Project) (dedupe : Bool) (entry : String) (n : Nat) :
    Except BuildError (Option AssetGraph) :=
  (Discovery.start p entry).bind (Discovery.run p dedupe n)

theorem graph?_eq_search (p : Project) (dedupe : Bool) (entry : String) :
    p.graph? dedupe entry = p.search dedupe entry AssetGraph.limit := by
  unfold graph? search
  rcases Discovery.start p entry with x | d <;> rfl

theorem search_eq_state (p : Project) (dedupe : Bool) (entry : String) (n : Nat) :
    p.search dedupe entry n =
      (p.state dedupe entry n).map fun d => if d.queue.isEmpty then some ⟨d.finished⟩ else none := by
  unfold search state
  rcases Discovery.start p entry with x | d
  · rfl
  · exact Discovery.run_eq_after n d

/-- A search ends, in a failure or a graph, if it may take as many steps as it needs. -/
def EndsIn (p : Project) (dedupe : Bool) (entry : String) (r : Except BuildError AssetGraph) :
    Prop :=
  ∃ n, p.search dedupe entry n = r.map some

theorem endsIn_error_iff {x : BuildError} :
    p.EndsIn dedupe entry (.error x) ↔ ∃ n, p.state dedupe entry n = .error x := by
  refine exists_congr fun n => ?_
  rw [search_eq_state]
  rcases p.state dedupe entry n with y | d <;> simp [Except.map]

theorem endsIn_ok_iff {g : AssetGraph} :
    p.EndsIn dedupe entry (.ok g) ↔
      ∃ n d, p.state dedupe entry n = .ok d ∧ d.queue = [] ∧ g = ⟨d.finished⟩ := by
  refine exists_congr fun n => ?_
  rw [search_eq_state]
  rcases p.state dedupe entry n with y | d
  · simp [Except.map]
  · by_cases hq : d.queue = []
    · simp only [Except.map, hq, List.isEmpty_nil, if_true, Except.ok.injEq, Option.some.injEq]
      constructor
      · rintro rfl
        exact ⟨d, rfl, hq, rfl⟩
      · rintro ⟨e, rfl, -, rfl⟩
        rfl
    · simp only [Except.map, List.isEmpty_iff, hq, if_false, Except.ok.injEq, reduceCtorEq,
        false_iff, not_exists, not_and]
      rintro e rfl hq'
      exact absurd hq' hq

theorem state_of_le {m : Nat} (hmn : m ≤ n) {d : Discovery}
    (hm : p.state dedupe entry m = .ok d) (hq : d.queue = []) :
    p.state dedupe entry n = .ok d := by
  unfold state at hm ⊢
  rcases hs : Discovery.start p entry with x | e
  · rw [hs] at hm
    cases hm
  · rw [hs] at hm
    exact Discovery.after_of_le hmn hm hq

theorem state_error_of_le {m : Nat} (hmn : m ≤ n) {x : BuildError}
    (hm : p.state dedupe entry m = .error x) : p.state dedupe entry n = .error x := by
  unfold state at hm ⊢
  rcases hs : Discovery.start p entry with y | e
  · rw [hs] at hm
    exact hm
  · rw [hs] at hm
    exact Discovery.after_error_of_le hmn hm

/-! ### Without sharing -/

/-- The number of files above a level of the import tree. -/
def sizeAbove (p : Project) (entry : String) (k : Nat) : Nat :=
  ((List.range k).flatMap (p.level entry)).length

/-- If no level is empty, then there are at least as many files above a level as levels. -/
theorem le_sizeAbove (h : ∀ k, p.level entry k ≠ []) (k : Nat) : k ≤ p.sizeAbove entry k := by
  induction k with
  | zero => exact Nat.zero_le _
  | succ k ih =>
      have hlevel : 0 < (p.level entry k).length := List.length_pos_iff.2 (h k)
      unfold sizeAbove at ih ⊢
      rw [List.range_succ, List.flatMap_append, List.flatMap_singleton, List.length_append]
      omega

/-- A search without sharing gets to every level, unless it fails. -/
theorem exists_state_level (p : Project) (entry : String) (k : Nat) :
    (∃ x, p.state false entry (p.sizeAbove entry k) = .error x) ∨
      ∃ d, p.state false entry (p.sizeAbove entry k) = .ok d ∧ Discovery.Tree p entry d ∧
        d.queue.map (·.filename) = p.level entry k := by
  unfold state
  rw [Discovery.start_eq]
  rcases hm : p.compiled entry with x | m
  · exact .inl ⟨x, rfl⟩
  · have hfiles : (Discovery.initial.push m).queue.map (·.filename) = p.level entry 0 := by
      show [m.filename] = _
      rw [filename_of_compiled hm]
      rfl
    exact (Discovery.Tree.start hm).exists_after_level hfiles k

/-- A search without sharing fails only if a file that is reached cannot be built. -/
theorem exists_not_builds_of_state {x : BuildError} (h : p.state false entry n = .error x) :
    ∃ file, p.Reaches entry file ∧ ¬ p.Builds file := by
  unfold state at h
  rw [Discovery.start_eq] at h
  rcases hm : p.compiled entry with y | m
  · refine ⟨normalize entry, p.reaches_entry entry, ?_⟩
    rintro ⟨m, hm'⟩
    rw [compiled_normalize, hm] at hm'
    cases hm'
  · rw [hm] at h
    have hwaiting : Discovery.Waiting p entry (Discovery.initial.push m) := by
      intro a ha
      obtain rfl := List.mem_singleton.1 ha
      show p.Reaches entry m.filename
      rw [filename_of_compiled hm]
      exact p.reaches_entry entry
    obtain ⟨e, ⟨htree, hw⟩, hq, hs⟩ := Discovery.exists_step_of_after_error
      (I := fun d => Discovery.Tree p entry d ∧ Discovery.Waiting p entry d)
      (fun hd hq hs => ⟨hd.1.step hq hs, hd.1.waiting_step hd.2 hq hs⟩) h
      ⟨.start hm, hwaiting⟩
    exact htree.exists_of_step_error hw hq hs

/-- A file that is reached and cannot be built makes a search without sharing fail, whatever else
is reached. -/
theorem exists_state_error {file : String} (hreach : p.Reaches entry file)
    (hbuild : ¬ p.Builds file) : ∃ n x, p.state false entry n = .error x := by
  obtain ⟨k, hk⟩ := reaches_iff_exists_mem_level.1 hreach
  rcases p.exists_state_level entry k with ⟨x, hx⟩ | ⟨d, -, htree, hlevel⟩
  · exact ⟨_, x, hx⟩
  · -- the file would wait, but what waits has been built
    rw [← hlevel] at hk
    have hfile : file ∈ d.files := by
      rw [Discovery.files_eq_append]
      exact List.mem_append_right _ hk
    exact absurd (htree.exists_compiled hfile) hbuild

/-- If all that is reached can be built and no level is empty, then the queue never is. -/
theorem exists_state_queue (hbuild : ∀ file, p.Reaches entry file → p.Builds file)
    (hlevel : ∀ k, p.level entry k ≠ []) (n : Nat) :
    ∃ d, p.state false entry n = .ok d ∧ d.queue ≠ [] := by
  have hok : ∀ n x, p.state false entry n ≠ .error x := by
    intro n x hx
    obtain ⟨file, hreach, hnot⟩ := exists_not_builds_of_state hx
    exact hnot (hbuild file hreach)
  rcases hd : p.state false entry n with x | d
  · exact absurd hd (hok n x)
  · refine ⟨d, rfl, fun hq => ?_⟩
    -- an empty queue would stay empty up to a level further down
    rcases p.exists_state_level entry n with ⟨x, hx⟩ | ⟨e, he, -, hfiles⟩
    · exact hok _ x hx
    · rw [state_of_le (le_sizeAbove hlevel n) hd hq] at he
      cases he
      rw [hq] at hfiles
      exact hlevel n hfiles.symm

/-- If all that is reached can be built and some level is empty, then the queue is empty at last. -/
theorem exists_state_isEmpty (hbuild : ∀ file, p.Reaches entry file → p.Builds file) {k : Nat}
    (hlevel : p.level entry k = []) : ∃ n d, p.state false entry n = .ok d ∧ d.queue = [] := by
  rcases p.exists_state_level entry k with ⟨x, hx⟩ | ⟨d, hd, -, hfiles⟩
  · obtain ⟨file, hreach, hnot⟩ := exists_not_builds_of_state hx
    exact absurd (hbuild file hreach) hnot
  · rw [hlevel] at hfiles
    exact ⟨_, d, hd, List.map_eq_nil_iff.1 hfiles⟩

/-- A graph without sharing has all that is reached, and there is no cycle in it. -/
theorem builds_and_acyclic_of_state {d : Discovery} (hd : p.state false entry n = .ok d)
    (hq : d.queue = []) :
    (∀ file, p.Reaches entry file → p.Builds file) ∧
      ∀ file, p.Reaches entry file → ¬ Relation.TransGen p.Imports file file := by
  have hbuild : ∀ file, p.Reaches entry file → p.Builds file := by
    intro file hreach
    by_contra hnot
    obtain ⟨m, x, hx⟩ := exists_state_error hreach hnot
    have hok := state_of_le (Nat.le_max_left n m) hd hq
    rw [state_error_of_le (Nat.le_max_right n m) hx] at hok
    cases hok
  refine ⟨hbuild, fun file hreach hcycle => ?_⟩
  obtain ⟨e, he, hne⟩ := exists_state_queue hbuild (level_ne_nil_of_cycle hreach hcycle) n
  rw [hd] at he
  cases he
  exact hne hq

/-! ### Finitely many texts -/

/-- A file that can be built has a text. -/
theorem mem_keys_of_builds {s : Sources} {target : Target} {file : String}
    (h : Builds ⟨s.read, target⟩ file) : normalize file ∈ s.files.keys := by
  obtain ⟨m, hm⟩ := h
  rw [Table.mem_keys_iff]
  by_contra hnone
  have hread : s.read (normalize file) = .error (.absent (normalize file)) := by
    unfold Sources.read
    rw [normalize_normalize, Option.not_isSome_iff_eq_none.1 hnone]
  have hfile : SourceModule.ofFile s.read file =
      .error (.unreadable (normalize file) (.absent (normalize file))) := by
    simp only [SourceModule.ofFile, hread]
  simp only [compiled, hfile] at hm
  cases hm

/-- Over finitely many texts finitely many files can be built. -/
theorem finite_reaches {s : Sources} {target : Target}
    (h : ∀ file, Reaches ⟨s.read, target⟩ entry file → Builds ⟨s.read, target⟩ file) :
    {file | Reaches ⟨s.read, target⟩ entry file}.Finite := by
  refine s.files.keys.finite_toSet.subset fun file hfile => ?_
  have hkey := mem_keys_of_builds (h file hfile)
  rw [Reaches.normalize_eq hfile] at hkey
  exact hkey

end Project

/-! ### With sharing -/

namespace Discovery

variable {p : Project} {entry : String} {d : Discovery}

/-- Over finitely many texts a search with sharing finds no more files than there are. -/
theorem Shared.length_files_le {s : Sources} {target : Target}
    (h : Shared ⟨s.read, target⟩ entry d) : d.files.length ≤ s.files.size := by
  have hsubset : d.files ⊆ s.files.keys := by
    intro file hfile
    have hkey := Project.mem_keys_of_builds (h.exists_compiled hfile)
    rw [(h.reaches file hfile).normalize_eq] at hkey
    exact hkey
  calc d.files.length
      ≤ s.files.keys.length := (h.isIndex.nodup.subperm hsubset).length_le
    _ = s.files.size := List.length_map _

theorem Shared.length_finished_step (h : Shared p entry d) (hq : d.queue ≠ []) {d' : Discovery}
    (hs : Discovery.step p true d = .ok d') : d'.finished.length = d.finished.length + 1 := by
  obtain ⟨a, rest, hq⟩ := List.exists_cons_of_ne_nil hq
  rw [step_true hq h.isIndex h.length_files.symm] at hs
  rcases hms : p.compileAll (fresh d.files a.content.targets) with x | ms
  · rw [hms] at hs
    cases hs
  · rw [hms] at hs
    cases hs
    rw [finished_advance, List.length_append, List.length_singleton]

/-- Every step with sharing finishes a file, so the steps to come are as many as the files that are
not finished. -/
theorem Shared.exists_run {s : Sources} {target : Target} (h : Shared ⟨s.read, target⟩ entry d)
    {n : Nat} (hn : s.files.size ≤ d.finished.length + n) :
    ∃ r : Except BuildError AssetGraph, run ⟨s.read, target⟩ true n d = r.map some := by
  induction n generalizing d with
  | zero =>
      have hq : d.queue = [] := by
        have hfiles := h.length_files_le
        rw [files_eq_append, List.length_append, List.length_map, List.length_map] at hfiles
        exact List.length_eq_zero_iff.1 (by omega)
      exact ⟨.ok ⟨d.finished⟩, run_of_isEmpty hq 0⟩
  | succ n ih =>
      by_cases hq : d.queue = []
      · exact ⟨.ok ⟨d.finished⟩, run_of_isEmpty hq _⟩
      · rw [run_succ hq]
        rcases hs : Discovery.step ⟨s.read, target⟩ true d with x | d'
        · exact ⟨.error x, rfl⟩
        · refine ih (h.step hq hs) ?_
          rw [h.length_finished_step hq hs]
          omega

end Discovery

/-- If all that is reached can be built and there is no cycle, then the queue is empty at last. -/
theorem Project.exists_state_isEmpty_of_acyclic {s : Sources} {target : Target} {entry : String}
    (hbuild : ∀ file, Project.Reaches ⟨s.read, target⟩ entry file →
      Project.Builds ⟨s.read, target⟩ file)
    (hacyclic : ∀ file, Project.Reaches ⟨s.read, target⟩ entry file →
      ¬ Relation.TransGen (Project.Imports ⟨s.read, target⟩) file file) :
    ∃ n d, Project.state ⟨s.read, target⟩ false entry n = .ok d ∧ d.queue = [] := by
  obtain ⟨k, hk⟩ := exists_level_eq_nil (finite_reaches hbuild) hacyclic
  exact exists_state_isEmpty hbuild hk

/-! ### How searches end -/

/-- How the searches for an entry end, over a number of texts. -/
structure Project.Endings (p : Project) (entry : String) (texts : Nat) : Prop where
  /-- With sharing no more assets are taken off the queue than there are texts. -/
  shared_ends : ∃ r : Except BuildError AssetGraph, p.search true entry texts = r.map some
  /-- Without sharing a search fails exactly if it reaches a file that cannot be built, -/
  fails_iff : (∃ x, p.EndsIn false entry (.error x)) ↔
    ∃ file, p.Reaches entry file ∧ ¬ p.Builds file
  /-- and it gives a graph exactly if all that it reaches can be built and there is no cycle. -/
  graph_iff : (∃ g, p.EndsIn false entry (.ok g)) ↔
    (∀ file, p.Reaches entry file → p.Builds file) ∧
      ∀ file, p.Reaches entry file → ¬ Relation.TransGen p.Imports file file
  /-- Otherwise there is an asset in the queue after any number of steps. -/
  endless_iff : (∀ n, ∃ d, p.state false entry n = .ok d ∧ d.queue ≠ []) ↔
    (∀ file, p.Reaches entry file → p.Builds file) ∧
      ∃ file, p.Reaches entry file ∧ Relation.TransGen p.Imports file file

/-- **With sharing a search always ends; without, it ends unless it reaches a cycle and no file
that cannot be built.** -/
theorem endings_of_sources (s : Sources) (target : Target) (entry : String) :
    Project.Endings ⟨s.read, target⟩ entry s.files.size := by
  refine ⟨?_, ?_, ?_, ?_⟩
  · unfold Project.search
    rw [Discovery.start_eq]
    rcases hm : Project.compiled ⟨s.read, target⟩ entry with x | m
    · exact ⟨.error x, rfl⟩
    · exact (Discovery.Shared.start hm).exists_run (Nat.le_add_left _ _)
  · constructor
    · rintro ⟨x, hx⟩
      obtain ⟨n, hn⟩ := Project.endsIn_error_iff.1 hx
      exact Project.exists_not_builds_of_state hn
    · rintro ⟨file, hreach, hnot⟩
      obtain ⟨n, x, hx⟩ := Project.exists_state_error hreach hnot
      exact ⟨x, Project.endsIn_error_iff.2 ⟨n, hx⟩⟩
  · constructor
    · rintro ⟨g, hg⟩
      obtain ⟨n, d, hd, hq, -⟩ := Project.endsIn_ok_iff.1 hg
      exact Project.builds_and_acyclic_of_state hd hq
    · rintro ⟨hbuild, hacyclic⟩
      obtain ⟨n, d, hd, hq⟩ := Project.exists_state_isEmpty_of_acyclic hbuild hacyclic
      exact ⟨⟨d.finished⟩, Project.endsIn_ok_iff.2 ⟨n, d, hd, hq, rfl⟩⟩
  · constructor
    · intro hendless
      -- a search that fails has no state any more
      have hbuild : ∀ file, Project.Reaches ⟨s.read, target⟩ entry file →
          Project.Builds ⟨s.read, target⟩ file := by
        intro file hreach
        by_contra hnot
        obtain ⟨n, x, hx⟩ := Project.exists_state_error hreach hnot
        obtain ⟨d, hd, -⟩ := hendless n
        rw [hx] at hd
        cases hd
      refine ⟨hbuild, ?_⟩
      by_contra hnone
      -- a search that reaches no cycle would come to an end
      obtain ⟨n, d, hd, hq⟩ := Project.exists_state_isEmpty_of_acyclic hbuild
        fun file hreach hcycle => hnone ⟨file, hreach, hcycle⟩
      obtain ⟨e, he, hne⟩ := hendless n
      rw [hd] at he
      cases he
      exact hne hq
    · rintro ⟨hbuild, file, hreach, hcycle⟩ n
      exact Project.exists_state_queue hbuild (Project.level_ne_nil_of_cycle hreach hcycle) n

end ModuleBundler
