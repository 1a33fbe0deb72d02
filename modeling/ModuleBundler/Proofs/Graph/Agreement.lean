/-
ModuleBundler/Proofs/Graph/Agreement.lean

Searching with sharing and without.  The search with sharing goes through the files
that the other one goes through, without the repetitions: in step with it,

    finished files, shared  =  (finished files, unshared).eraseDups
    files found, shared     =  (files found, unshared).eraseDups

(`Agrees`).  If the asset at the head of the longer queue is of a file that has been
finished before, then all its targets have been found and can be compiled, so the
longer search makes its step and the shorter one waits.  If the file is new, then it
is at the head of the shorter queue as well.  Both compile its targets, one of them
without those that are known; as these can be compiled, the first failure is the same
(`compileAll_fresh`).

Main result: `graph?_true_of_graph?_false` says that sharing changes neither the failure
of a search, nor the files of its graph and their order, nor what an asset is.
-/
import ModuleBundler.Proofs.Graph.Shared
import ModuleBundler.Proofs.Graph.Tree

namespace ModuleBundler

/-! ### Failures -/

/-- Leaving out files that can be compiled, and repetitions, leaves the first failure. -/
theorem Project.compileAll_fresh (p : Project) {known : List String}
    (hknown : ∀ file ∈ known, ∃ m, p.compiled file = .ok m) (files : List String) :
    (p.compileAll (fresh known files)).map (fun _ => ()) =
      (p.compileAll files).map (fun _ => ()) := by
  -- a file that can be compiled does not decide whether a list of files can
  have hcons : ∀ {file m} (hm : p.compiled file = .ok m) (files : List String),
      (p.compileAll (file :: files)).map (fun _ => ()) =
        (p.compileAll files).map (fun _ => ()) := by
    intro file m hm files
    rw [compileAll_cons_ok hm]
    rcases p.compileAll files with e | ms <;> rfl
  induction files generalizing known with
  | nil => rfl
  | cons file files ih =>
      by_cases hfile : file ∈ known
      · obtain ⟨m, hm⟩ := hknown file hfile
        rw [fresh_cons_of_mem hfile, hcons hm, ih hknown]
      · rw [fresh_cons_of_notMem hfile]
        rcases hm : p.compiled file with e | m
        · rw [compileAll_cons_error hm, compileAll_cons_error hm]
        · rw [hcons hm, hcons hm]
          refine ih fun other hother => ?_
          rcases List.mem_append.1 hother with hother | hother
          · exact hknown other hother
          · obtain rfl := List.mem_singleton.1 hother
            exact ⟨m, hm⟩

/-- Files that can be compiled can be compiled together. -/
theorem Project.exists_compileAll (p : Project) {files : List String}
    (h : ∀ file ∈ files, ∃ m, p.compiled file = .ok m) : ∃ ms, p.compileAll files = .ok ms := by
  induction files with
  | nil => exact ⟨[], rfl⟩
  | cons file files ih =>
      obtain ⟨m, hm⟩ := h file List.mem_cons_self
      obtain ⟨ms, hms⟩ := ih fun other hother => h other (List.mem_cons_of_mem _ hother)
      exact ⟨m :: ms, by rw [compileAll_cons_ok hm, hms, Except.map]⟩

theorem eraseDups_append_of_subset {known files : List String} (h : ∀ file ∈ files, file ∈ known) :
    (known ++ files).eraseDups = known.eraseDups := by
  have hnone : files.removeAll known = [] := by
    rw [List.removeAll, List.filter_eq_nil_iff]
    simpa using h
  rw [eraseDups_append_eq_fresh, fresh, hnone, List.eraseDups_nil, List.append_nil]

namespace Discovery

variable {p : Project} {entry : String} {d d' e : Discovery}

/-! ### Known files -/

/-- If the file of the asset to be linked has been finished, then its targets are known. -/
theorem Tree.targets_found (h : Tree p entry d) {a : UnlinkedAsset} {rest : List UnlinkedAsset}
    (hq : d.queue = a :: rest) (ha : a.filename ∈ d.finished.map (·.filename)) :
    ∀ file ∈ a.content.targets, file ∈ d.files := by
  intro file hfile
  obtain ⟨b, hb, hname⟩ := List.mem_map.1 ha
  have hcontent : b.content = a.content :=
    Project.eq_of_filename_eq (h.compiled _ (content_mem_found hb))
      (h.compiled _ (content_mem_found_of_queue hq)) hname
  rw [h.files_eq]
  exact List.mem_cons_of_mem _ (List.mem_flatMap.2 ⟨b, hb, hcontent.symm ▸ hfile⟩)

/-! ### Searches in step -/

/-- A search with sharing has gone as far as one without. -/
structure Agrees (d e : Discovery) : Prop where
  finished_eq : e.finished.map (·.filename) = (d.finished.map (·.filename)).eraseDups
  files_eq : e.files = d.files.eraseDups

theorem Agrees.queue_files (h : Agrees d e) :
    e.queue.map (·.filename) =
      fresh (d.finished.map (·.filename)) (d.queue.map (·.filename)) := by
  have hfiles := h.files_eq
  rw [files_eq_append, files_eq_append, eraseDups_append_eq_fresh, h.finished_eq] at hfiles
  exact List.append_cancel_left hfiles

/-- Both searches end together. -/
theorem Agrees.queue_eq_nil (h : Agrees d e) (hq : d.queue = []) : e.queue = [] := by
  have hqueue := h.queue_files
  rw [hq] at hqueue
  exact List.map_eq_nil_iff.1 hqueue

/-- If the next file without sharing has been finished, then the step there adds nothing. -/
theorem Agrees.step_of_mem (h : Agrees d e) (hd : Tree p entry d) {a : UnlinkedAsset}
    {rest : List UnlinkedAsset} (hq : d.queue = a :: rest)
    (ha : a.filename ∈ d.finished.map (·.filename)) :
    ∃ d', step p false d = .ok d' ∧ Agrees d' e := by
  have htargets := hd.targets_found hq ha
  obtain ⟨ms, hms⟩ := p.exists_compileAll fun file hfile =>
    hd.exists_compiled (htargets file hfile)
  refine ⟨_, by rw [step_false hq, hms, Except.map], ?_, ?_⟩
  · have hold : ∀ file ∈ [a.filename], file ∈ d.finished.map (·.filename) := by
      simpa using ha
    rw [h.finished_eq, finished_advance, List.map_append]
    exact (eraseDups_append_of_subset hold).symm
  · have hnew := Project.filenames_of_subset_targets hms (List.Subset.refl _)
    rw [h.files_eq, files_advance hq, hnew, eraseDups_append_of_subset htargets]

/-- If the next file without sharing is new, then it is next with sharing as well, and both steps
fail or succeed alike. -/
theorem Agrees.step_of_notMem (h : Agrees d e) (hd : Tree p entry d) (he : Shared p entry e)
    {a : UnlinkedAsset} {rest : List UnlinkedAsset} (hq : d.queue = a :: rest)
    (ha : a.filename ∉ d.finished.map (·.filename)) :
    e.queue ≠ [] ∧ ((∃ x, step p false d = .error x ∧ step p true e = .error x) ∨
      ∃ d' e', step p false d = .ok d' ∧ step p true e = .ok e' ∧ Agrees d' e') := by
  obtain ⟨b, rest', hq', hname⟩ : ∃ b rest', e.queue = b :: rest' ∧ b.filename = a.filename := by
    have hqueue := h.queue_files
    rw [hq, List.map_cons, fresh_cons_of_notMem ha] at hqueue
    obtain ⟨b, rest', hq', hname, -⟩ := List.map_eq_cons_iff.1 hqueue
    exact ⟨b, rest', hq', hname⟩
  have hcontent : b.content = a.content :=
    Project.eq_of_filename_eq (he.compiled _ (content_mem_found_of_queue hq'))
      (hd.compiled _ (content_mem_found_of_queue hq)) hname
  refine ⟨by simp [hq'], ?_⟩
  -- what is known to the search with sharing can be compiled, so the rest decides
  have hfresh := p.compileAll_fresh (fun file hfile => he.exists_compiled hfile)
    a.content.targets
  rw [step_false hq, step_true hq' he.isIndex he.length_files.symm, hcontent]
  rcases hms : p.compileAll a.content.targets with x | ms
  · refine .inl ⟨x, rfl, ?_⟩
    rcases hms' : p.compileAll (fresh e.files a.content.targets) with x' | ms'
    · rw [hms, hms'] at hfresh
      cases hfresh
      rfl
    · rw [hms, hms'] at hfresh
      cases hfresh
  · rcases hms' : p.compileAll (fresh e.files a.content.targets) with x' | ms'
    · rw [hms, hms'] at hfresh
      cases hfresh
    · refine .inr ⟨_, _, rfl, rfl, ?_, ?_⟩
      · have hnew : fresh (d.finished.map (·.filename)) [a.filename] = [a.filename] := by
          rw [fresh_cons_of_notMem ha]
          rfl
        rw [finished_advance, finished_advance, List.map_append, List.map_append, h.finished_eq]
        show _ ++ [b.filename] = (_ ++ [a.filename]).eraseDups
        rw [eraseDups_append_eq_fresh, hnew, hname]
      · have hknown : ∀ file, file ∈ d.files ↔ file ∈ e.files := by
          intro file
          rw [h.files_eq, List.mem_eraseDups]
        have hnew := Project.filenames_of_subset_targets hms (List.Subset.refl _)
        have hnew' := Project.filenames_of_subset_targets hms' fun _ => mem_of_mem_fresh
        rw [files_advance hq, files_advance hq', hnew, hnew', eraseDups_append_eq_fresh,
          ← h.files_eq, fresh_congr hknown]

/-- Where nothing is left to be linked, both runs end. -/
theorem Agrees.run_of_isEmpty (h : Agrees d e) (hd : Tree p entry d) (he : Shared p entry e)
    (hq : d.queue = []) (n m : Nat) :
    (∀ x, run p false n d = .error x → run p true m e = .error x) ∧
      ∀ g, run p false n d = .ok (some g) → ∃ d' e', Tree p entry d' ∧ Shared p entry e' ∧
        Agrees d' e' ∧ d'.queue = [] ∧ e'.queue = [] ∧ g = ⟨d'.finished⟩ ∧
        run p true m e = .ok (some ⟨e'.finished⟩) := by
  rw [Discovery.run_of_isEmpty hq, Discovery.run_of_isEmpty (h.queue_eq_nil hq)]
  refine ⟨fun x hx => (by cases hx), fun g hg => ?_⟩
  cases hg
  exact ⟨d, e, hd, he, h, hq, h.queue_eq_nil hq, rfl, rfl⟩

/-- Runs from states in step end alike, if the search with sharing may take as many steps. -/
theorem Agrees.run (h : Agrees d e) (hd : Tree p entry d) (he : Shared p entry e) {n m : Nat}
    (hnm : n ≤ m) :
    (∀ x, run p false n d = .error x → run p true m e = .error x) ∧
      ∀ g, run p false n d = .ok (some g) → ∃ d' e', Tree p entry d' ∧ Shared p entry e' ∧
        Agrees d' e' ∧ d'.queue = [] ∧ e'.queue = [] ∧ g = ⟨d'.finished⟩ ∧
        run p true m e = .ok (some ⟨e'.finished⟩) := by
  induction n generalizing d e m with
  | zero =>
      by_cases hq : d.queue = []
      · exact h.run_of_isEmpty hd he hq _ m
      · rw [run_zero hq]
        exact ⟨fun x hx => (by cases hx), fun g hg => (by cases hg)⟩
  | succ n ih =>
      by_cases hq : d.queue = []
      · exact h.run_of_isEmpty hd he hq _ m
      · obtain ⟨a, rest, hcons⟩ := List.exists_cons_of_ne_nil hq
        rw [run_succ hq]
        by_cases ha : a.filename ∈ d.finished.map (·.filename)
        · -- the search with sharing waits
          obtain ⟨d', hs, h'⟩ := h.step_of_mem hd hcons ha
          rw [hs]
          exact ih h' (hd.step hq hs) he (Nat.le_of_succ_le hnm)
        · obtain ⟨m, rfl⟩ : ∃ k, m = k + 1 := ⟨m - 1, by omega⟩
          obtain ⟨hq', hstep⟩ := h.step_of_notMem hd he hcons ha
          rw [run_succ hq']
          rcases hstep with ⟨x, hs, hs'⟩ | ⟨d', e', hs, hs', h'⟩
          · rw [hs, hs']
            exact ⟨fun y hy => hy, fun g hg => (by cases hg)⟩
          · rw [hs, hs']
            exact ih h' (hd.step hq hs) (he.step hq' hs') (Nat.le_of_succ_le_succ hnm)

end Discovery

/-! ### The finished graphs -/

/-- A graph shares the assets of another: it has the same files in the same order, each once, and
what the file of an asset holds is the same in both. -/
structure AssetGraph.IsSharingOf (shared g : AssetGraph) : Prop where
  files_eq : shared.assets.map (·.filename) = (g.assets.map (·.filename)).eraseDups
  content_eq : ∀ a ∈ shared.assets ++ g.assets, ∀ b ∈ shared.assets ++ g.assets,
    a.filename = b.filename → a.code = b.code ∧ a.dependencies = b.dependencies

/-- **Where the search without sharing ends, the search with sharing ends in the same way.** -/
theorem graph?_true_of_graph?_false (p : Project) (entry : String) :
    (∀ x, p.graph? false entry = .error x → p.graph? true entry = .error x) ∧
      ∀ g, p.graph? false entry = .ok (some g) →
        ∃ g', p.graph? true entry = .ok (some g') ∧ g'.IsSharingOf g := by
  rcases hm : p.compiled entry with x | m
  · rw [Discovery.graph?_of_error hm, Discovery.graph?_of_error hm]
    exact ⟨fun y hy => hy, fun g hg => (by cases hg)⟩
  have hstart : Discovery.Agrees (Discovery.initial.push m) (Discovery.initial.push m) :=
    ⟨rfl, rfl⟩
  obtain ⟨herror, hgraph⟩ := hstart.run (Discovery.Tree.start hm) (Discovery.Shared.start hm)
    (Nat.le_refl AssetGraph.limit)
  rw [Discovery.graph?_of_ok hm, Discovery.graph?_of_ok hm]
  refine ⟨herror, fun g hg => ?_⟩
  obtain ⟨d, e, hd, he, h, -, -, rfl, hrun⟩ := hgraph g hg
  refine ⟨_, hrun, h.finished_eq, fun a ha b hb hname => ?_⟩
  have hcompiled : ∀ a ∈ e.finished ++ d.finished, p.compiled a.filename = .ok a.content := by
    intro a ha
    rcases List.mem_append.1 ha with ha | ha
    · exact he.compiled a.content (Discovery.content_mem_found ha)
    · exact hd.compiled a.content (Discovery.content_mem_found ha)
  have hcontent : a.content = b.content :=
    Project.eq_of_filename_eq (hcompiled a ha) (hcompiled b hb) hname
  exact ⟨congrArg CompiledModule.code hcontent, congrArg CompiledModule.dependencies hcontent⟩

/-- Two files import a third, which is there if the last file has its name. -/
def Project.importingShared (last : String) : Project where
  read := (Sources.ofList [("a", "import 'b'; import 'c'"), ("b", "import 'c'"), (last, "")]).read
  target := ⟨.next, []⟩

theorem importingShared_agreement :
    (∃ g g', (Project.importingShared "c").graph? false "a" = .ok (some g) ∧
      (Project.importingShared "c").graph? true "a" = .ok (some g') ∧ g'.IsSharingOf g) ∧
    ∃ x, (Project.importingShared "d").graph? false "a" = .error x ∧
      (Project.importingShared "d").graph? true "a" = .error x := by
  refine ⟨?_, ?_⟩
  · obtain ⟨g, hg⟩ : ∃ g, (Project.importingShared "c").graph? false "a" = .ok (some g) :=
      exists_graph_of_isSome (by decide +kernel)
    obtain ⟨g', hg', h⟩ := (graph?_true_of_graph?_false (Project.importingShared "c") "a").2 g hg
    exact ⟨g, g', hg, hg', h⟩
  · obtain ⟨x, hx⟩ : ∃ x, (Project.importingShared "d").graph? false "a" = .error x :=
      exists_error_of_isOk_eq_false (by decide +kernel)
    exact ⟨x, hx, (graph?_true_of_graph?_false (Project.importingShared "d") "a").1 x hx⟩

end ModuleBundler
