/-
ModuleBundler/Proofs/Graph/Shared.lean

The graph of a search in which files share their assets.  The table of what was built
is the index of the files found, so a file is looked up exactly if it has been found;
what a step adds are the targets that are new, each once (`fresh`):

    files = (normalize entry :: assets.flatMap targets).eraseDups

in every state of the search, for the assets that are finished (`Shared`).  The file
looked up is the one that a specifier resolves to, the file stored the one that the
module goes by; they are the same text because resolving gives normal paths.

Main result: `graph?_true_layout` says that the finished graph has one asset for each
file that the entry reaches, and none besides, and that its mappings lead to them.
-/
import ModuleBundler.Proofs.Graph.Reachable
import ModuleBundler.Proofs.Graph.Search
import ModuleBundler.Proofs.Table.Index
import ModuleBundler.Proofs.Table.OfList

namespace ModuleBundler

/-! ### New files -/

/-- The files of a list that are not known, each where it comes first. -/
def fresh (known files : List String) : List String := (files.removeAll known).eraseDups

theorem fresh_cons_of_mem {known files : List String} {file : String} (h : file ∈ known) :
    fresh known (file :: files) = fresh known files := by
  simp [fresh, List.removeAll, h]

theorem fresh_cons_of_notMem {known files : List String} {file : String} (h : file ∉ known) :
    fresh known (file :: files) = file :: fresh (known ++ [file]) files := by
  have hrest : (file :: files).removeAll known = file :: files.removeAll known := by
    simp [List.removeAll, h]
  have hfilter : (files.removeAll known).filter (fun b => !b == file) =
      files.removeAll (known ++ [file]) := by
    simp only [List.removeAll, List.filter_filter]
    refine List.filter_congr fun b _ => ?_
    by_cases hb : b = file <;> simp [hb]
  rw [fresh, hrest, List.eraseDups_cons, hfilter, fresh]

theorem eraseDups_append_eq_fresh (known files : List String) :
    (known ++ files).eraseDups = known.eraseDups ++ fresh known files :=
  List.eraseDups_append

theorem mem_append_fresh {known files : List String} {file : String} :
    file ∈ known ++ fresh known files ↔ file ∈ known ∨ file ∈ files := by
  simp only [fresh, List.mem_append, List.mem_eraseDups, List.removeAll, List.mem_filter]
  by_cases h : file ∈ known <;> simp [h]

theorem mem_of_mem_fresh {known files : List String} {file : String}
    (h : file ∈ fresh known files) : file ∈ files :=
  List.mem_of_mem_filter (List.mem_eraseDups.1 h)

theorem notMem_of_mem_fresh {known files : List String} {file : String}
    (h : file ∈ fresh known files) : file ∉ known := by
  have hnew := List.mem_filter.1 (List.mem_eraseDups.1 h)
  simpa using hnew.2

/-- Which files are new depends on the set of those known only. -/
theorem fresh_congr {known known' : List String} (h : ∀ file, file ∈ known ↔ file ∈ known')
    (files : List String) : fresh known files = fresh known' files := by
  have hfilter : files.removeAll known = files.removeAll known' := by
    refine List.filter_congr fun b _ => ?_
    simp [h]
  rw [fresh, fresh, hfilter]

namespace Discovery

variable {p : Project} {entry : String} {d d' : Discovery}

/-! ### Steps with sharing -/

section

variable {known : List String} {file : String}

/-- A file that has an asset gets its number, which is its place. -/
theorem request_true_of_mem (hindex : d.built.IsIndex known) (hfile : file ∈ known) :
    request p true file d = .ok (known.idxOf file, d) := by
  simp only [request, if_true, hindex.get?_of_mem hfile]

/-- Any other file is built, and gets the next number. -/
theorem request_true_of_notMem (hindex : d.built.IsIndex known) (hfile : file ∉ known) :
    request p true file d =
      (p.compiled file).map fun m => (d.numbering.issued, d.push m) := by
  simp only [request, if_true, hindex.get?_of_notMem hfile, enqueue_eq]

/-- What is built is stored under the name that is looked up. -/
theorem isIndex_push (hindex : d.built.IsIndex known) (hissued : d.numbering.issued = known.length)
    {m : CompiledModule} (hm : m.filename ∉ known) :
    (d.push m).built.IsIndex (known ++ [m.filename]) := by
  show (d.built.put m.filename d.numbering.issued).IsIndex _
  rw [hissued]
  exact hindex.put hm

theorem issued_push (hissued : d.numbering.issued = known.length) (m : CompiledModule) :
    (d.push m).numbering.issued = (known ++ [m.filename]).length := by
  rw [List.length_append, List.length_singleton, ← hissued]
  rfl

end

/-- With sharing only new files are built, and each specifier gets the place of its file. -/
theorem expand_true (p : Project) (importer : String) (specifiers : List String)
    (mapping : Table String Nat) {d : Discovery} {known : List String}
    (hindex : d.built.IsIndex known) (hissued : d.numbering.issued = known.length) :
    expand p true importer mapping d specifiers =
      (p.compileAll (fresh known (specifiers.map (resolve importer)))).map fun ms =>
        ((specifiers.map fun s => (s, (known ++ fresh known
            (specifiers.map (resolve importer))).idxOf (resolve importer s))).foldl
          (fun t e => t.put e.1 e.2) mapping,
          d.pushAll ms) := by
  induction specifiers generalizing mapping d known with
  | nil => rfl
  | cons s specifiers ih =>
      simp only [List.map_cons, List.foldl_cons]
      by_cases hknown : resolve importer s ∈ known
      · rw [expand, request_true_of_mem hindex hknown]
        show expand p true importer _ d specifiers = _
        rw [ih _ hindex hissued, fresh_cons_of_mem hknown, List.idxOf_append_of_mem hknown]
      · rw [expand, request_true_of_notMem hindex hknown, fresh_cons_of_notMem hknown]
        rcases hm : p.compiled (resolve importer s) with e | m
        · rw [Project.compileAll_cons_error hm]
          rfl
        · have hname : m.filename = resolve importer s := by
            rw [Project.filename_of_compiled hm, normalize_resolve]
          have hindex' : (d.push m).built.IsIndex (known ++ [resolve importer s]) :=
            hname ▸ isIndex_push hindex hissued (hname ▸ hknown)
          have hissued' : (d.push m).numbering.issued = (known ++ [resolve importer s]).length :=
            hname ▸ issued_push hissued m
          have hplace : (known ++ resolve importer s :: fresh (known ++ [resolve importer s])
              (specifiers.map (resolve importer))).idxOf (resolve importer s) =
                d.numbering.issued := by
            rw [List.idxOf_append_of_notMem hknown, hissued, List.idxOf_cons_self,
              Nat.add_zero]
          rw [Project.compileAll_cons_ok hm]
          show expand p true importer _ (d.push m) specifiers = _
          rw [ih _ hindex' hissued', hplace]
          rcases p.compileAll (fresh (known ++ [resolve importer s])
            (specifiers.map (resolve importer))) with e | ms
          · rfl
          · simp only [List.append_assoc, List.singleton_append]
            rfl

/-- The mapping of an asset, given the files that numbers are places of. -/
def sharedMapping (files : List String) (importer : String) (dependencies : List String) :
    Table String Nat :=
  Table.ofList (dependencies.map fun s => (s, files.idxOf (resolve importer s)))

theorem step_true {a : UnlinkedAsset} {rest : List UnlinkedAsset} (hq : d.queue = a :: rest)
    (hindex : d.built.IsIndex d.files) (hissued : d.numbering.issued = d.files.length) :
    step p true d =
      (p.compileAll (fresh d.files a.content.targets)).map fun ms =>
        d.advance a rest (sharedMapping (d.files ++ fresh d.files a.content.targets) a.filename
          a.dependencies) ms :=
  step_eq hq (expand_true p a.filename a.dependencies Table.empty
    (d := { d with queue := rest }) hindex hissued)

theorem sharedMapping_append {files : List String} {importer : String}
    {dependencies : List String} (h : ∀ s ∈ dependencies, resolve importer s ∈ files)
    (more : List String) :
    sharedMapping (files ++ more) importer dependencies =
      sharedMapping files importer dependencies := by
  have hpairs : (dependencies.map fun s => (s, (files ++ more).idxOf (resolve importer s))) =
      dependencies.map fun s => (s, files.idxOf (resolve importer s)) := by
    refine List.map_congr_left fun s hs => ?_
    rw [List.idxOf_append_of_mem (h s hs)]
  rw [sharedMapping, sharedMapping, hpairs]

/-- Pushing modules of new files keeps the table of what was built an index. -/
theorem isIndex_pushAll {known : List String} (hindex : d.built.IsIndex known)
    (hissued : d.numbering.issued = known.length) {ms : List CompiledModule}
    (hnodup : (known ++ ms.map (·.filename)).Nodup) :
    (d.pushAll ms).built.IsIndex (known ++ ms.map (·.filename)) := by
  induction ms generalizing d known with
  | nil => simpa [pushAll] using hindex
  | cons m ms ih =>
      rw [List.map_cons, List.append_cons] at hnodup ⊢
      have hnew : m.filename ∉ known := by
        intro hmem
        have hdisjoint := (List.nodup_append.1 (List.nodup_append.1 hnodup).1).2.2
        exact hdisjoint _ hmem _ (List.mem_singleton_self _) rfl
      exact ih (d := d.push m) (isIndex_push hindex hissued hnew) (issued_push hissued m) hnodup

/-- What holds in every state of a search with sharing. -/
structure Shared (p : Project) (entry : String) (d : Discovery) : Prop extends Sound p d where
  /-- Exactly the files found can be looked up, and under each is its number. -/
  isIndex : d.built.IsIndex d.files
  /-- The entry and all imports of the finished assets have been found, each once, and nothing
  else. -/
  files_eq : d.files = (normalize entry :: d.finished.flatMap (·.content.targets)).eraseDups
  reaches : ∀ file ∈ d.files, p.Reaches entry file
  mapping_eq : ∀ a ∈ d.finished, a.mapping = sharedMapping d.files a.filename a.dependencies

theorem Shared.targets_found (h : Shared p entry d) {a : Asset} (ha : a ∈ d.finished) {s : String}
    (hs : s ∈ a.dependencies) : resolve a.filename s ∈ d.files := by
  rw [h.files_eq, List.mem_eraseDups]
  refine List.mem_cons_of_mem _ (List.mem_flatMap.2 ⟨a, ha, ?_⟩)
  exact List.mem_map.2 ⟨s, hs, rfl⟩

theorem Shared.start {m : CompiledModule} (hm : p.compiled entry = .ok m) :
    Shared p entry (initial.push m) where
  toSound := .start hm
  isIndex := Table.isIndex_empty.put List.not_mem_nil
  files_eq := by
    show [m.filename] = _
    rw [Project.filename_of_compiled hm]
    rfl
  reaches := by
    intro file hfile
    obtain rfl : file = m.filename := List.mem_singleton.1 hfile
    rw [Project.filename_of_compiled hm]
    exact p.reaches_entry entry
  mapping_eq := by
    intro a ha
    exact absurd ha List.not_mem_nil

/-- A step finishes the asset at the head of the queue, and builds those of its targets that are
new. -/
theorem Shared.exists_advance (h : Shared p entry d) (hq : d.queue ≠ [])
    (hs : step p true d = .ok d') :
    ∃ a rest ms, d.queue = a :: rest ∧
      p.compileAll (fresh d.files a.content.targets) = .ok ms ∧
      ms.map (·.filename) = fresh d.files a.content.targets ∧
      d' = d.advance a rest (sharedMapping (d.files ++ fresh d.files a.content.targets) a.filename
        a.dependencies) ms := by
  obtain ⟨a, rest, hq⟩ := List.exists_cons_of_ne_nil hq
  rw [step_true hq h.isIndex h.length_files.symm] at hs
  rcases hms : p.compileAll (fresh d.files a.content.targets) with e | ms
  · rw [hms] at hs
    cases hs
  rw [hms] at hs
  cases hs
  have hnew := Project.filenames_of_subset_targets hms fun _ => mem_of_mem_fresh
  exact ⟨a, rest, ms, hq, hms, hnew, rfl⟩

theorem Shared.step (h : Shared p entry d) (hq : d.queue ≠ []) (hs : step p true d = .ok d') :
    Shared p entry d' := by
  obtain ⟨a, rest, ms, hq, hms, hnew, rfl⟩ := h.exists_advance hq hs
  have hissued := h.length_files.symm
  have hfiles : ∀ mapping, (d.advance a rest mapping ms).files =
      d.files ++ fresh d.files a.content.targets := by
    intro mapping
    rw [files_advance hq, hnew]
  have hgrown : d.files ++ fresh d.files a.content.targets =
      (normalize entry :: (d.finished.flatMap (·.content.targets) ++
        a.content.targets)).eraseDups := by
    have hknown : ∀ file, file ∈ d.files ↔
        file ∈ normalize entry :: d.finished.flatMap (·.content.targets) := by
      intro file
      rw [h.files_eq, List.mem_eraseDups]
    rw [← List.cons_append, eraseDups_append_eq_fresh, ← h.files_eq, fresh_congr hknown]
  have ha := content_mem_found_of_queue hq
  refine ⟨h.toSound.advance hq hms _, ?_, ?_, ?_, ?_⟩
  · rw [hfiles, ← hnew]
    refine isIndex_pushAll (d := { d with queue := rest }) h.isIndex hissued ?_
    rw [hnew, hgrown]
    exact nodup_eraseDups _
  · rw [hfiles, hgrown, finished_advance]
    simp
  · intro file hfile
    rw [hfiles, mem_append_fresh] at hfile
    rcases hfile with hfile | hfile
    · exact h.reaches file hfile
    · -- a target of the asset is imported by a file that is reached
      have himports := (Project.mem_targets_iff (h.compiled _ ha)).1 hfile
      exact (h.reaches _ (List.mem_map_of_mem ha)).tail himports
  · intro b hb
    rw [hfiles]
    rw [finished_advance] at hb
    rcases List.mem_append.1 hb with hb | hb
    · rw [sharedMapping_append fun s hs => h.targets_found hb hs]
      exact h.mapping_eq b hb
    · obtain rfl := List.mem_singleton.1 hb
      rfl

end Discovery

/-! ### The finished graph -/

/-- The layout of a graph in which files share their assets. -/
structure AssetGraph.IsClosureOf (g : AssetGraph) (p : Project) (entry : String) : Prop where
  id_eq : ∀ {i : Nat} {a : Asset}, g.assets[i]? = some a → a.id = i
  nodup : (g.assets.map (·.filename)).Nodup
  dependencies_eq : ∀ a ∈ g.assets, a.dependencies = p.specifiers a.filename
  isLeast : IsLeast {files | p.IsClosed entry files}
    {file | file ∈ g.assets.map (·.filename)}
  keys_eq : ∀ a ∈ g.assets, a.mapping.keys = a.dependencies.eraseDups
  /-- Under a specifier stands the number of the one asset of the file that it names. -/
  value_eq : ∀ a ∈ g.assets, ∀ s ∈ a.dependencies,
    ∃ b ∈ g.assets, b.filename = resolve a.filename s ∧ a.mapping.get? s = some b.id ∧
      ∀ c ∈ g.assets, c.filename = resolve a.filename s → c = b

/-- **With sharing the graph has one asset for each file that the entry reaches.** -/
theorem graph?_true_layout (p : Project) (entry : String) (g : AssetGraph)
    (h : p.graph? true entry = .ok (some g)) : g.IsClosureOf p entry := by
  obtain ⟨d, hd, hq, rfl⟩ := Discovery.exists_of_graph? (I := Discovery.Shared p entry)
    Discovery.Shared.start Discovery.Shared.step h
  have hfiles := Discovery.files_finished hq
  have hid : ∀ {i : Nat} {a : Asset}, d.finished[i]? = some a → a.id = i :=
    Asset.id_eq_of_getElem? (hd.ids_finished hq)
  have hnodup : (d.finished.map (·.filename)).Nodup := hfiles ▸ hd.isIndex.nodup
  have hcompiled : ∀ a ∈ d.finished, p.compiled a.filename = .ok a.content := fun a ha =>
    hd.compiled a.content (List.mem_append_left _ (List.mem_map_of_mem ha))
  have hdeps : ∀ a ∈ d.finished, a.dependencies = p.specifiers a.filename := fun a ha =>
    (Project.specifiers_of_compiled (hcompiled a ha)).symm
  have hclosed : p.IsClosed entry {file | file ∈ d.finished.map (·.filename)} := by
    refine ⟨?_, ?_⟩
    · show normalize entry ∈ d.finished.map (·.filename)
      rw [← hfiles, hd.files_eq, List.mem_eraseDups]
      exact List.mem_cons_self
    · intro file hfile s hs
      obtain ⟨a, ha, rfl⟩ := List.mem_map.1 hfile
      show _ ∈ d.finished.map (·.filename)
      rw [← hfiles]
      exact hd.targets_found ha (hdeps a ha ▸ hs)
  have hreached : {file | file ∈ d.finished.map (·.filename)} = {file | p.Reaches entry file} :=
    Set.ext fun file => ⟨fun hfile => hd.reaches file (hfiles ▸ hfile), hclosed.mem_of_reaches⟩
  refine ⟨hid, hnodup, hdeps, hreached ▸ p.isLeast_reaches entry, ?_, ?_⟩
  · intro a ha
    rw [hd.mapping_eq a ha, Discovery.sharedMapping, Table.keys_ofList, List.map_map]
    exact congrArg List.eraseDups (List.map_id' _)
  · intro a ha s hs
    have hmem : resolve a.filename s ∈ d.finished.map (·.filename) :=
      hfiles ▸ hd.targets_found ha hs
    obtain ⟨b, hb, hname⟩ := List.mem_map.1 hmem
    refine ⟨b, hb, hname, ?_, fun c hc hcname => ?_⟩
    · -- numbers are places, among the assets and among their files
      obtain ⟨i, hi, rfl⟩ := List.getElem_of_mem hb
      have hplace : d.files.idxOf (resolve a.filename s) = i := by
        have hi' : i < (d.finished.map (·.filename)).length := by
          rw [List.length_map]
          exact hi
        have hfile := hnodup.idxOf_getElem i hi'
        rw [List.getElem_map] at hfile
        rw [hfiles, ← hname, hfile]
      rw [hd.mapping_eq a ha, Discovery.sharedMapping, Table.get?_ofList_map, if_pos hs, hplace,
        hid (List.getElem?_eq_getElem hi)]
    · exact List.inj_on_of_nodup_map hnodup hc hb (hcname.trans hname.symm)

/-- Two files that import one another, the second under two spellings. -/
def Project.importingInCycle : Project where
  read := (Sources.ofList [("a", "import 'b'; import './b'"), ("b", "import 'a'")]).read
  target := ⟨.next, []⟩

/-- The graph has two assets, and both spellings lead to the second. -/
theorem importingInCycle_layout :
    ∃ g, Project.importingInCycle.graph? true "./a" = .ok (some g) ∧
      g.IsClosureOf Project.importingInCycle "./a" ∧
      g.assets.map (fun a => (a.id, a.filename, a.mapping.entries)) =
        [(0, "a", [("b", 1), ("./b", 1)]), (1, "b", [("a", 0)])] := by
  obtain ⟨g, hg, hassets⟩ : ∃ g, Project.importingInCycle.graph? true "./a" = .ok (some g) ∧
      g.assets.map (fun a => (a.id, a.filename, a.mapping.entries)) =
        [(0, "a", [("b", 1), ("./b", 1)]), (1, "b", [("a", 0)])] :=
    exists_graph_of_map_eq (by decide +kernel)
  exact ⟨g, hg, graph?_true_layout Project.importingInCycle "./a" g hg, hassets⟩

end ModuleBundler
