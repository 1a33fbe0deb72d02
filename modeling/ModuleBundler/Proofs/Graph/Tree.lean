/-
ModuleBundler/Proofs/Graph/Tree.lean

The graph of a search in which every import builds an asset of its own.  It is the tree
of imports of the entry, level by level: with the entry first, the assets are the targets
of all assets, in their order, so that

    files = normalize entry :: assets.flatMap targets

holds in every state of the search, for the assets that are finished (`Tree`).  By
this equation an asset's place determines the places of its dependencies
(`childNumber`), and the number of an asset is its place.

Main result: `graph?_false_layout` says all this of the finished graph, and that the
number under a specifier is that of its last occurrence.
-/
import Mathlib.Algebra.GroupWithZero.Nat
import ModuleBundler.Proofs.Graph.Search
import ModuleBundler.Proofs.Table.OfList

namespace ModuleBundler

/-! ### Places -/

/-- The number of the asset that is built for the `j`th dependency of the `i`th asset: the entry
comes before it, all dependencies of the assets before, and `j` of its own. -/
def childNumber (assets : List Asset) (i j : Nat) : Nat :=
  1 + ((assets.take i).map (·.dependencies.length)).sum + j

/-- A place in a list of blocks, given by the block and the place in it. -/
theorem getElem?_flatMap {α β : Type} {l : List α} {f : α → List β} {i j : Nat} {a : α}
    (ha : l[i]? = some a) {b : β} (hb : (f a)[j]? = some b) :
    (l.flatMap f)[((l.take i).map fun x => (f x).length).sum + j]? = some b := by
  obtain ⟨hi, rfl⟩ := List.getElem?_eq_some_iff.1 ha
  have hsplit : l.take i ++ l[i] :: l.drop (i + 1) = l := by simp
  have hlen : ((l.take i).map fun x => (f x).length).sum = ((l.take i).flatMap f).length := by
    rw [List.length_flatMap]
  have hj : j < (f l[i]).length := (List.getElem?_eq_some_iff.1 hb).1
  calc (l.flatMap f)[((l.take i).map fun x => (f x).length).sum + j]?
      = ((l.take i).flatMap f ++ (f l[i] ++ (l.drop (i + 1)).flatMap f))[
          ((l.take i).flatMap f).length + j]? := by
        conv_lhs => rw [← hsplit]
        rw [List.flatMap_append, List.flatMap_cons, hsplit, hlen]
    _ = (f l[i] ++ (l.drop (i + 1)).flatMap f)[j]? := by
        rw [List.getElem?_append_right (Nat.le_add_right _ _), Nat.add_sub_cancel_left]
    _ = some b := by rw [List.getElem?_append_left hj, hb]

namespace Discovery

variable {p : Project} {entry : String} {d d' : Discovery}

/-! ### Steps without sharing -/

/-- Without sharing every specifier builds an asset, and the mapping takes them in order. -/
theorem expand_false (p : Project) (importer : String) (specifiers : List String)
    (mapping : Table String Nat) (d : Discovery) :
    expand p false importer mapping d specifiers =
      (p.compileAll (specifiers.map (resolve importer))).map fun ms =>
        ((specifiers.zipIdx d.numbering.issued).foldl (fun t e => t.put e.1 e.2) mapping,
          d.pushAll ms) := by
  induction specifiers generalizing mapping d with
  | nil => rfl
  | cons s specifiers ih =>
      have hrequest : request p false (resolve importer s) d =
          (p.compiled (resolve importer s)).map fun m => (d.numbering.issued, d.push m) :=
        enqueue_eq p _ d
      rw [List.map_cons, expand, hrequest]
      rcases hm : p.compiled (resolve importer s) with e | m
      · rw [Project.compileAll_cons_error hm]
        rfl
      · rw [Project.compileAll_cons_ok hm]
        show expand p false importer _ (d.push m) specifiers = _
        rw [ih]
        rcases p.compileAll (specifiers.map (resolve importer)) with e | ms
        · rfl
        · rfl

/-- The mapping that a step without sharing gives to an asset. -/
def treeMapping (d : Discovery) (a : UnlinkedAsset) : Table String Nat :=
  Table.ofList (a.dependencies.zipIdx d.numbering.issued)

theorem step_false {a : UnlinkedAsset} {rest : List UnlinkedAsset} (hq : d.queue = a :: rest) :
    step p false d =
      (p.compileAll a.content.targets).map fun ms => d.advance a rest (d.treeMapping a) ms :=
  step_eq hq (expand_false p a.filename a.dependencies Table.empty { d with queue := rest })

/-- What holds in every state of a search without sharing. -/
structure Tree (p : Project) (entry : String) (d : Discovery) : Prop extends Sound p d where
  /-- The entry and all imports of the finished assets have been found, and nothing else. -/
  files_eq : d.files = normalize entry :: d.finished.flatMap (·.content.targets)
  /-- The dependencies of a finished asset have the numbers that its place determines. -/
  mapping_eq : ∀ {i : Nat} {a : Asset}, d.finished[i]? = some a →
    a.mapping = Table.ofList (a.dependencies.zipIdx (childNumber d.finished i 0))

/-- The targets of assets are as many as their dependencies. -/
theorem length_flatMap_targets (assets : List Asset) :
    (assets.flatMap (·.content.targets)).length =
      (assets.map (·.dependencies.length)).sum := by
  rw [List.length_flatMap]
  simp [CompiledModule.targets, Asset.content]

theorem Tree.issued_eq (h : Tree p entry d) :
    d.numbering.issued = 1 + (d.finished.map (·.dependencies.length)).sum := by
  rw [← h.length_files, h.files_eq, List.length_cons, length_flatMap_targets, Nat.add_comm]

theorem Tree.start {m : CompiledModule} (hm : p.compiled entry = .ok m) :
    Tree p entry (initial.push m) where
  toSound := .start hm
  files_eq := by
    show [m.filename] = _
    rw [Project.filename_of_compiled hm]
    rfl
  mapping_eq := by
    intro i a hi
    cases hi

theorem Tree.step (h : Tree p entry d) (hq : d.queue ≠ []) (hs : step p false d = .ok d') :
    Tree p entry d' := by
  obtain ⟨a, rest, hq⟩ := List.exists_cons_of_ne_nil hq
  rw [step_false hq] at hs
  rcases hms : p.compileAll a.content.targets with e | ms
  · rw [hms] at hs
    cases hs
  rw [hms] at hs
  cases hs
  refine ⟨h.toSound.advance hq hms _, ?_, ?_⟩
  · -- the new files are the targets of the asset, which are normal
    have hnew := Project.filenames_of_subset_targets hms (List.Subset.refl _)
    rw [files_advance hq, h.files_eq, finished_advance, hnew]
    simp
  · intro i b hb
    rw [finished_advance] at hb ⊢
    by_cases hi : i < d.finished.length
    · rw [List.getElem?_append_left hi] at hb
      have hplace : childNumber (d.finished ++ [a.link (d.treeMapping a)]) i 0 =
          childNumber d.finished i 0 := by
        rw [childNumber, childNumber, List.take_append_of_le_length (Nat.le_of_lt hi)]
      rw [hplace]
      exact h.mapping_eq hb
    · -- the asset linked by this step, whose dependencies begin where numbers go on
      have hi' : i = d.finished.length := by
        have := (List.getElem?_eq_some_iff.1 hb).1
        simp only [List.length_append, List.length_singleton] at this
        omega
      subst hi'
      obtain rfl : a.link (d.treeMapping a) = b := by simpa using hb
      have hplace : childNumber (d.finished ++ [a.link (d.treeMapping a)]) d.finished.length 0 =
          d.numbering.issued := by
        rw [h.issued_eq, childNumber, List.take_left]
        rfl
      rw [hplace]
      rfl

end Discovery

/-! ### The finished graph -/

/-- The layout of a graph in which every import has an asset of its own. -/
structure AssetGraph.IsTreeOf (g : AssetGraph) (entry : String) : Prop where
  id_eq : ∀ {i : Nat} {a : Asset}, g.assets[i]? = some a → a.id = i
  /-- A number finds the asset at that place, and nothing from the end of the graph on. -/
  get?_eq : ∀ n, g.get? n = g.assets[n]?
  entry_eq : ∃ a : Asset, g.assets[0]? = some a ∧ a.filename = normalize entry
  /-- Each occurrence of a dependency has an asset of its own. -/
  child_eq : ∀ {i j : Nat} {a : Asset} {s : String}, g.assets[i]? = some a →
    a.dependencies[j]? = some s →
    ∃ b, g.get? (childNumber g.assets i j) = some b ∧ b.id = childNumber g.assets i j ∧
      b.filename = resolve a.filename s
  /-- There are no other assets. -/
  size_eq : g.size = 1 + (g.assets.map (·.dependencies.length)).sum
  keys_eq : ∀ {i : Nat} {a : Asset}, g.assets[i]? = some a →
    a.mapping.keys = a.dependencies.eraseDups
  /-- Under a specifier stands the number for its last occurrence. -/
  value_eq : ∀ {i j : Nat} {a : Asset} {s : String}, g.assets[i]? = some a →
    a.dependencies[j]? = some s → s ∉ a.dependencies.drop (j + 1) →
    a.mapping.get? s = some (childNumber g.assets i j)

/-- Numbering the elements of a list from a place on, with one of them singled out. -/
theorem zipIdx_eq_append_cons {α : Type} {l : List α} {j : Nat} {s : α} (h : l[j]? = some s)
    (n : Nat) :
    l.zipIdx n = (l.take j).zipIdx n ++ (s, n + j) :: (l.drop (j + 1)).zipIdx (n + j + 1) := by
  obtain ⟨hj, rfl⟩ := List.getElem?_eq_some_iff.1 h
  have hsplit : l.take j ++ l[j] :: l.drop (j + 1) = l := by simp
  have hlen : (l.take j).length = j := List.length_take_of_le (Nat.le_of_lt hj)
  conv_lhs => rw [← hsplit]
  rw [List.zipIdx_append, List.zipIdx_cons, hlen]

/-- **Without sharing the graph is the import tree of the entry, level by level.** -/
theorem graph?_false_layout (p : Project) (entry : String) (g : AssetGraph)
    (h : p.graph? false entry = .ok (some g)) : g.IsTreeOf entry := by
  obtain ⟨d, hd, hq, rfl⟩ := Discovery.exists_of_graph? (I := Discovery.Tree p entry)
    Discovery.Tree.start Discovery.Tree.step h
  have hids := hd.ids_finished hq
  have hfiles : d.finished.map (·.filename) =
      normalize entry :: d.finished.flatMap (·.content.targets) := by
    rw [← Discovery.files_finished hq, hd.files_eq]
  have hget : ∀ n, AssetGraph.get? ⟨d.finished⟩ n = d.finished[n]? :=
    AssetGraph.get?_eq_getElem? hids
  have hid : ∀ {i : Nat} {a : Asset}, d.finished[i]? = some a → a.id = i :=
    Asset.id_eq_of_getElem? hids
  have hsize : d.finished.length = d.numbering.issued := by
    simpa [Discovery.found, hq] using hd.length_found
  refine ⟨hid, hget, ?_, ?_, hsize.trans hd.issued_eq, ?_, ?_⟩
  · have := congrArg (·[0]?) hfiles
    simpa using this
  · intro i j a s hi hj
    have htarget : (a.content.targets)[j]? = some (resolve a.filename s) := by
      simp [CompiledModule.targets, Asset.content, hj]
    -- the targets of an asset stand together, behind those of the assets before it
    have hplace : (d.finished.map (·.filename))[childNumber d.finished i j]? =
        some (resolve a.filename s) := by
      have hflat := getElem?_flatMap (f := fun x : Asset => x.content.targets) hi htarget
      have hnumber : childNumber d.finished i j =
          ((d.finished.take i).map fun x => x.content.targets.length).sum + j + 1 := by
        simp only [childNumber, CompiledModule.targets, Asset.content, List.length_map]
        omega
      rw [hfiles, hnumber, List.getElem?_cons_succ, hflat]
    rw [List.getElem?_map, Option.map_eq_some_iff] at hplace
    obtain ⟨b, hb, hfile⟩ := hplace
    exact ⟨b, (hget _).trans hb, hid hb, hfile⟩
  · intro i a hi
    rw [hd.mapping_eq hi, Table.keys_ofList, List.zipIdx_map_fst]
  · intro i j a s hi hj hlast
    rw [hd.mapping_eq hi, zipIdx_eq_append_cons hj]
    refine Table.get?_ofList_of_last _ _ _ _ ?_
    rw [List.zipIdx_map_fst]
    exact hlast

/-- Two files, the first of which imports the second twice. -/
def Project.importingTwice : Project where
  read := (Sources.ofList [("a", "import 'b'; import 'b'"), ("b", "")]).read
  target := ⟨.next, []⟩

theorem importingTwice_layout :
    ∃ g, Project.importingTwice.graph? false "./a" = .ok (some g) ∧ g.IsTreeOf "./a" := by
  obtain ⟨g, hg⟩ : ∃ g, Project.importingTwice.graph? false "./a" = .ok (some g) :=
    exists_graph_of_isSome (by decide +kernel)
  exact ⟨g, hg, graph?_false_layout Project.importingTwice "./a" g hg⟩

end ModuleBundler
