/-
ModuleBundler/Proofs/Bundle/Loading.lean

What a loader runs.  To require the number of an asset is to require what the asset
depends on, one after the other, each by the number in the asset's own mapping, and
then to run the body of the asset (`AssetGraph.require`).  Nothing is kept, so a file
that is required twice runs twice.  A loader can be stuck at a number without an asset
or at a name without a number, or call itself without end; how deep calls may nest is
given beforehand.

The files of a project say in which order bodies should run: those of a file's imports
before its own, all the way down (`Project.PostOrder`).  If the import tree of an entry is
finite, then every graph of the entry runs it in this order (`AssetGraph.IsLinked.runs`),
whether files share their assets or not: a number leads to the file that it stands for,
and nothing else about numbers matters.

Main result: `loading_order`.
-/
import ModuleBundler.Proofs.Graph.Ending
import ModuleBundler.Proofs.Graph.Linking

namespace ModuleBundler

/-! ### The loader -/

/-- A module whose body has been run. -/
structure ModuleRun where
  filename : String
  code : String
deriving DecidableEq, Inhabited, Repr

def Asset.run (a : Asset) : ModuleRun := ⟨a.filename, a.code⟩

/-- Why a loader does not go on. -/
inductive LoadError where
  /-- Calls nest deeper than was allowed. -/
  | tooDeep
  /-- There is no asset with the number. -/
  | unknownNumber (id : Nat)
  /-- The mapping of the asset has no such name. -/
  | unknownName (name : String)
deriving DecidableEq, Inhabited, Repr

namespace AssetGraph

/-- The bodies that are run, in their order, when a number is required. -/
def require (g : AssetGraph) : Nat → Nat → Except LoadError (List ModuleRun)
  | 0, _ => .error .tooDeep
  | depth + 1, id =>
      match g.get? id with
      | none => .error (.unknownNumber id)
      | some a => do
          let before ← a.dependencies.mapM fun name =>
            match a.mapping.get? name with
            | none => .error (.unknownName name)
            | some number => g.require depth number
          return before.flatten ++ [a.run]

/-- The bodies that are run when an asset requires a name. -/
def localRequire (g : AssetGraph) (depth : Nat) (a : Asset) (name : String) :
    Except LoadError (List ModuleRun) :=
  match a.mapping.get? name with
  | none => .error (.unknownName name)
  | some number => g.require depth number

/-- The bodies that are run when an asset requires names one after the other. -/
def requireAll (g : AssetGraph) (depth : Nat) (a : Asset) (names : List String) :
    Except LoadError (List ModuleRun) :=
  (names.mapM (g.localRequire depth a)).map List.flatten

/-- A graph runs bodies, beginning with its entry, and then its run is over. -/
def Runs (g : AssetGraph) (bodies : List ModuleRun) : Prop :=
  ∃ depth, g.require depth entryNumber = .ok bodies

variable {g : AssetGraph} {depth id : Nat} {a : Asset}

theorem require_succ (ha : g.get? id = some a) :
    g.require (depth + 1) id =
      (g.requireAll depth a a.dependencies).map (· ++ [a.run]) := by
  rw [require, ha]
  show (a.dependencies.mapM (g.localRequire depth a)).bind _ = _
  unfold requireAll
  rcases a.dependencies.mapM (g.localRequire depth a) with x | before <;> rfl

/-- An asset requires a name by its number. -/
theorem localRequire_eq_ok_iff {name : String} {bodies : List ModuleRun} :
    g.localRequire depth a name = .ok bodies ↔
      ∃ number, a.mapping.get? name = some number ∧ g.require depth number = .ok bodies := by
  rw [localRequire]
  cases a.mapping.get? name with
  | none => simp
  | some number => simp

theorem requireAll_nil (g : AssetGraph) (depth : Nat) (a : Asset) :
    g.requireAll depth a [] = .ok [] := rfl

theorem requireAll_cons {name : String} {names : List String} {first rest : List ModuleRun}
    (hfirst : g.localRequire depth a name = .ok first)
    (hrest : g.requireAll depth a names = .ok rest) :
    g.requireAll depth a (name :: names) = .ok (first ++ rest) := by
  unfold requireAll at hrest ⊢
  rw [List.mapM_cons, hfirst]
  rcases hnames : names.mapM (g.localRequire depth a) with x | before
  · rw [hnames] at hrest
    cases hrest
  · rw [hnames] at hrest
    cases hrest
    rfl

/-- What does not fail does not fail by a function that agrees with it where it does not fail. -/
theorem mapM_eq_ok {α β ε : Type} {f f' : α → Except ε β} (h : ∀ a b, f a = .ok b → f' a = .ok b)
    {l : List α} {bs : List β} (hl : l.mapM f = .ok bs) : l.mapM f' = .ok bs := by
  induction l generalizing bs with
  | nil => exact hl
  | cons a l ih =>
      rw [List.mapM_cons] at hl ⊢
      rcases hb : f a with x | b
      · rw [hb] at hl
        cases hl
      rcases hbs : l.mapM f with x | rest
      · rw [hb, hbs] at hl
        cases hl
      rw [hb, hbs] at hl
      rw [h a b hb, ih hbs]
      exact hl

/-- A run that is over stays as it is if calls may nest deeper. -/
theorem require_succ_of_ok {bodies : List ModuleRun} (h : g.require depth id = .ok bodies) :
    g.require (depth + 1) id = .ok bodies := by
  -- every call that was over at the smaller depth is over at the greater one, names included
  induction depth generalizing id bodies with
  | zero => cases h
  | succ depth ih =>
      rcases ha : g.get? id with _ | a
      · rw [require, ha] at h
        cases h
      rw [require_succ ha, requireAll] at h ⊢
      rcases hbefore : a.dependencies.mapM (g.localRequire depth a) with x | before
      · rw [hbefore] at h
        cases h
      rw [hbefore] at h
      rw [mapM_eq_ok (fun name first hfirst => ?_) hbefore]
      · exact h
      · obtain ⟨number, hnumber, hfirst⟩ := localRequire_eq_ok_iff.1 hfirst
        exact localRequire_eq_ok_iff.2 ⟨number, hnumber, ih hfirst⟩

theorem require_of_le {more : Nat} (hle : depth ≤ more) {bodies : List ModuleRun}
    (h : g.require depth id = .ok bodies) : g.require more id = .ok bodies := by
  induction hle with
  | refl => exact h
  | step _ ih => exact require_succ_of_ok ih

theorem localRequire_of_le {more : Nat} (hle : depth ≤ more) {name : String}
    {bodies : List ModuleRun} (h : g.localRequire depth a name = .ok bodies) :
    g.localRequire more a name = .ok bodies := by
  obtain ⟨number, hnumber, h⟩ := localRequire_eq_ok_iff.1 h
  exact localRequire_eq_ok_iff.2 ⟨number, hnumber, require_of_le hle h⟩

theorem requireAll_of_le {more : Nat} (hle : depth ≤ more) {names : List String}
    {bodies : List ModuleRun} (h : g.requireAll depth a names = .ok bodies) :
    g.requireAll more a names = .ok bodies := by
  unfold requireAll at h ⊢
  rcases hbefore : names.mapM (g.localRequire depth a) with x | before
  · rw [hbefore] at h
    cases h
  · rw [hbefore] at h
    rw [mapM_eq_ok (fun name first => localRequire_of_le hle) hbefore]
    exact h

/-- A graph has one run. -/
theorem Runs.unique {bodies bodies' : List ModuleRun} (h : g.Runs bodies) (h' : g.Runs bodies') :
    bodies = bodies' := by
  obtain ⟨n, hn⟩ := h
  obtain ⟨m, hm⟩ := h'
  have heq := require_of_le (Nat.le_max_left n m) hn
  rw [require_of_le (Nat.le_max_right n m) hm] at heq
  exact (Except.ok.inj heq).symm

end AssetGraph

/-! ### The order of files -/

namespace Project

variable {p : Project} {entry file : String}

/-- The bodies of files one after the other, each behind those of the imports of its file. -/
inductive PostOrder (p : Project) : List String → List ModuleRun → Prop
  | nil : PostOrder p [] []
  | cons {file : String} {files : List String} {m : CompiledModule}
      {before after : List ModuleRun} :
      p.compiled file = .ok m → PostOrder p m.targets before → PostOrder p files after →
      PostOrder p (file :: files) (before ++ ⟨m.filename, m.code⟩ :: after)

theorem PostOrder.unique {files : List String} {bodies bodies' : List ModuleRun}
    (h : p.PostOrder files bodies) (h' : p.PostOrder files bodies') : bodies = bodies' := by
  induction h generalizing bodies' with
  | nil =>
      cases h'
      rfl
  | cons hm _ _ ihbefore ihafter =>
      obtain - | ⟨hm', hbefore', hafter'⟩ := h'
      obtain rfl := Except.ok.inj (hm.symm.trans hm')
      rw [ihbefore hbefore', ihafter hafter']

theorem exists_postOrder_of_forall {files : List String}
    (h : ∀ file ∈ files, ∃ bodies, p.PostOrder [file] bodies) :
    ∃ bodies, p.PostOrder files bodies := by
  induction files with
  | nil => exact ⟨[], .nil⟩
  | cons file files ih =>
      obtain ⟨_, _ | ⟨hm, hbefore, -⟩⟩ := h file List.mem_cons_self
      obtain ⟨after, hafter⟩ := ih fun other hother => h other (List.mem_cons_of_mem _ hother)
      exact ⟨_, .cons hm hbefore hafter⟩

theorem descend_eq_nil_of_mem {files : List String} {k : Nat} (h : p.descend k files = [])
    (hfile : file ∈ files) : p.descend k [file] = [] := by
  obtain ⟨front, back, rfl⟩ := List.append_of_mem hfile
  rw [descend_append, List.append_eq_nil_iff] at h
  have hfront := h.2
  rw [← List.singleton_append, descend_append, List.append_eq_nil_iff] at hfront
  exact hfront.1

/-- A finite import tree of files that can be built has a post-order. -/
theorem exists_postOrder {k : Nat} (hlevel : p.descend k [file] = [])
    (hbuild : ∀ other, Relation.ReflTransGen p.Imports file other → p.Builds other)
    (hnormal : normalize file = file) : ∃ bodies, p.PostOrder [file] bodies := by
  induction k generalizing file with
  | zero => cases hlevel
  | succ k ih =>
      obtain ⟨m, hm⟩ := hbuild file .refl
      have hname : m.filename = file := (filename_of_compiled hm).trans hnormal
      have htargets : m.targets = p.imports file := by
        rw [targets_eq_imports (compiled_filename hm), hname]
      rw [descend, List.flatMap_singleton] at hlevel
      have hbefore : ∀ other ∈ m.targets, ∃ bodies, p.PostOrder [other] bodies := by
        intro other hother
        have hnormal' := CompiledModule.normalize_of_mem_targets hother
        rw [htargets] at hother
        refine ih (descend_eq_nil_of_mem hlevel hother) (fun next hnext => ?_) hnormal'
        exact hbuild next (.head (mem_imports_iff.1 hother) hnext)
      obtain ⟨before, hbefore⟩ := exists_postOrder_of_forall hbefore
      exact ⟨_, .cons hm hbefore .nil⟩

end Project

/-! ### Runs of linked graphs -/

namespace AssetGraph.IsLinked

variable {p : Project} {entry : String} {g : AssetGraph}

/-- The files of a linked graph are closed under imports. -/
theorem exists_of_reaches (h : g.IsLinked p entry) {file : String} (hfile : p.Reaches entry file) :
    ∃ id a, g.get? id = some a ∧ a.filename = file := by
  induction hfile with
  | refl =>
      obtain ⟨a, ha, hname⟩ := h.entry_eq
      exact ⟨entryNumber, a, ha, hname⟩
  | tail _ himports ih =>
      obtain ⟨id, a, ha, rfl⟩ := ih
      obtain ⟨s, hs, rfl⟩ := himports
      rw [Project.specifiers_of_compiled (h.compiled ha)] at hs
      obtain ⟨number, b, -, hb, hname⟩ := h.linked ha s hs
      exact ⟨number, b, hb, hname⟩

theorem finite_reaches (h : g.IsLinked p entry) : {file | p.Reaches entry file}.Finite := by
  refine (g.assets.map (·.filename)).finite_toSet.subset fun file hfile => ?_
  obtain ⟨id, a, ha, rfl⟩ := h.exists_of_reaches hfile
  exact List.mem_map_of_mem (List.mem_of_find?_eq_some ha)

/-- An asset that requires names runs the files that they resolve to, in post-order. -/
theorem exists_requireAll (h : g.IsLinked p entry) {files : List String} {bodies : List ModuleRun}
    (horder : p.PostOrder files bodies) {id : Nat} {a : Asset} (ha : g.get? id = some a)
    {names : List String} (hnames : names ⊆ a.dependencies)
    (hfiles : files = names.map (resolve a.filename)) :
    ∃ depth, g.requireAll depth a names = .ok bodies := by
  -- a post-order has the bodies of a file's imports and of the files after it, and for each of
  -- the two a depth is found at which the loader runs it; the greater one does for both
  induction horder generalizing id a names with
  | nil =>
      obtain rfl := List.map_eq_nil_iff.1 hfiles.symm
      exact ⟨0, g.requireAll_nil 0 a⟩
  | @cons file files m before after hm _ _ ihbefore ihafter =>
      obtain ⟨name, names, rfl, rfl, rfl⟩ := List.map_eq_cons_iff.1 hfiles.symm
      obtain ⟨number, b, hnumber, hb, hname⟩ := h.linked ha name (hnames List.mem_cons_self)
      -- the asset under the number is the module that the file compiles to
      have hcompiled := h.compiled hb
      rw [hname, hm] at hcompiled
      obtain rfl := Except.ok.inj hcompiled
      obtain ⟨n, hn⟩ := ihbefore hb (List.Subset.refl _) rfl
      obtain ⟨k, hk⟩ := ihafter ha (List.Subset.trans (List.subset_cons_self _ _) hnames) rfl
      have hfirst : g.localRequire (n + 1) a name = .ok (before ++ [b.run]) := by
        refine localRequire_eq_ok_iff.2 ⟨number, hnumber, ?_⟩
        rw [require_succ hb, hn]
        rfl
      refine ⟨max (n + 1) k, ?_⟩
      rw [requireAll_cons (localRequire_of_le (Nat.le_max_left _ k) hfirst)
        (requireAll_of_le (Nat.le_max_right _ k) hk), List.append_assoc]
      rfl

/-- **A linked graph runs the import tree of its entry in post-order.** -/
theorem runs (h : g.IsLinked p entry) {bodies : List ModuleRun}
    (horder : p.PostOrder [normalize entry] bodies) : g.Runs bodies := by
  obtain ⟨a, ha, hname⟩ := h.entry_eq
  obtain - | ⟨hm, hbefore, hnil⟩ := horder
  cases hnil
  have hcompiled := h.compiled ha
  rw [hname, hm] at hcompiled
  obtain rfl := Except.ok.inj hcompiled
  obtain ⟨n, hn⟩ := h.exists_requireAll hbefore ha (List.Subset.refl _) rfl
  refine ⟨n + 1, ?_⟩
  rw [require_succ ha, hn]
  rfl

end AssetGraph.IsLinked

/-- The import tree of an entry is finite, if there is a graph without sharing. -/
theorem exists_postOrder_of_graph? {p : Project} {entry : String} {g : AssetGraph}
    (h : p.graph? false entry = .ok (some g)) :
    ∃ bodies, p.PostOrder [normalize entry] bodies := by
  have hlinked := isLinked_of_graph? h
  rw [Project.graph?_eq_search] at h
  obtain ⟨n, d, hd, hq, -⟩ := Project.endsIn_ok_iff.1 ⟨AssetGraph.limit, h⟩
  obtain ⟨hbuild, hacyclic⟩ := Project.builds_and_acyclic_of_state hd hq
  obtain ⟨k, hk⟩ := Project.exists_level_eq_nil hlinked.finite_reaches hacyclic
  exact Project.exists_postOrder hk hbuild (normalize_normalize entry)

/-- **With sharing and without, the same bodies are run in the same order**, that of the import tree
of the entry. -/
theorem loading_order (p : Project) (entry : String) {g g' : AssetGraph}
    (h : p.graph? false entry = .ok (some g)) (h' : p.graph? true entry = .ok (some g')) :
    ∃ bodies, (∀ order, p.PostOrder [normalize entry] order ↔ order = bodies) ∧
      g.Runs bodies ∧ g'.Runs bodies := by
  obtain ⟨bodies, horder⟩ := exists_postOrder_of_graph? h
  refine ⟨bodies, fun order => ⟨fun hother => hother.unique horder, ?_⟩,
    (isLinked_of_graph? h).runs horder, (isLinked_of_graph? h').runs horder⟩
  rintro rfl
  exact horder

/-- A file that is imported twice runs twice, whether it has one asset or two. -/
theorem loading_order_twice : ∃ g g' bodies,
    Project.importingTwice.graph? false "a" = .ok (some g) ∧
      Project.importingTwice.graph? true "a" = .ok (some g') ∧
      g.Runs bodies ∧ g'.Runs bodies ∧ bodies.map (·.filename) = ["b", "b", "a"] := by
  have hrun : ((Project.importingTwice.graph? false "a").toOption.join.bind fun g =>
      (g.require 2 entryNumber).toOption.map fun bodies => bodies.map (·.filename)) =
        some ["b", "b", "a"] := by decide +kernel
  obtain ⟨g, hg⟩ : ∃ g, Project.importingTwice.graph? false "a" = .ok (some g) := by
    obtain ⟨g, hg, -⟩ := Option.bind_eq_some_iff.1 hrun
    exact exists_graph_of_isSome (hg ▸ rfl)
  obtain ⟨g', hg'⟩ : ∃ g, Project.importingTwice.graph? true "a" = .ok (some g) :=
    exists_graph_of_isSome (by decide +kernel)
  obtain ⟨bodies, -, hruns, hruns'⟩ := loading_order Project.importingTwice "a" hg hg'
  refine ⟨g, g', bodies, hg, hg', hruns, hruns', ?_⟩
  rw [hg] at hrun
  rcases hbodies : g.require 2 entryNumber with x | found
  · simp [Except.toOption, hbodies] at hrun
  · obtain rfl := hruns.unique ⟨2, hbodies⟩
    simpa [Except.toOption, hbodies] using hrun

end ModuleBundler
