/-
ModuleBundler/Proofs/Graph/Locality.lean

What a search depends on.  It reads the files that its entry reaches and no others, so
two projects that answer alike for these files have the same search, step for step,
whatever else there is in either of them (`Project.SameSearch`).  How the entry is spelled
plays no part.

For a reader that is given its texts this means that a text nobody imports may be
there or not, and that texts may be given in any order, as long as no file is given two.

Main result: `search_local`.
-/
import ModuleBundler.Bundle.Make
import ModuleBundler.Proofs.Files.Reader
import ModuleBundler.Proofs.Graph.Renaming
import ModuleBundler.Proofs.Table.OfList

namespace ModuleBundler

/-! ### Texts given in any order -/

namespace Sources

theorem toOption_read (s : Sources) (path : String) :
    (s.read path).toOption = s.files.get? (normalize path) := by
  unfold read
  rcases s.files.get? (normalize path) <;> rfl

theorem files_ofList (files : List (String × String)) :
    (ofList files).files = Table.ofList (files.map fun f => (normalize f.1, f.2)) := by
  have hfold : ∀ (s : Sources), (files.foldl (fun s f => s.insert f.1 f.2) s).files =
      (files.map fun f => (normalize f.1, f.2)).foldl (fun t e => t.put e.1 e.2) s.files := by
    induction files with
    | nil => exact fun s => rfl
    | cons f files ih => exact fun s => ih (s.insert f.1 f.2)
  exact hfold default

/-- If a file is given one text only, the texts can be given in any order. -/
theorem read_ofList_perm {files files' : List (String × String)} {file : String}
    (hperm : files.Perm files')
    (hone : ∀ f ∈ files, ∀ g ∈ files, normalize f.1 = normalize file →
      normalize g.1 = normalize file → f.2 = g.2) :
    (ofList files').read file = (ofList files).read file := by
  refine read_congr ?_
  rw [files_ofList, files_ofList]
  refine (Table.get?_ofList_perm (fun v w hv hw => ?_) (hperm.map _)).symm
  obtain ⟨f, hf, heq⟩ := List.mem_map.1 hv
  obtain ⟨g, hg, heq'⟩ := List.mem_map.1 hw
  obtain ⟨hname, rfl⟩ := Prod.mk.inj heq
  obtain ⟨hname', rfl⟩ := Prod.mk.inj heq'
  exact hone f hf g hg hname hname'

end Sources

/-! ### Bundles -/

namespace Config

variable {c : Config} {p : Project} {entry : String}

theorem graph_eq_ok_iff (htarget : Target.ofText c.target = .ok p.target) {g : AssetGraph} :
    c.graph p.read entry = .ok g ↔ p.graph? c.dedupeModules entry = .ok (some g) := by
  unfold graph
  rw [htarget]
  show ((p.graph? c.dedupeModules entry).mapError (BundleError.build entry)).bind _ = .ok g ↔ _
  rcases p.graph? c.dedupeModules entry with x | _ | found <;>
    simp [Except.mapError, Except.bind, throw, throwThe, MonadExceptOf.throw, pure, Except.pure]

/-- There is a bundle if there is a graph that has one. -/
theorem bundle_eq_ok_iff (htarget : Target.ofText c.target = .ok p.target) {text : String} :
    c.bundle p.read entry = .ok text ↔
      ∃ g, p.graph? c.dedupeModules entry = .ok (some g) ∧ g.bundle? = some text := by
  simp only [← graph_eq_ok_iff htarget]
  unfold bundle
  rcases c.graph p.read entry with x | g
  · constructor
    · intro h
      cases h
    · rintro ⟨g, h, -⟩
      cases h
  · simp only [Except.ok.injEq, exists_eq_left']
    rcases hbundle : g.bundle? with _ | found <;>
      simp [hbundle, bind, Except.bind, throw, throwThe, MonadExceptOf.throw, pure, Except.pure]

end Config

/-! ### Searches that are alike -/

/-- The same assets under other names; so they make the same bundle. -/
structure AssetGraph.IsRenamed (f : String → String) (g g' : AssetGraph) : Prop where
  assets_eq : g'.assets = g.assets.map fun a => { a with filename := f a.filename }
  bundle?_eq : g'.bundle? = g.bundle?

namespace Project

variable {p q : Project} {f : String → String} {dedupe : Bool} {entry entry' : String}

/-- The searches of two projects are the same up to the names of files. -/
structure SearchAlike (p q : Project) (f : String → String) (dedupe : Bool)
    (entry entry' : String) : Prop where
  /-- After any number of steps both have failed, or both have a graph, or both go on. -/
  search_alike : ∀ n, EndsAlike p q f entry (Option.Rel (AssetGraph.IsRenamed f))
    (p.search dedupe entry n) (q.search dedupe entry' n)
  graph?_alike : EndsAlike p q f entry (Option.Rel (AssetGraph.IsRenamed f))
    (p.graph? dedupe entry) (q.graph? dedupe entry')
  /-- Bundles are the same text. -/
  bundle_iff : ∀ (c : Config) (text : String), Target.ofText c.target = .ok p.target →
    c.dedupeModules = dedupe →
    (c.bundle q.read entry' = .ok text ↔ c.bundle p.read entry = .ok text)

/-- Graphs that are the same up to names make the same bundles. -/
theorem EndsAlike.bundle_iff {x y : Except BuildError (Option AssetGraph)}
    (h : EndsAlike p q f entry (Option.Rel (AssetGraph.IsRenamed f)) x y) (text : String) :
    (∃ g, y = .ok (some g) ∧ g.bundle? = some text) ↔
      ∃ g, x = .ok (some g) ∧ g.bundle? = some text := by
  cases h with
  | failed => simp
  | done hgraphs =>
      cases hgraphs with
      | none => simp
      | some hgraph => simp [hgraph.bundle?_eq]

theorem IsRenaming.searchAlike (h : p.IsRenaming q f entry entry') (dedupe : Bool) :
    p.SearchAlike q f dedupe entry entry' := by
  have hgraph : ∀ g g' : Option AssetGraph, g' = g.map (AssetGraph.rename f) →
      Option.Rel (AssetGraph.IsRenamed f) g g' := by
    rintro (_ | g) _ rfl
    · exact .none
    · exact .some ⟨rfl, g.bundle?_rename f⟩
  have hsearch := fun n => (h.search dedupe n).imp hgraph
  have hfound : EndsAlike p q f entry (Option.Rel (AssetGraph.IsRenamed f))
      (p.graph? dedupe entry) (q.graph? dedupe entry') := by
    rw [graph?_eq_search, graph?_eq_search]
    exact hsearch _
  refine ⟨hsearch, hfound, fun c text hc hdedupe => ?_⟩
  rw [Config.bundle_eq_ok_iff hc, Config.bundle_eq_ok_iff (h.target_eq ▸ hc), hdedupe]
  exact hfound.bundle_iff text

/-- The searches of two projects cannot be told apart. -/
structure SameSearch (p q : Project) (dedupe : Bool) (entry entry' : String) : Prop where
  /-- After any number of steps both have failed in the same way, or both have the same graph, or
  both go on. -/
  search_eq : ∀ n, q.search dedupe entry' n = p.search dedupe entry n
  graph?_eq : q.graph? dedupe entry' = p.graph? dedupe entry
  /-- Bundles are the same text. -/
  bundle_iff : ∀ (c : Config) (text : String), Target.ofText c.target = .ok p.target →
    c.dedupeModules = dedupe →
    (c.bundle q.read entry' = .ok text ↔ c.bundle p.read entry = .ok text)

/-- Projects that answer alike for all files reached have the same search. -/
theorem sameSearch_of_reads (htarget : q.target = p.target)
    (hentry : normalize entry' = normalize entry)
    (hread : ∀ file, p.Reaches entry file → q.read file = p.read file) :
    p.SameSearch q dedupe entry entry' := by
  -- two projects that agree are one project in which no file has another name
  have hid : p.IsRenaming q id entry entry' :=
    { target_eq := htarget
      entry_eq := hentry
      read_eq := fun hfile => congrArg Except.toOption (hread _ hfile)
      resolve_eq := fun _ _ => rfl
      normalize_eq := fun hfile => hfile.normalize_eq
      injective := fun _ _ heq => heq }
  have hfail : ∀ {x y}, FailsAlike p q id entry x y → x = y := by
    rintro _ _ (@⟨file, cause, cause', hfile, hp, hq⟩ | _ | _)
    · rw [id, hread file hfile, hp] at hq
      cases hq
      rfl
    · rfl
    · rfl
  have hrename : AssetGraph.rename id = id := funext AssetGraph.rename_id
  have hends : ∀ {x y : Except BuildError (Option AssetGraph)},
      EndsAlike p q id entry (fun g g' => g' = g.map (AssetGraph.rename id)) x y → y = x := by
    rintro _ _ (hxy | rfl)
    · rw [hfail hxy]
    · rw [hrename, Option.map_id, id]
  have hsearch : ∀ n, q.search dedupe entry' n = p.search dedupe entry n :=
    fun n => hends (hid.search dedupe n)
  refine ⟨hsearch, ?_, (hid.searchAlike dedupe).bundle_iff⟩
  rw [graph?_eq_search, graph?_eq_search, hsearch]

end Project

/-- **A search depends on the files that its entry reaches, and on nothing else.** -/
theorem search_local (target : Target) (dedupe : Bool) {entry entry' : String}
    (hentry : normalize entry' = normalize entry) :
    (∀ read read' : Reader,
      (∀ file, Project.Reaches ⟨read, target⟩ entry file → read' file = read file) →
      Project.SameSearch ⟨read, target⟩ ⟨read', target⟩ dedupe entry entry') ∧
    (∀ (s : Sources) (path source : String),
      ¬ Project.Reaches ⟨s.read, target⟩ entry (normalize path) →
      Project.SameSearch ⟨s.read, target⟩ ⟨(s.insert path source).read, target⟩ dedupe entry
        entry') ∧
    ∀ files files' : List (String × String), files.Perm files' →
      (∀ f ∈ files, ∀ g ∈ files, normalize f.1 = normalize g.1 →
        Project.Reaches ⟨(Sources.ofList files).read, target⟩ entry (normalize f.1) → f.2 = g.2) →
      Project.SameSearch ⟨(Sources.ofList files).read, target⟩
        ⟨(Sources.ofList files').read, target⟩ dedupe entry entry' := by
  refine ⟨fun read read' hread => ?_, fun s path source hpath => ?_,
    fun files files' hperm hone => ?_⟩
  · -- the other two are cases of the first: what is reached is read alike
    exact Project.sameSearch_of_reads rfl hentry hread
  · refine Project.sameSearch_of_reads rfl hentry fun file hfile => ?_
    refine Sources.read_insert_of_ne source fun heq => hpath ?_
    rw [← heq, hfile.normalize_eq]
    exact hfile
  · refine Project.sameSearch_of_reads rfl hentry fun file hfile => ?_
    refine Sources.read_ofList_perm hperm fun f hf g hg hname hname' => ?_
    refine hone f hf g hg (hname.trans hname'.symm) ?_
    rw [hname, hfile.normalize_eq]
    exact hfile

/-- Two files, the first of which imports the second. -/
def Project.importingOnce : Project where
  read := (Sources.ofList [("a", "import 'b'"), ("b", "")]).read
  target := ⟨.next, []⟩

theorem Project.importingOnce_isClosed :
    Project.importingOnce.IsClosed "a" {file | file = "a" ∨ file = "b"} := by
  have ha : Project.importingOnce.specifiers "a" = ["b"] := by decide +kernel
  have hb : Project.importingOnce.specifiers "b" = [] := by decide +kernel
  refine ⟨.inl (by decide +kernel), ?_⟩
  rintro file (rfl | rfl) s hs
  · rw [ha] at hs
    obtain rfl := List.mem_singleton.1 hs
    exact .inr (by decide +kernel)
  · rw [hb] at hs
    exact absurd hs List.not_mem_nil

/-- A text that is no module may be added where nobody looks. -/
theorem search_local_unread : ∃ g,
    Project.importingOnce.graph? false "a" = .ok (some g) ∧
      Project.graph? ⟨((Sources.ofList [("a", "import 'b'"), ("b", "")]).insert "c" "(").read,
        ⟨.next, []⟩⟩ false "./a" = .ok (some g) := by
  obtain ⟨g, hg⟩ : ∃ g, Project.importingOnce.graph? false "a" = .ok (some g) :=
    exists_graph_of_isSome (by decide +kernel)
  have hunread : ¬ Project.importingOnce.Reaches "a" (normalize "c") := by
    intro hreach
    have hname : normalize "c" = "c" := by decide +kernel
    rw [hname] at hreach
    rcases Project.importingOnce_isClosed.mem_of_reaches hreach with h | h <;>
      exact absurd h (by decide)
  have hentry : normalize "./a" = normalize "a" := by decide +kernel
  have hsame := (search_local ⟨.next, []⟩ false hentry).2.1 _ "c" "(" hunread
  exact ⟨g, hg, hsame.graph?_eq.trans hg⟩

end ModuleBundler
