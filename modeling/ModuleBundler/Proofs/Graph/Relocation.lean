/-
ModuleBundler/Proofs/Graph/Relocation.lean

A project that is kept in another directory.  Its files are then found by longer paths
(`relocate`), and there may be other files around them.

As long as no import leads out of the project, this makes no difference: from a file that has
moved a specifier leads to the file that has moved from where it led before
(`resolve_relocate`), and no two files end up in one place (`relocate_injective`).  So moving is
a renaming, the two searches go in step, and the bundle is the same text, since it shows
no names of files.

Main result: `search_relocated`.
-/
import ModuleBundler.Proofs.Graph.Locality
import ModuleBundler.Proofs.Location.Directory

namespace ModuleBundler

open Location

/-- The path of a file of a project, if the project is kept in a directory. -/
def relocate (directory path : String) : String := normalize (directory ++ "/" ++ path)

/-! ### Paths that have moved -/

section Paths

variable {directory path other : String}

theorem relocate_of_ofText {ns : List (List Char)} (hdir : directory ≠ "")
    (hpath : ofText path = relative 0 ns) :
    relocate directory path = ((ofText directory).down ns).text :=
  congrArg text (ofText_under hdir hpath)

theorem isName_of_ofText {ns : List (List Char)} (hpath : ofText path = relative 0 ns) :
    ∀ s ∈ ns, Segment.IsName s := by
  have hproper := isProper_ofText path
  rw [hpath] at hproper
  exact hproper

theorem isProper_moved (directory : String) {ns : List (List Char)}
    (hpath : ofText path = relative 0 ns) : ((ofText directory).down ns).IsProper :=
  (isProper_ofText directory).down (isName_of_ofText hpath)

/-- No two files move to one place. -/
theorem relocate_injective {ns ms : List (List Char)} (hdir : directory ≠ "")
    (hpath : ofText path = relative 0 ns) (hother : ofText other = relative 0 ms)
    (h : relocate directory path = relocate directory other) :
    normalize path = normalize other := by
  rw [relocate_of_ofText hdir hpath, relocate_of_ofText hdir hother] at h
  have hsame : ns = ms :=
    down_injective (text_injective (isProper_moved _ hpath) (isProper_moved _ hother) h)
  rw [normalize, normalize, hpath, hother, hsame]

/-- A path moves to where its normal form moves. -/
theorem relocate_normalize {ns : List (List Char)} (hdir : directory ≠ "")
    (hpath : ofText path = relative 0 ns) :
    relocate directory (normalize path) = relocate directory path := by
  have hnormal : ofText (normalize path) = relative 0 ns := by
    rw [normalize, ofText_text (isProper_ofText path), hpath]
  rw [relocate_of_ofText hdir hpath, relocate_of_ofText hdir hnormal]

/-- Inside the project a specifier is walked from the directory of the file. -/
theorem resolveLocation_of_ofText {ns : List (List Char)} (hne : ns ≠ [])
    (hpath : ofText path = relative 0 ns) (hnormal : normalize path = path) (s : String) :
    resolveLocation path s = (relative 0 ns.dropLast).walk (Segment.split s.toList) := by
  have hproper : (relative 0 ns).IsProper := isName_of_ofText hpath
  have htext : path = (relative 0 ns).text := by rw [← hpath]; exact hnormal.symm
  rw [htext, resolveLocation_text hproper hne]
  rfl

/-- From a file that has moved, a specifier leads to where the file has moved that it named. -/
theorem resolve_relocate (hdir : directory ≠ "") (hpath : LeadsInside path)
    (hnormal : normalize path = path) {s : String} (hresolve : LeadsInside (resolve path s)) :
    resolve (relocate directory path) s = relocate directory (resolve path s) := by
  obtain ⟨ns, hne, hns⟩ := hpath
  obtain ⟨ms, -, hms⟩ := hresolve
  have hwalk : (relative 0 ns.dropLast).walk (Segment.split s.toList) = relative 0 ms := by
    rw [← resolveLocation_of_ofText hne hns hnormal, ← hms, resolve,
      ofText_text (isProper_resolveLocation path s)]
  have hmoved : ((ofText directory).down ns).names ≠ [] := by
    rw [names_down]
    exact List.append_ne_nil_of_right_ne_nil _ hne
  rw [relocate_of_ofText hdir hns, relocate_of_ofText hdir hms, resolve,
    resolveLocation_text (isProper_moved _ hns) hmoved, up_down _ hne, walk_down _ hwalk]

end Paths

namespace Project

variable {p q : Project} {directory entry file : String}

/-- The entry reaches only files below where the project starts. -/
def StaysInside (p : Project) (entry : String) : Prop :=
  ∀ file, p.Reaches entry file → file ≠ "." ∧ ¬ Ascends file

/-- Then every file reached is a file below where the project starts, since no import begins a path
anew. -/
theorem StaysInside.leadsInside (h : p.StaysInside entry) (hentry : entry.toList.head? ≠ some '/')
    (hfile : p.Reaches entry file) : LeadsInside file := by
  -- a file that leads inside has a directory to walk from, which is what the next import needs
  induction hfile with
  | refl =>
      have hreach := p.reaches_entry entry
      obtain ⟨hdot, hascends⟩ := h _ hreach
      obtain ⟨ups, ns, hns⟩ := exists_relative hentry
      have hlocation : ofText (normalize entry) = relative ups ns := by
        rw [normalize, ofText_text (isProper_ofText entry), hns]
      exact .of_normal hreach.normalize_eq (head?_ne_of_ofText hlocation) hdot hascends
  | @tail file _ hfile himports ih =>
      obtain ⟨s, hs, rfl⟩ := himports
      have hreach : p.Reaches entry (resolve file s) := Reaches.resolve hfile hs
      obtain ⟨hdot, hascends⟩ := h _ hreach
      obtain ⟨ns, hne, hns⟩ := ih
      obtain ⟨ups, ms, hwalk, -⟩ := walk_relative 0 ns.dropLast (Segment.split s.toList)
      have hlocation : ofText (resolve file s) = relative ups ms := by
        rw [resolve, ofText_text (isProper_resolveLocation file s),
          resolveLocation_of_ofText hne hns (Reaches.normalize_eq hfile), hwalk]
      exact .of_normal hreach.normalize_eq (head?_ne_of_ofText hlocation) hdot hascends

/-- A reader finds the files of another in a directory.  Nothing is asked about other paths. -/
def ReadsUnder (q p : Project) (directory : String) : Prop :=
  ∀ path, normalize path = path → path.toList.head? ≠ some '/' → ¬ Ascends path →
    (q.read (relocate directory path)).toOption = (p.read path).toOption

/-- Moving a project is a renaming. -/
theorem StaysInside.isRenaming (h : p.StaysInside entry) (hentry : entry.toList.head? ≠ some '/')
    (hdir : directory ≠ "") (htarget : q.target = p.target) (hread : q.ReadsUnder p directory) :
    p.IsRenaming q (relocate directory) entry (directory ++ "/" ++ entry) where
  target_eq := htarget
  entry_eq := by
    obtain ⟨ns, -, hns⟩ := h.leadsInside hentry (p.reaches_entry entry)
    rw [normalize, ofText_text (isProper_ofText entry)] at hns
    exact (relocate_normalize hdir hns).symm
  read_eq := by
    intro file hfile
    refine hread file hfile.normalize_eq ?_ (h file hfile).2
    obtain ⟨ns, -, hns⟩ := h.leadsInside hentry hfile
    exact head?_ne_of_ofText hns
  resolve_eq := fun hfile hs =>
    resolve_relocate hdir (h.leadsInside hentry hfile) hfile.normalize_eq
      (h.leadsInside hentry (hfile.resolve hs))
  normalize_eq := fun _ => normalize_normalize _
  injective := by
    intro file other hfile hother heq
    obtain ⟨ns, -, hns⟩ := h.leadsInside hentry hfile
    obtain ⟨ms, -, hms⟩ := h.leadsInside hentry hother
    rw [← hfile.normalize_eq, ← hother.normalize_eq]
    exact relocate_injective hdir hns hms heq

end Project

/-- Texts that are given under longer paths are found there. -/
theorem Sources.readsUnder {files : List (String × String)} {directory : String} (target : Target)
    (hdir : directory ≠ "") (hfiles : ∀ f ∈ files, ∃ ns, ofText f.1 = relative 0 ns) :
    Project.ReadsUnder
      ⟨(Sources.ofList (files.map fun f => (directory ++ "/" ++ f.1, f.2))).read, target⟩
      ⟨(Sources.ofList files).read, target⟩ directory := by
  intro path hnormal hroot hascends
  obtain ⟨ns, hns⟩ := exists_relative_zero hnormal hroot hascends
  -- the keys of the one table are those of the other, moved
  have hpairs : (files.map fun f => (directory ++ "/" ++ f.1, f.2)).map
      (fun f => (normalize f.1, f.2)) =
        (files.map fun f => (normalize f.1, f.2)).map fun f => (relocate directory f.1, f.2) := by
    rw [List.map_map, List.map_map]
    refine List.map_congr_left fun f hf => ?_
    obtain ⟨ms, hms⟩ := hfiles f hf
    exact Prod.ext (relocate_normalize hdir hms).symm rfl
  rw [toOption_read, toOption_read, files_ofList, files_ofList, hpairs, hnormal, relocate,
    normalize_normalize, ← relocate]
  refine Table.get?_ofList_mapKeys fun e he heq => ?_
  obtain ⟨f, hf, rfl⟩ := List.mem_map.1 he
  obtain ⟨ms, hms⟩ := hfiles f hf
  rw [relocate_normalize hdir hms] at heq
  exact (relocate_injective hdir hms hns heq).trans hnormal

/-- **A project in another directory is searched in the same way**, if no import leads out of it. -/
theorem search_relocated (target : Target) (dedupe : Bool) {read read' : Reader}
    {directory entry : String} (hdir : directory ≠ "") (hentry : entry.toList.head? ≠ some '/')
    (hread : Project.ReadsUnder ⟨read', target⟩ ⟨read, target⟩ directory)
    (hinside : Project.StaysInside ⟨read, target⟩ entry) :
    Project.SearchAlike ⟨read, target⟩ ⟨read', target⟩ (relocate directory) dedupe entry
      (directory ++ "/" ++ entry) := by
  have hrenaming : Project.IsRenaming ⟨read, target⟩ ⟨read', target⟩ (relocate directory) entry
      (directory ++ "/" ++ entry) := hinside.isRenaming hentry hdir rfl hread
  exact hrenaming.searchAlike dedupe

/-- Two files in a directory make the bundle that they make without it. -/
theorem search_relocated_once : ∃ g,
    Project.importingOnce.graph? true "a" = .ok (some g) ∧
      ∃ g', Project.graph? ⟨(Sources.ofList [("lib/a", "import 'b'"), ("lib/b", "")]).read,
        ⟨.next, []⟩⟩ true "lib/a" = .ok (some g') ∧ g'.bundle? = g.bundle? := by
  obtain ⟨g, hg⟩ : ∃ g, Project.importingOnce.graph? true "a" = .ok (some g) :=
    exists_graph_of_isSome (by decide +kernel)
  have hinside : Project.importingOnce.StaysInside "a" := by
    intro file hfile
    rcases Project.importingOnce_isClosed.mem_of_reaches hfile with rfl | rfl <;>
      exact ⟨by decide, by unfold Ascends; decide⟩
  have hfiles : ∀ f ∈ [("a", "import 'b'"), ("b", "")], ∃ ns, ofText f.1 = relative 0 ns := by
    intro f hf
    simp only [List.mem_cons, List.not_mem_nil, or_false] at hf
    rcases hf with rfl | rfl
    · exact ⟨[['a']], by decide⟩
    · exact ⟨[['b']], by decide⟩
  have hread := Sources.readsUnder ⟨.next, []⟩ (show "lib" ≠ "" by decide) hfiles
  have hmoved : [("a", "import 'b'"), ("b", "")].map (fun f => ("lib" ++ "/" ++ f.1, f.2)) =
      [("lib/a", "import 'b'"), ("lib/b", "")] := by decide
  have hentry : "lib" ++ "/" ++ "a" = "lib/a" := by decide
  rw [hmoved] at hread
  have halike : Project.EndsAlike Project.importingOnce
      ⟨(Sources.ofList [("lib/a", "import 'b'"), ("lib/b", "")]).read, ⟨.next, []⟩⟩ _ "a" _
      (Project.importingOnce.graph? true "a") (Project.graph? _ true ("lib" ++ "/" ++ "a")) :=
    (search_relocated ⟨.next, []⟩ true (by decide) (by decide) hread hinside).graph?_alike
  rw [hg, hentry] at halike
  obtain ⟨_, hfound, hrel⟩ := halike.exists_of_ok
  cases hrel with
  | some hsame => exact ⟨g, hg, _, hfound, hsame.bundle?_eq⟩

end ModuleBundler
