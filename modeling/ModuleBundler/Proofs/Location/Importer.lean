/-
ModuleBundler/Proofs/Location/Importer.lean

From a file to what a specifier in it names.  `directory` cuts the text of a path, whatever idle
segments and separators are in it, and what it leaves leads where the segments of the path that
count lead without the last one (`ofText_directory`).  So the directory of a path that ends with
a name is where its location lacks this name (`up_ofText`), and nothing of how the path is
written matters to what a specifier in it names.

Main result: `resolve_walks`.
-/
import ModuleBundler.Proofs.Location.Destination
import ModuleBundler.Proofs.Location.Parent

namespace ModuleBundler

open Segment

/-! ### The name of a file -/

/-- The name that a path ends with.  A path that ends with `..` ends with no name, and neither
does one in which no segment counts. -/
def fileName? (path : String) : Option String :=
  ((active (split path.toList)).getLast?.filter (· ≠ ['.', '.'])).map String.ofList

theorem Segment.eq_of_isIdle {s : List Char} (h : isIdle s = true) : s = [] ∨ s = ['.'] := by
  simpa [isIdle] using h

theorem Segment.isName_of_mem_active {text s : List Char} (h : s ∈ active (split text))
    (hdots : s ≠ ['.', '.']) : IsName s := by
  obtain ⟨hmem, hidle⟩ := List.mem_filter.1 h
  refine ⟨?_, ?_, hdots, no_separator_of_mem_split hmem⟩ <;> rintro rfl <;> cases hidle

/-- A path with a file name goes down to it at last. -/
theorem exists_of_fileName? {path name : String} (h : fileName? path = some name) :
    IsName name.toList ∧
      active (split path.toList) = (active (split path.toList)).dropLast ++ [name.toList] := by
  obtain ⟨s, hs, rfl⟩ := Option.map_eq_some_iff.1 h
  obtain ⟨hlast, hdots⟩ := Option.filter_eq_some_iff.1 hs
  rw [String.toList_ofList]
  refine ⟨isName_of_mem_active (List.mem_of_getLast? hlast) (by simpa using hdots), ?_⟩
  obtain ⟨front, hfront⟩ := List.getLast?_eq_some_iff.1 hlast
  rw [hfront, List.dropLast_concat]

namespace Location

/-! ### The directory of a path -/

/-- A walk does not notice idle segments. -/
theorem walk_active (l : Location) (ss : List (List Char)) : l.walk (active ss) = l.walk ss := by
  induction ss generalizing l with
  | nil => rfl
  | cons s ss ih =>
      cases hs : isIdle s with
      | true =>
          rw [active_cons_of_idle hs, ih]
          rcases eq_of_isIdle hs with rfl | rfl <;> rfl
      | false =>
          rw [active_cons_of_not_idle hs]
          exact ih (l.step s)

/-- **The directory of a path leads where the path leads without its last segment.** -/
theorem ofText_directory (path : String) :
    ofText (directory path) =
      (start path.toList).walk (active (split path.toList)).dropLast := by
  -- the path above leads there
  have habove : ∀ up, parent? path.toList = some up →
      (start up).walk (split up) =
        (start path.toList).walk (active (split path.toList)).dropLast := by
    intro up hup
    have hstart : start up = start path.toList := by
      unfold start
      simp only [head?_parent? hup]
    rw [← walk_active, active_split_parent? hup, hstart]
  unfold ofText directory directoryChars
  rw [String.toList_ofList]
  split
  next hup => exact habove [] hup
  next up _ hup => exact habove up hup
  next hnone =>
    have hactive : active (split path.toList) = [] := by
      refine Decidable.byContradiction fun hne => ?_
      obtain ⟨up, hup⟩ := exists_parent? hne
      rw [hnone] at hup
      cases hup
    rw [hactive]
    split
    next => rw [← walk_active, hactive]; rfl
    next hroot => unfold start; rw [if_neg hroot]; rfl

theorem directory_ne (path : String) : directory path ≠ "" := by
  intro h
  have hchars : directoryChars path.toList = [] := by
    simpa [directory] using congrArg String.toList h
  unfold directoryChars at hchars
  split at hchars
  next => cases hchars
  next up hup _ => exact hup hchars
  next =>
    split at hchars
    next hroot => rw [hchars] at hroot; cases hroot
    next => cases hchars

variable {path name : String}

/-- A path with a file name leads to this name in its directory. -/
theorem ofText_eq_down (h : fileName? path = some name) :
    ofText path = (ofText (directory path)).down [name.toList] := by
  obtain ⟨hname, hactive⟩ := exists_of_fileName? h
  calc ofText path = (start path.toList).walk (active (split path.toList)) :=
        (walk_active _ _).symm
    _ = ((start path.toList).walk (active (split path.toList)).dropLast).walk [name.toList] := by
        rw [← walk_append, ← hactive]
    _ = (ofText (directory path)).walk [name.toList] := by rw [ofText_directory]
    _ = (ofText (directory path)).down [name.toList] :=
        step_eq_down hname.ne_nil hname.ne_dot hname.ne_dots _

theorem up_ofText (h : fileName? path = some name) :
    (ofText path).up = ofText (directory path) := by
  rw [ofText_eq_down h, up_down _ (List.cons_ne_nil _ _)]
  exact down_nil _

/-- What a specifier in a file names depends only on where the file is. -/
theorem resolveLocation_eq (h : fileName? path = some name) (specifier : String) :
    resolveLocation path specifier = (ofText path).up.walk (split specifier.toList) := by
  rw [up_ofText h, resolveLocation]

theorem names_ne_nil (h : fileName? path = some name) : (ofText path).names ≠ [] := by
  rw [ofText_eq_down h, names_down]
  exact List.append_ne_nil_of_right_ne_nil _ (List.cons_ne_nil _ _)

/-- What is written at the root stays below it. -/
theorem exists_rooted_resolveLocation (h : path.toList.head? = some '/') (specifier : String) :
    ∃ ns, resolveLocation path specifier = rooted ns := by
  obtain ⟨ms, hms⟩ := walk_rooted [] (active (split path.toList)).dropLast
  have hstart : start path.toList = rooted [] := if_pos h
  unfold resolveLocation
  rw [ofText_directory, hstart, hms]
  exact walk_rooted ms _

/-- The text of a location below the root never goes up. -/
theorem dots_notMem_split {ns : List (List Char)} (h : (rooted ns).IsProper) :
    ['.', '.'] ∉ split (rooted ns).text.toList := by
  have hsplit : split (rooted ns).text.toList = [] :: split (join ns) := by
    rw [text, String.toList_ofList]
    rfl
  rw [hsplit, List.mem_cons, not_or]
  refine ⟨List.cons_ne_nil _ _, fun hmem => ?_⟩
  rcases ns with - | ⟨n, ns⟩
  · simp [join, split] at hmem
  · rw [Segment.split_join (List.cons_ne_nil n ns) fun s hs => (h s hs).no_separator] at hmem
    exact (h _ hmem).ne_dots rfl

end Location

/-! ### Specifiers -/

/-- From every working directory, a specifier is followed from the directory of its importer. -/
theorem destination_resolve (cwd : List (List Char)) (importer specifier : String) :
    destination cwd (resolve importer specifier) =
      (split specifier.toList).foldl follow (destination cwd (directory importer)) := by
  rw [← Location.seenFrom_ofText, resolve,
    Location.ofText_text (Location.isProper_resolveLocation importer specifier),
    resolveLocation, Location.seenFrom_walk, Location.seenFrom_ofText]

theorem resolve_eq_normalize (importer specifier : String) :
    resolve importer specifier = normalize (directory importer ++ "/" ++ specifier) := by
  rw [normalize, Location.ofText_append_separator (Location.directory_ne importer)]
  rfl

/-- **What a specifier names is where it leads from the directory of its importer.**  This holds
from every working directory, the text that is found is in normal form, and it is the normal form
of the directory and the specifier with a `/` between them.  If the importer has a file name,
nothing but its location matters, its normal form will do, and it resolves its own name to itself.
Below the root one stays below it. -/
theorem resolve_walks (importer specifier : String) :
    (∀ cwd, destination cwd (resolve importer specifier) =
      (split specifier.toList).foldl follow (destination cwd (directory importer))) ∧
    normalize (resolve importer specifier) = resolve importer specifier ∧
    resolve importer specifier = normalize (directory importer ++ "/" ++ specifier) ∧
    (∀ name, fileName? importer = some name →
      (∀ other, (fileName? other).isSome →
        (∀ cwd, (∀ s ∈ cwd, IsName s) → destination cwd other = destination cwd importer) →
        resolve other specifier = resolve importer specifier) ∧
      resolve importer specifier = resolve (normalize importer) specifier ∧
      resolve importer name = normalize importer) ∧
    (importer.toList.head? = some '/' →
      (resolve importer specifier).toList.head? = some '/' ∧
        ['.', '.'] ∉ split (resolve importer specifier).toList) := by
  refine ⟨fun cwd => destination_resolve cwd importer specifier,
    normalize_resolve importer specifier, resolve_eq_normalize importer specifier,
    fun name hname => ⟨fun other hother hplace => ?_, ?_, ?_⟩, fun hroot => ?_⟩
  · -- another way to write the path
    obtain ⟨name', hname'⟩ := Option.isSome_iff_exists.1 hother
    have hsame : Location.ofText other = Location.ofText importer := by
      refine ofText_eq_of_destination ['a'] fun depth => hplace _ fun s hs => ?_
      rw [(List.mem_replicate.1 hs).2]
      exact ⟨by decide, by decide, by decide, by decide⟩
    rw [resolve, resolve, Location.resolveLocation_eq hname', Location.resolveLocation_eq hname,
      hsame]
  · rw [resolve, resolve, normalize, Location.resolveLocation_eq hname,
      Location.resolveLocation_text (Location.isProper_ofText importer)
        (Location.names_ne_nil hname)]
  · have hn := (exists_of_fileName? hname).1
    have hsplit : split name.toList = [name.toList] := split_eq_singleton hn.no_separator
    rw [resolve, normalize, resolveLocation, hsplit, Location.ofText_eq_down hname]
    exact congrArg Location.text (Location.step_eq_down hn.ne_nil hn.ne_dot hn.ne_dots _)
  · obtain ⟨ns, hns⟩ := Location.exists_rooted_resolveLocation hroot specifier
    have hproper := Location.isProper_resolveLocation importer specifier
    rw [hns] at hproper
    rw [resolve, hns]
    refine ⟨?_, Location.dots_notMem_split hproper⟩
    rw [Location.text, String.toList_ofList]
    rfl

/-- A path with idle segments, two spellings of one file, and a specifier that climbs to the
root. -/
theorem resolve_walks_of_idle :
    fileName? "/src//./app/main.js/." = some "main.js" ∧
      resolve "/lib/../src/app/main.js" "/../.././../x//y.js/" =
        resolve "/src//./app/main.js/." "/../.././../x//y.js/" ∧
      resolve "/src//./app/main.js/." "main.js" = "/src/app/main.js" ∧
      (resolve "/src//./app/main.js/." "/../.././../x//y.js/").toList.head? = some '/' := by
  have hname : fileName? "/src//./app/main.js/." = some "main.js" := by decide +kernel
  obtain ⟨-, -, -, hfile, hroot⟩ := resolve_walks "/src//./app/main.js/." "/../.././../x//y.js/"
  obtain ⟨hsame, -, -⟩ := hfile "main.js" hname
  obtain ⟨-, -, hself⟩ := (resolve_walks "/src//./app/main.js/." "").2.2.2.1 "main.js" hname
  have hnormal : normalize "/lib/../src/app/main.js" = normalize "/src//./app/main.js/." := by
    decide +kernel
  have hplace : ∀ cwd, (∀ s ∈ cwd, IsName s) → destination cwd "/lib/../src/app/main.js" =
      destination cwd "/src//./app/main.js/." := by
    intro cwd _
    rw [← destination_normalize, hnormal, destination_normalize]
  exact ⟨hname, hsame _ (by decide +kernel) hplace, hself.trans (by decide +kernel),
    (hroot rfl).1⟩

end ModuleBundler
