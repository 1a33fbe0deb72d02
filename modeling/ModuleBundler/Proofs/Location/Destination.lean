/-
ModuleBundler/Proofs/Location/Destination.lean

A path as directions.  From a working directory, given by the names from the root down to
it, a path is followed segment by segment (`Segment.follow`), and above the root there is
nothing: so two paths that differ in a `..` may lead to the same place from one directory
and to different places from another.

Two paths have the same normal form if and only if they lead to the same place from every
working directory (`normalize_eq_normalize_iff`).  That equal normal forms are enough is a
property of the walk: a location is a function of the working directory (`seenFrom`), and
each step of the walk is a step of the directions (`seenFrom_step`).  That they are needed
comes from two directories: seen from the root, locations differ in their names, and seen
from a directory that is deep enough, in the number of levels that they go up.
-/
import ModuleBundler.Proofs.Location.Canonical

namespace ModuleBundler

/-- The directory that one segment leads to from a directory. -/
def Segment.follow (directory : List (List Char)) (segment : List Char) : List (List Char) :=
  if segment = [] ∨ segment = ['.'] then directory
  else if segment = ['.', '.'] then directory.dropLast
  else directory ++ [segment]

/-- Where a path leads from a working directory. -/
def destination (cwd : List (List Char)) (path : String) : List (List Char) :=
  (Segment.split path.toList).foldl Segment.follow
    (if path.toList.head? = some '/' then [] else cwd)

namespace Location

variable {cwd : List (List Char)} {l m : Location}

/-- The directory that a location is, seen from a working directory. -/
def seenFrom (cwd : List (List Char)) : Location → List (List Char)
  | rooted names => names
  | relative ups names => cwd.take (cwd.length - ups) ++ names

/-! ### Following a walk -/

/-- One level further up from a working directory; the root is as far as it goes. -/
theorem take_length_sub_succ (cwd : List (List Char)) (ups : Nat) :
    cwd.take (cwd.length - (ups + 1)) = (cwd.take (cwd.length - ups)).dropLast := by
  rw [List.dropLast_eq_take, List.take_take, List.length_take]
  congr 1
  omega

/-- A step of a walk is a step of the directions. -/
theorem seenFrom_step (cwd : List (List Char)) (l : Location) (s : List Char) :
    (l.step s).seenFrom cwd = Segment.follow (l.seenFrom cwd) s := by
  unfold Segment.follow
  by_cases hidle : s = [] ∨ s = ['.']
  · rw [if_pos hidle]
    rcases hidle with rfl | rfl <;> rfl
  rw [if_neg hidle]
  by_cases hdots : s = ['.', '.']
  · rw [if_pos hdots]
    subst hdots
    cases l with
    | rooted ns => rfl
    | relative ups ns =>
        cases ns with
        | nil =>
            -- a step up beyond the path takes a name off the working directory
            show cwd.take (cwd.length - (ups + 1)) ++ [] = (_ ++ []).dropLast
            rw [List.append_nil, List.append_nil, take_length_sub_succ]
        | cons n ns => exact (List.dropLast_append_of_ne_nil (List.cons_ne_nil n ns)).symm
  · rw [if_neg hdots]
    obtain ⟨hnil, hdot⟩ := not_or.1 hidle
    rw [step_of_ne hnil hdot hdots]
    cases l with
    | rooted ns => rfl
    | relative ups ns => exact (List.append_assoc _ _ _).symm

theorem seenFrom_walk (cwd : List (List Char)) (l : Location) (ss : List (List Char)) :
    (l.walk ss).seenFrom cwd = ss.foldl Segment.follow (l.seenFrom cwd) := by
  induction ss generalizing l with
  | nil => rfl
  | cons s ss ih =>
      show ((l.step s).walk ss).seenFrom cwd = ss.foldl Segment.follow (Segment.follow _ s)
      rw [ih, seenFrom_step]

/-- A path leads to its location. -/
theorem seenFrom_ofText (cwd : List (List Char)) (path : String) :
    (ofText path).seenFrom cwd = destination cwd path := by
  have hstart : (start path.toList).seenFrom cwd =
      if path.toList.head? = some '/' then [] else cwd := by
    unfold start
    split
    · rfl
    · show cwd.take (cwd.length - 0) ++ [] = cwd
      rw [Nat.sub_zero, List.take_length, List.append_nil]
  rw [ofText, seenFrom_walk, hstart, destination]

/-! ### Telling locations apart -/

theorem seenFrom_nil (l : Location) : l.seenFrom [] = l.names := by
  cases l <;> simp [seenFrom, names]

theorem length_seenFrom_relative (cwd : List (List Char)) (ups : Nat) (ns : List (List Char)) :
    ((relative ups ns).seenFrom cwd).length = cwd.length - ups + ns.length := by
  rw [seenFrom, List.length_append, List.length_take]
  omega

/-- Locations that are the same from the root and from all deep enough directories are the
same.  It does not matter how these are called. -/
theorem eq_of_seenFrom (name : List Char)
    (h : ∀ depth, l.seenFrom (List.replicate depth name) = m.seenFrom (List.replicate depth name)) :
    l = m := by
  have hnames : l.names = m.names := by
    have := h 0
    rwa [List.replicate_zero, seenFrom_nil, seenFrom_nil] at this
  -- a location below the root has one length, the others get longer with the directory
  cases l with
  | rooted ns =>
      cases m with
      | rooted ms => exact congrArg rooted hnames
      | relative vps ms =>
          have hlen := congrArg List.length (h (vps + 1))
          rw [length_seenFrom_relative, List.length_replicate] at hlen
          have : ns.length = ms.length := congrArg List.length hnames
          have : ns.length = vps + 1 - vps + ms.length := hlen
          omega
  | relative ups ns =>
      cases m with
      | rooted ms =>
          have hlen := congrArg List.length (h (ups + 1))
          rw [length_seenFrom_relative, List.length_replicate] at hlen
          have : ns.length = ms.length := congrArg List.length hnames
          have : ups + 1 - ups + ns.length = ms.length := hlen
          omega
      | relative vps ms =>
          obtain rfl : ns = ms := hnames
          have hlen := congrArg List.length (h (ups + vps))
          rw [length_seenFrom_relative, length_seenFrom_relative, List.length_replicate] at hlen
          obtain rfl : ups = vps := by omega
          rfl

end Location

/-! ### Normal forms -/

/-- The normal form of a path leads where the path leads. -/
theorem destination_normalize (cwd : List (List Char)) (path : String) :
    destination cwd (normalize path) = destination cwd path := by
  rw [← Location.seenFrom_ofText, normalize, Location.ofText_text (Location.isProper_ofText path),
    Location.seenFrom_ofText]

/-- Paths that lead to the same place from all directories of one name have one location. -/
theorem ofText_eq_of_destination {p q : String} (name : List Char)
    (h : ∀ depth, destination (List.replicate depth name) p =
      destination (List.replicate depth name) q) : Location.ofText p = Location.ofText q := by
  refine Location.eq_of_seenFrom name fun depth => ?_
  rw [Location.seenFrom_ofText, Location.seenFrom_ofText]
  exact h depth

/-- **The normal form of a path is the place that it leads to.**  Two paths have the same normal
form exactly if they lead to the same place from every working directory; a normal form leads
where its path leads, from whatever is taken for a directory; and it is its own normal form. -/
theorem normalize_eq_normalize_iff (p q : String) :
    (normalize p = normalize q ↔
      ∀ cwd, (∀ name ∈ cwd, Segment.IsName name) → destination cwd p = destination cwd q) ∧
    (∀ cwd, destination cwd (normalize p) = destination cwd p) ∧
    normalize (normalize p) = normalize p := by
  refine ⟨⟨fun h cwd _ => ?_, fun h => ?_⟩, fun cwd => destination_normalize cwd p,
    normalize_normalize p⟩
  · rw [← destination_normalize cwd p, h, destination_normalize cwd q]
  · have hname : Segment.IsName ['a'] := ⟨by decide, by decide, by decide, by decide⟩
    refine congrArg Location.text (ofText_eq_of_destination ['a'] fun depth => h _ fun s hs => ?_)
    rw [(List.mem_replicate.1 hs).2]
    exact hname

end ModuleBundler
