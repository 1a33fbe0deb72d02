/-
ModuleBundler/Location/Basic.lean

Locations of files.  A `Location` is what a path leads to, as far as its text can
tell: some levels up from where the path starts and then down through directories,
or down from the root.  There is no way up from the root.

`Location.ofText` walks a path segment by segment: an empty segment and `.` stay, `..` goes
up, anything else goes down.  `Location.text` writes the shortest path to a location,
and `normalize` is the one after the other.  Files are told apart by this text.
-/
import ModuleBundler.Location.Segment

namespace ModuleBundler

/-- Where a path leads. -/
inductive Location where
  /-- Down from the root through directories. -/
  | rooted (names : List (List Char))
  /-- So many levels up from the start, and then down. -/
  | relative (ups : Nat) (names : List (List Char))
deriving DecidableEq, Inhabited, Repr

namespace Location

/-- One segment of a walk. -/
def step (l : Location) (segment : List Char) : Location :=
  match segment, l with
  | [], l | ['.'], l => l
  | ['.', '.'], rooted names => rooted names.dropLast
  | ['.', '.'], relative ups [] => relative (ups + 1) []
  | ['.', '.'], relative ups names => relative ups names.dropLast
  | s, rooted names => rooted (names ++ [s])
  | s, relative ups names => relative ups (names ++ [s])

/-- Walks on from a location along segments. -/
def walk (l : Location) (segments : List (List Char)) : Location := segments.foldl step l

/-- Where a path begins. -/
def start (text : List Char) : Location :=
  if text.head? = some '/' then rooted [] else relative 0 []

/-- Where a path leads. -/
def ofText (text : String) : Location := (start text.toList).walk (Segment.split text.toList)

/-- The segments of the shortest path to a location. -/
def segments : Location → List (List Char)
  | rooted names => names
  | relative ups names => List.replicate ups ['.', '.'] ++ names

/-- The shortest path to a location. -/
def chars (l : Location) : List Char :=
  match l with
  | rooted names => '/' :: Segment.join names
  | l => if l.segments.isEmpty then ['.'] else Segment.join l.segments

def text (l : Location) : String := String.ofList l.chars

end Location

/-- The shortest path to where a path leads. -/
def normalize (path : String) : String := (Location.ofText path).text

end ModuleBundler
