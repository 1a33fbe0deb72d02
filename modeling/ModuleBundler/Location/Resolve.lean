/-
ModuleBundler/Location/Resolve.lean

From an importing file to the file that a specifier names.  The segments of the
specifier are walked from the directory of the importing file; a `/` at the head of
the specifier has no meaning.

`directory` is a function of texts: it drops the last segment of a path and what is
idle before it, and keeps the rest as it is written.  So is `pathIn`, which goes the other way.
-/
import ModuleBundler.Location.Basic

namespace ModuleBundler

/-- A segment at which a walk stays where it is. -/
def Segment.isIdle (s : List Char) : Bool := s.isEmpty || s == ['.']

/-- Segments without the idle ones at their end. -/
def Segment.trim (ss : List (List Char)) : List (List Char) :=
  (ss.reverse.dropWhile isIdle).reverse

/-- The head of a path: `/`, or a `.` that is its first segment. -/
def pathHead : List Char → List Char
  | '/' :: _ => ['/']
  | ['.'] | '.' :: '/' :: _ => ['.']
  | _ => []

/-- The path without its last segment; a root and an empty path have none. -/
def parent? (path : List Char) : Option (List Char) :=
  let head := pathHead path
  match Segment.trim (Segment.split (path.drop head.length)) with
  | [] => if head = ['.'] then some [] else none
  | segments => some (head ++ Segment.join (Segment.trim segments.dropLast))

/-- The directory of a path; a root is its own directory. -/
def directoryChars (path : List Char) : List Char :=
  match parent? path with
  | some [] => ['.']
  | some up => up
  | none => if path.head? = some '/' then path else ['.']

def directory (path : String) : String := String.ofList (directoryChars path.toList)

/-- A path as it is written from where the directory is seen; one from the root stays. -/
def pathIn (dir path : String) : String :=
  if path.toList.head? = some '/' || dir.isEmpty then path
  else if dir.toList.getLast? = some '/' then dir ++ path
  else dir ++ "/" ++ path

/-- The location of the file that a specifier names, seen from a file. -/
def resolveLocation (importer specifier : String) : Location :=
  (Location.ofText (directory importer)).walk (Segment.split specifier.toList)

/-- The file that a specifier names, seen from a file. -/
def resolve (importer specifier : String) : String := (resolveLocation importer specifier).text

end ModuleBundler
