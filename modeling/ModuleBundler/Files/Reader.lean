/-
ModuleBundler/Files/Reader.lean

Where source texts come from.  A `Reader` answers a path by a text or by what stands in
the way.  `Sources` is a reader that is given its texts: it knows a text by where
the path of the text leads, so that two ways to write one path mean one text.
-/
import ModuleBundler.Location.Basic
import ModuleBundler.Table

namespace ModuleBundler

/-- What the operating system answers when it cannot do as asked. -/
inductive SystemError where
  | notFound | denied | notDirectory | isDirectory | fileExists | nameTooLong | tooManyLinks
  | notName | notText
  | other (text : String)
deriving DecidableEq, Inhabited, Repr

def SystemError.message : SystemError → String
  | notFound => "No such file or directory (os error 2)"
  | denied => "Permission denied (os error 13)"
  | notDirectory => "Not a directory (os error 20)"
  | isDirectory => "Is a directory (os error 21)"
  | fileExists => "File exists (os error 17)"
  | nameTooLong => "File name too long (os error 36)"
  | tooManyLinks => "Too many levels of symbolic links (os error 40)"
  | notName => "file name contained an unexpected NUL byte"
  | notText => "stream did not contain valid UTF-8"
  | other text => text

/-- Why there is no text under a path. -/
inductive ReadError where
  /-- No text was given under the path. -/
  | absent (path : String)
  | system (e : SystemError)
deriving DecidableEq, Inhabited, Repr

def ReadError.message : ReadError → String
  | absent path => "no such file: " ++ path
  | system e => e.message

/-- Answers a path by the text of the file. -/
abbrev Reader := String → Except ReadError String

/-- Texts by the paths of their files. -/
structure Sources where
  files : Table String String
deriving Inhabited

namespace Sources

/-- Adds a text, in place of one whose path leads to the same place. -/
def insert (s : Sources) (path source : String) : Sources := ⟨s.files.put (normalize path) source⟩

/-- Reads a text. -/
def read (s : Sources) : Reader := fun path =>
  match s.files.get? (normalize path) with
  | some source => .ok source
  | none => .error (.absent path)

/-- Texts added one after the other. -/
def ofList (files : List (String × String)) : Sources :=
  files.foldl (fun s f => s.insert f.1 f.2) default

end Sources

end ModuleBundler
