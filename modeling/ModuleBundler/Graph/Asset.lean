/-
ModuleBundler/Graph/Asset.lean

Assets: the compiled modules that a bundle is made of.  An asset has a number, by
which a bundle addresses it; the numbers are handed out one after the other, from
zero on, the zero to the entry.

A module gets its number once it is read and accepted by the grammar.  Compiling
comes after that, so a module that cannot be compiled has used up a number.
-/
import ModuleBundler.Files.Reader
import ModuleBundler.Module.Compile
import ModuleBundler.Module.Specifier

namespace ModuleBundler

/-- The numbers handed out so far. -/
structure Numbering where
  issued : Nat
deriving DecidableEq, Inhabited, Repr

namespace Numbering

def fresh : Numbering := ⟨0⟩

/-- The number that is handed out next, and the numbering after that. -/
def next (n : Numbering) : Nat × Numbering := (n.issued, ⟨n.issued + 1⟩)

end Numbering

/-- The number of the entry. -/
def entryNumber : Nat := 0

/-- Why a module cannot be an asset. -/
inductive BuildError where
  | unreadable (path : String) (cause : ReadError)
  | rejected (path : String) (ds : List Diagnostic)
  | uncompilable (path : String) (ds : List Diagnostic)
deriving DecidableEq, Inhabited, Repr

namespace BuildError

def path : BuildError → String
  | unreadable p _ | rejected p _ | uncompilable p _ => p

def message : BuildError → String
  | unreadable p cause => "cannot read source file " ++ p ++ ": " ++ cause.message
  | rejected p ds => "failed to parse " ++ p ++ ": " ++ Diagnostic.joined ds
  | uncompilable p ds => "failed to compile " ++ p ++ ": " ++ Diagnostic.joined ds

/-- The message, followed by its causes. -/
def chain : BuildError → String
  | unreadable p cause => (unreadable p cause).message ++ ": " ++ cause.message
  | e => e.message

end BuildError

/-- The files of a project, and what they are compiled for. -/
structure Project where
  read : Reader
  target : Target

/-- A module that was read and accepted by the grammar. -/
structure SourceModule where
  filename : String
  text : List Char
  program : Program

namespace SourceModule

/-- The module of a text, under the name of a file. -/
def ofText (filename source : String) : Except BuildError SourceModule :=
  match Program.parse false source.toList with
  | .error ds => .error (.rejected filename ds)
  | .ok parsed => .ok ⟨filename, source.toList, parsed.program⟩

/-- Reads the module of a file. -/
def ofFile (read : Reader) (path : String) : Except BuildError SourceModule :=
  let filename := normalize path
  match read filename with
  | .error cause => .error (.unreadable filename cause)
  | .ok source => ofText filename source

/-- The specifiers of the modules that a module loads, as they are written. -/
def dependencies (m : SourceModule) : List String := m.program.specifiers

def compile (m : SourceModule) (target : Target) : Except BuildError String :=
  match m.program.compile target m.text with
  | .ok code => .ok code
  | .error ds => .error (.uncompilable m.filename ds)

end SourceModule

/-- A compiled module whose dependencies have no numbers yet. -/
structure UnlinkedAsset where
  id : Nat
  filename : String
  code : String
  dependencies : List String
deriving DecidableEq, Inhabited, Repr

/-- A compiled module, with the numbers of its dependencies. -/
structure Asset where
  id : Nat
  filename : String
  code : String
  dependencies : List String
  mapping : Table String Nat
deriving Inhabited

def UnlinkedAsset.link (a : UnlinkedAsset) (mapping : Table String Nat) : Asset :=
  ⟨a.id, a.filename, a.code, a.dependencies, mapping⟩

/-- Builds the asset of a file, and gives the numbering after that. -/
def Project.build (p : Project) (path : String) (n : Numbering) :
    Except BuildError UnlinkedAsset × Numbering :=
  match SourceModule.ofFile p.read path with
  | .error e => (.error e, n)
  | .ok m =>
      let (id, after) := n.next
      (do return ⟨id, m.filename, ← m.compile p.target, m.dependencies⟩, after)

end ModuleBundler
