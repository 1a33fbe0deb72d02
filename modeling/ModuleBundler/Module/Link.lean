/-
ModuleBundler/Module/Link.lean

How a module is tied to those it depends on.  Each import declaration with
bindings and each export declaration with a source gets a temporary of its own,
which holds the exports of the other module; an imported name is read through
that temporary, so the value read is always the current one.

`Link.ofProgram` goes through the statements of a module once and gives the
`require` statements, in the order of the text, and how each imported name is
read.
-/
import ModuleBundler.Module.Reference
import ModuleBundler.Text.Letter
import ModuleBundler.Text.Quoted

namespace ModuleBundler

/-! ### Texts -/

/-- The temporary of a dependency. -/
def temporary (n : Nat) : String := "__parcela_dep_" ++ toString n

/-- The name can follow a dot: it begins with a letter, `_` or `$`, and goes on with letters,
numbers, `_` and `$`. -/
def isDotted (name : List Char) : Bool :=
  match name with
  | [] => false
  | c :: rest =>
      (c == '_' || c == '$' || Letter.isAlphabetic c) &&
        rest.all fun c => c == '_' || c == '$' || Letter.isAlphanumeric c

/-- The text that reads a property of an object. -/
def memberText (object name : String) : String :=
  if isDotted name.toList then object ++ "." ++ name else object ++ "[" ++ name.quoted ++ "]"

/-! ### Dependencies -/

/-- A statement that runs a dependency. -/
inductive Requirement where
  /-- The exports are not used. -/
  | bare (specifier : String)
  /-- The exports are kept in a temporary. -/
  | bound (n : Nat) (specifier : String)
  /-- All exports of the dependency in a temporary are exported again, except those that the
  module itself defines. -/
  | forward (n : Nat)
deriving DecidableEq, Inhabited, Repr

namespace Requirement

def text : Requirement → String
  | bare specifier => "require(" ++ specifier.quoted ++ ");"
  | bound n specifier => "var " ++ temporary n ++ " = require(" ++ specifier.quoted ++ ");"
  | forward n =>
      let t := temporary n
      "Object.keys(" ++ t ++ ").forEach(function (key) \x7b\n" ++
      "  if (key === \"default\" || key === \"__esModule\" || " ++
        "Object.prototype.hasOwnProperty.call(exports, key)) return;\n" ++
      "  Object.defineProperty(exports, key, \x7b enumerable: true, get: function () \x7b return " ++
        t ++ "[key]; \x7d \x7d);\n" ++
      "\x7d);"

/-- The module that the statement names. -/
def specifier? : Requirement → Option String
  | bare s | bound _ s => some s
  | forward _ => none

end Requirement

structure Link where
  /-- The number of temporaries. -/
  count : Nat
  requirements : List Requirement
  /-- The imported names and the texts that read them; the last entry for a name counts. -/
  reads : List (String × String)
  /-- The temporary of each export declaration with a source, by the place where it begins. -/
  sources : List (Nat × Nat)
deriving Inhabited

namespace Link

def empty : Link := ⟨0, [], [], []⟩

/-- Adds a dependency that is kept in a temporary. -/
def bind (l : Link) (specifier : String) : Link :=
  { l with count := l.count + 1, requirements := l.requirements ++ [.bound l.count specifier] }

/-- The text that reads what an import names. -/
def readOf (object : String) : ImportSpec → String
  | .named imported _ => memberText object imported.text
  | .standard _ => memberText object "default"
  | .all _ => object

/-- Adds the dependencies of a statement. -/
def require (l : Link) : Stmt → Link
  | .importDecl _ specs source =>
      match specs with
      | none | some [] => { l with requirements := l.requirements ++ [.bare source.text] }
      | some specs =>
          let object := temporary l.count
          let reads := specs.map fun spec => (spec.localName.name, readOf object spec)
          { l.bind source.text with reads := l.reads ++ reads }
  | .exportList span _ (some source) =>
      { l.bind source.text with sources := l.sources ++ [(span.start, l.count)] }
  | .exportAll span exported source =>
      let bound := l.bind source.text
      { bound with
        requirements := if exported.isNone then bound.requirements ++ [.forward l.count]
          else bound.requirements
        sources := l.sources ++ [(span.start, l.count)] }
  | _ => l

/-- Adds what a statement depends on.  A name that comes from a frame inside the statement takes the
place of an imported one. -/
def add (l : Link) (s : Stmt) : Link :=
  let moved := s.movedNames
  { l with reads := l.reads.filter fun entry => !moved.contains entry.1 }.require s

def ofProgram (p : Program) : Link := p.stmts.foldl add empty

/-- The text that reads an imported name. -/
def read? (l : Link) (name : String) : Option String :=
  (l.reads.reverse.find? fun entry => entry.1 == name).map (·.2)

/-- The text that reads what a reference resolves to, if that is an import. -/
def readOf? (l : Link) (r : Reference) : Option String :=
  match r.home with
  | some frame => if frame.kind = .program then l.read? r.id.name else none
  | none => none

/-- The temporary of the export declaration that begins at a place. -/
def source? (l : Link) (place : Nat) : Option String :=
  (l.sources.find? fun entry => entry.1 == place).map (temporary ·.2)

end Link

end ModuleBundler
