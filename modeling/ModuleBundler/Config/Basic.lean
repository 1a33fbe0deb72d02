/-
ModuleBundler/Config/Basic.lean

The settings of a run: the target to compile for, and whether a file that is imported
twice is built once.

A configuration file need not set everything: what it leaves open stays as it was
(`Config.merge`).  The same text can be read as complete settings, with defaults for
what it leaves open.
-/
import ModuleBundler.Text.Json
import ModuleBundler.Toml.Document
import ModuleBundler.Toml.Printer

namespace ModuleBundler

/-- The settings of a run. -/
structure Config where
  target : String := "es2015"
  dedupeModules : Bool := false
deriving DecidableEq, Inhabited, Repr

/-- Settings of which each may be left open. -/
structure PartialConfig where
  target : Option String := none
  dedupeModules : Option Bool := none
deriving DecidableEq, Inhabited, Repr

namespace Config

/-- The settings where a file leaves nothing open. -/
def merge (c : Config) (p : PartialConfig) : Config :=
  ⟨p.target.getD c.target, p.dedupeModules.getD c.dedupeModules⟩

/-! ### Keys -/

/-- The keys of a configuration file. -/
inductive Field where
  | target | dedupeModules
deriving DecidableEq, Inhabited, Repr

def Field.name : Field → String
  | target => "target"
  | dedupeModules => "dedupe-modules"

def Field.all : List Field := [.target, .dedupeModules]

def Field.ofName? (name : String) : Option Field := Field.all.find? (·.name == name)

end Config

namespace Toml

/-- The text that an entry must hold. -/
def Entry.text (e : Entry) : Except Error String :=
  match e.value with
  | .string s => .ok s
  | v => .error ⟨e.place, v.mismatch "a string"⟩

/-- The truth value that an entry must hold. -/
def Entry.truth (e : Entry) : Except Error Bool :=
  match e.value with
  | .boolean b => .ok b
  | v => .error ⟨e.place, v.mismatch "a boolean"⟩

/-- The field that an entry sets. -/
def Entry.field (e : Entry) : Except Error Config.Field :=
  match Config.Field.ofName? e.name with
  | some f => .ok f
  | none => .error ⟨e.keyPlace, .unknownField e.name (Config.Field.all.map Config.Field.name)⟩

/-- Entries in the order of their names. -/
def sorted (es : List Entry) : List Entry := es.mergeSort fun a b => a.name ≤ b.name

end Toml

/-! ### Reading -/

namespace PartialConfig

/-- The settings after an entry. -/
def set (p : PartialConfig) (e : Toml.Entry) : Except Toml.Error PartialConfig := do
  match ← e.field with
  | .target => return { p with target := some (← e.text) }
  | .dedupeModules => return { p with dedupeModules := some (← e.truth) }

/-- Reads a configuration file.  Entries are looked at in the order of their names. -/
def ofToml (text : String) : Except Toml.Error PartialConfig := do
  (Toml.sorted (← Toml.table text)).foldlM set {}

end PartialConfig

namespace Config

/-- The settings after an entry. -/
def set (c : Config) (e : Toml.Entry) : Except Toml.Error Config := do
  match ← e.field with
  | .target => return { c with target := ← e.text }
  | .dedupeModules => return { c with dedupeModules := ← e.truth }

/-- Reads complete settings, with defaults for what the text leaves open. -/
def ofToml (text : String) : Except Toml.Error Config := do
  (Toml.sorted (← Toml.table text)).foldlM set {}

/-! ### Writing -/

def toml (c : Config) : String :=
  Toml.Printer.pair Field.target.name (Toml.Printer.string c.target) ++
    Toml.Printer.pair Field.dedupeModules.name (Toml.Printer.boolean c.dedupeModules)

def json (c : Config) : String :=
  Json.object [Json.member Field.target.name c.target.quoted,
    Json.member Field.dedupeModules.name (Json.bool c.dedupeModules)]

end Config

end ModuleBundler
