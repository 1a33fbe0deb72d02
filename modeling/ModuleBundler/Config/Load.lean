/-
ModuleBundler/Config/Load.lean

Where settings come from.  In rising order: defaults, the file of the user, the file of
the project, a file that the call names, and the environment.  The files of user and
project may be absent; the file that the call names may not.

The sources are gone through in this order, and the first that is at fault ends the
run, whether or not a later one would have had its way.
-/
import ModuleBundler.Config.Basic
import ModuleBundler.Files.Reader
import ModuleBundler.Location.Resolve
import ModuleBundler.Text.Blank

namespace ModuleBundler

/-- What a run can ask about files. -/
structure Files where
  isFile : String → Bool
  read : String → Except SystemError String

/-- The reader of source texts that files give. -/
def Files.reader (f : Files) : Reader := fun path => (f.read path).mapError .system

/-- A variable of the environment: bytes, which need not be a text. -/
inductive Variable where
  | unset
  | set (bytes : ByteArray)
deriving Inhabited

namespace Variable

/-- The text of a variable; one that is no text has none, like one that is unset. -/
def text? : Variable → Option String
  | unset => none
  | set bytes => String.fromUTF8? bytes

def ofText? : Option String → Variable
  | none => unset
  | some text => set text.toUTF8

instance : Coe (Option String) Variable := ⟨ofText?⟩

end Variable

/-- What a run knows of its environment. -/
structure Environment where
  /-- The variable that sets the target. -/
  target : Variable := .unset
  /-- The variable that sets whether files are built once. -/
  dedupeModules : Variable := .unset
  /-- The directory for the configuration of the user. -/
  configHome : Option String := none
deriving Inhabited

inductive ConfigError where
  | unreadable (path : String) (cause : SystemError)
  | invalid (path text : String) (cause : Toml.Error)
  | invalidTruth (value : String)
deriving DecidableEq, Inhabited, Repr

def ConfigError.message : ConfigError → String
  | unreadable path cause => "failed to read config file " ++ path ++ ": " ++ cause.message
  | invalid path text cause =>
      "failed to parse config file " ++ path ++ ": " ++ cause.message text.toList
  | invalidTruth value => "invalid PARCELA_DEDUPE_MODULES value '" ++ value ++ "'"

/-- The file name of configurations. -/
def configFileName : String := "parcela.toml"

/-- The configuration file of the user. -/
def Environment.userConfig? (env : Environment) : Option String :=
  env.configHome.map fun dir => pathIn (pathIn dir "parcela") configFileName

/-- A truth value in words, without regard to white space around it and to capitals. -/
def truth? (s : String) : Option Bool :=
  let word := String.ofList ((trimBlank s.toList).map Char.toLower)
  if ["1", "true", "yes", "on"].contains word then some true
  else if ["0", "false", "no", "off"].contains word then some false
  else none

namespace Config

/-- Reads a configuration file. -/
def readPartial (files : Files) (path : String) : Except ConfigError PartialConfig :=
  match files.read path with
  | .error cause => .error (.unreadable path cause)
  | .ok text => (PartialConfig.ofToml text).mapError (.invalid path text)

/-- The settings after a file. -/
def mergeFile (files : Files) (path : String) (c : Config) : Except ConfigError Config := do
  return c.merge (← readPartial files path)

/-- The settings after a file, if it is there. -/
def mergeFileIfExists (files : Files) (path : String) (c : Config) : Except ConfigError Config :=
  if files.isFile path then mergeFile files path c else .ok c

/-- The settings after the variable for the target; an empty one counts as none. -/
def withTarget (env : Environment) (c : Config) : Config :=
  match env.target.text? with
  | some t => if t.isEmpty then c else { c with target := t }
  | none => c

/-- The settings after the environment. -/
def applyEnvironment (env : Environment) (c : Config) : Except ConfigError Config :=
  let c := c.withTarget env
  match env.dedupeModules.text? with
  | none => .ok c
  | some value =>
      match truth? value with
      | some b => .ok { c with dedupeModules := b }
      | none => .error (.invalidTruth value)

/-- The settings after an optional source. -/
def after (source : Option String) (step : String → Config → Except ConfigError Config)
    (c : Config) : Except ConfigError Config :=
  match source with
  | some path => step path c
  | none => .ok c

/-- The settings from all sources. -/
def load (files : Files) (env : Environment) (explicit : Option String) :
    Except ConfigError Config := do
  let c ← after env.userConfig? (mergeFileIfExists files) {}
  let c ← mergeFileIfExists files configFileName c
  let c ← after explicit (mergeFile files) c
  c.applyEnvironment env

end Config

end ModuleBundler
