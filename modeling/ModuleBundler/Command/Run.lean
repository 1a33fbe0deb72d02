/-
ModuleBundler/Command/Run.lean

A run of the program.  From the files, the environment and the words of the command
line it follows what is to be done (`Plan`): tell something, or write the bundle to a
file.  Nothing is written before that is known, and carrying it out is all that
changes the files.  What is written to a device may be told after all.
-/
import ModuleBundler.Bundle.Make
import ModuleBundler.Command.Arguments
import ModuleBundler.Files.System

namespace ModuleBundler.Command

def programName : String := "parcela"

def versionText : String := programName ++ " 0.1.0\n"

def helpText : String := "\n".intercalate [
  "Bundle a module and everything that it loads into one script",
  "",
  "Usage: " ++ programName ++ " [OPTIONS]",
  "",
  "Options:",
  "  -e, --entry <ENTRY>    Entry module of the program [default: example/entry.js]",
  "  -o, --output <OUTPUT>  Write the bundle to this file instead of the standard output",
  "  -c, --config <CONFIG>  Configuration file",
  "      --target <TARGET>  Edition of the language to compile for",
  "      --dedupe-modules   Build every file once",
  "  -v, --verbose...       Tell more",
  "  -h, --help             Print help",
  "  -V, --version          Print version\n"]

/-- Why a run fails after its command line was understood. -/
inductive RunError where
  | config (cause : ConfigError)
  | bundle (cause : BundleError)
  | create (path : String) (cause : SystemError)
  | write (path : String) (cause : SystemError)
deriving DecidableEq, Inhabited, Repr

def RunError.message : RunError → String
  | config cause => cause.message
  | bundle cause => cause.message
  | create path cause => "failed to create " ++ path ++ ": " ++ cause.message
  | write path cause => "failed to write bundle to " ++ path ++ ": " ++ cause.message

/-- What is to be done. -/
inductive Plan where
  | print (text : String)
  | write (path text : String)
  | misused (e : UsageError)
  | fail (e : RunError)
deriving DecidableEq, Inhabited, Repr

/-- The settings of a run. -/
def Arguments.settings (a : Arguments) (files : Files) (env : Environment) :
    Except ConfigError Config := do
  let c ← Config.load files env a.config
  let c := match a.target with
    | some t => { c with target := t }
    | none => c
  return if a.dedupeModules then { c with dedupeModules := true } else c

/-- The bundle that a command line asks for. -/
def Arguments.bundle (a : Arguments) (files : Files) (env : Environment) :
    Except RunError String := do
  let c ← (a.settings files env).mapError .config
  (c.bundle files.reader a.entry).mapError .bundle

/-- What is to be done for a command line. -/
def plan (files : Files) (env : Environment) (words : List String) : Plan :=
  match Arguments.ofWords words with
  | .error .help => .print helpText
  | .error .version => .print versionText
  | .error (.wrong e) => .misused e
  | .ok a =>
      match a.bundle files env, a.output with
      | .error e, _ => .fail e
      | .ok text, some path => .write path text
      | .ok text, none => .print text

/-! ### Carrying out -/

/-- What a run leaves: its exit code and what it told. -/
structure Outcome where
  code : Nat
  output : String
  complaint : Option String
deriving DecidableEq, Inhabited, Repr

namespace Outcome

def success (text : String) : Outcome := ⟨0, text, none⟩

/-- A text was written, and went on from there. -/
def written (text : String) : Sink → Outcome
  | .nowhere => success ""
  | .output => success text
  | .complaint => ⟨0, "", some text⟩

def failure (e : RunError) : Outcome := ⟨1, "", some ("Error: " ++ e.message ++ "\n")⟩

def misuse (e : UsageError) : Outcome := ⟨2, "", some ("error: " ++ e.message ++ "\n")⟩

end Outcome

/-- Makes the directories on the way to a file. -/
def prepare (fs : FileSystem) (path : String) : FileSystem × Except RunError Unit :=
  let above := (parent? path.toList).getD []
  let (fs, made) := fs.makeDirectories above.length above
  (fs, made.mapError (.create (String.ofList above)))

/-- Writes a bundle where a path leads. -/
def save (fs : FileSystem) (path text : String) : Outcome × FileSystem :=
  match prepare fs path with
  | (fs, .error e) => (.failure e, fs)
  | (fs, .ok ()) =>
      match fs.write path text with
      | .error e => (.failure (.write path e), fs)
      | .ok (fs, sink) => (.written text sink, fs)

/-- Carries out a plan. -/
def Plan.carryOut (fs : FileSystem) : Plan → Outcome × FileSystem
  | print text => (.success text, fs)
  | misused e => (.misuse e, fs)
  | fail e => (.failure e, fs)
  | write path text => save fs path text

/-- A run on the files of a machine. -/
def run (fs : FileSystem) (env : Environment) (words : List String) : Outcome × FileSystem :=
  (plan fs.files env words).carryOut fs

end ModuleBundler.Command
