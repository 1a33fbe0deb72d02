/-
ModuleBundler/Main.lean

The program.  It asks the machine about the files that a run can ask for, lets `Command.plan`
say what is to be done, and does that.
-/
import ModuleBundler.Command.Run

namespace ModuleBundler.Command

/-! ### Files of the machine -/

/-- What an operation on files failed with. -/
def systemError : IO.Error → SystemError
  | .noFileOrDirectory .. => .notFound
  | .alreadyExists .. => .fileExists
  | .inappropriateType _ 20 _ => .notDirectory
  | .inappropriateType _ 21 _ => .isDirectory
  | .invalidArgument _ 36 _ => .nameTooLong
  | .invalidArgument _ 40 _ => .tooManyLinks
  | .permissionDenied _ 13 _ => .denied
  | e => .other (toString e)

/-- What the machine answers about a path. -/
structure Report where
  isFile : Bool
  text : Except SystemError String

/-- What is known of files, by their paths. -/
abbrev Known := Table String Report

/-- What kind of thing a path leads to, which need not be one that may be read. -/
def kind? (path : String) : IO (Option IO.FS.FileType) := do
  try return some (← (System.mkFilePath [path]).metadata).type
  catch _ => return none

/-- Reads a file as text. -/
def readText (path : String) : IO (Except SystemError String) := do
  try
    match String.fromUTF8? (← IO.FS.readBinFile path) with
    | some text => return .ok text
    | none => return .error .notText
  catch e => return .error (systemError e)

def report (path : String) : IO Report :=
  return ⟨(← kind? path) matches some .file, ← readText path⟩

def Known.files (known : Known) : Files where
  isFile path := (known.get? path).any (·.isFile)
  read path := (known.get? path).elim (.error .notFound) (·.text)

/-- The paths of the modules that a module loads. -/
def loaded (path text : String) : List String :=
  match SourceModule.ofText path text with
  | .ok m => m.dependencies.map fun s => normalize (resolve path s)
  | .error _ => []

/-- Reads files, and the modules that they load. -/
partial def explore (known : Known) : List String → IO Known
  | [] => return known
  | path :: rest => do
      if (known.get? path).isSome then explore known rest
      else
        let found ← report path
        let more := match found.text with
          | .ok text => loaded path text
          | .error _ => []
        explore (known.put path found) (rest ++ more)

/-- Reads the configuration files that a run can ask for. -/
def consult (env : Environment) (a : Arguments) : IO Known := do
  let paths := env.userConfig?.toList ++ configFileName :: a.config.toList
  paths.foldlM (fun known path => return known.put path (← report path)) Table.empty

/-- Reads all files that a run can ask for. -/
def survey (env : Environment) (words : List String) : IO Known := do
  match Arguments.ofWords words with
  | .error _ => return Table.empty
  | .ok a => explore (← consult env a) [normalize a.entry]

/-- The directory for the configuration of the user. -/
def configHome : IO (Option String) := do
  match ← IO.getEnv "XDG_CONFIG_HOME" with
  | some dir => if dir.startsWith "/" then return some dir else belowHome
  | none => belowHome
where
  belowHome : IO (Option String) := return (← IO.getEnv "HOME").map (pathIn · ".config")

def environment : IO Environment := do
  return ⟨← IO.getEnv "PARCELA_TARGET", ← IO.getEnv "PARCELA_DEDUPE_MODULES", ← configHome⟩

/-! ### Carrying out -/

/-- Makes a directory and those on the way to it. -/
partial def makeDirectories (path : List Char) : IO Unit := do
  if path.isEmpty then return
  let name := String.ofList path
  try IO.FS.createDir name
  catch e =>
    match systemError e, parent? path with
    | .notFound, some above =>
        makeDirectories above
        try IO.FS.createDir name catch e => unless ← isDirectory name do throw e
    | .notFound, none => throw e
    | _, _ => unless ← isDirectory name do throw e
where
  isDirectory (name : String) : IO Bool := return (← kind? name) matches some .dir

/-- Writes a bundle to a file. -/
def saveFile (path text : String) : IO Outcome := do
  let above := (parent? path.toList).getD []
  try makeDirectories above
  catch e => return .failure (.create (String.ofList above) (systemError e))
  try IO.FS.writeBinFile path text.toUTF8
  catch e => return .failure (.write path (systemError e))
  return .success ""

/-- Carries out a plan on the machine. -/
def Plan.perform : Plan → IO Outcome
  | .print text => return .success text
  | .misused e => return .misuse e
  | .fail e => return .failure e
  | .write path text => saveFile path text

/-- Tells what a run leaves. -/
def Outcome.tell (o : Outcome) : IO UInt32 := do
  let out ← IO.getStdout
  out.putStr o.output
  out.flush
  if let some complaint := o.complaint then (← IO.getStderr).putStr complaint
  return UInt32.ofNat o.code

end ModuleBundler.Command

open ModuleBundler.Command in
/-- Runs the program on the words of its command line. -/
def main (words : List String) : IO UInt32 := do
  let env ← environment
  let known ← survey env words
  (← (plan known.files env words).perform).tell
