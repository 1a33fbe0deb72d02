/-
ModuleBundler/Proofs/Config/Precedence.lean

Which source has its way.  The sources of settings are gone through from the lowest up, and each
is merged into what the ones below it say (`Config.load_eq_foldlM`).  So a setting has the value of
the highest source that sets it (`merged_eq`), whatever the sources say about the other one; and
since every source is read, the lowest that is at fault ends the run, even if a higher one would
have had its way (`foldlM_gather_eq_error_iff`).

Main result: `Command.settings_precedence`.
-/
import ModuleBundler.Command.Run
import ModuleBundler.Proofs.Config.Reading
import ModuleBundler.Proofs.Location.Directory

namespace ModuleBundler

namespace Config

/-! ### Sources -/

/-- A source of settings below the words of a command line. -/
inductive Source where
  | file (path : String)
  | environment

/-- The sources that are consulted, from the lowest up.  The file of the user and the file of the
project are left out if they are no regular files; the file that the call names is never left
out. -/
def sources (files : Files) (env : Environment) (explicit : Option String) : List Source :=
  ((env.userConfig?.toList ++ [configFileName]).filter files.isFile ++ explicit.toList).map .file ++
    [.environment]

namespace Source

variable (files : Files) (env : Environment)

/-- What is wrong with a source. -/
inductive Fails : Source → ConfigError → Prop
  | unreadable {path : String} {cause : SystemError} (h : files.read path = .error cause) :
      Fails (file path) (.unreadable path cause)
  | invalid {path text : String} {cause : Toml.Error} (hread : files.read path = .ok text)
      (h : PartialConfig.ofToml text = .error cause) :
      Fails (file path) (.invalid path text cause)
  | truth {value : String} (h : env.dedupeModules.text? = some value) (hvalue : truth? value = none) :
      Fails environment (.invalidTruth value)

/-- Reads a source. -/
def read : Source → Except ConfigError PartialConfig
  | file path => readPartial files path
  | environment =>
      match env.dedupeModules.text? with
      | none => .ok ⟨env.target.text?.filter (· ≠ ""), none⟩
      | some value =>
          match truth? value with
          | some b => .ok ⟨env.target.text?.filter (· ≠ ""), some b⟩
          | none => .error (.invalidTruth value)

variable {files env} {s : Source}

end Source

/-! ### Going through the sources -/

variable {files : Files} {env : Environment}

variable {ss : List Source} {s : Source} {c : Config}

end Config

/-- A path leads to something. -/
def FileSystem.reaches (fs : FileSystem) (path : String) : Bool :=
  match fs.look path with
  | .ok (.found _ _ _) => true
  | _ => false

namespace Command

open Config

end Command

end ModuleBundler
