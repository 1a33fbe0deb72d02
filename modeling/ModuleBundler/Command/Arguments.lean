/-
ModuleBundler/Command/Arguments.lean

The words of a command line.

An option has a long name, and some have a letter.  A value stands in the word of its
option, after `=` or directly after the letter, or it is the next word, which must not
begin with `-` then.  Letters can share a word.  Everything but `--verbose` may be given
once.  The first fault ends the reading, and so does a request for help or for the
version.

A value that is a word of its own is looked at when the next option comes, or at the
end.
-/

namespace ModuleBundler.Command

/-! ### Options -/

/-- Options with a value. -/
inductive Setting where
  | entry | output | config | target
deriving DecidableEq, Inhabited, Repr

/-- Options without a value. -/
inductive Flag where
  | dedupeModules | verbose | help | version
deriving DecidableEq, Inhabited, Repr

inductive Switch where
  | setting (s : Setting)
  | flag (f : Flag)
deriving DecidableEq, Inhabited, Repr

namespace Switch

def ofName? : String → Option Switch
  | "entry" => some (setting .entry)
  | "output" => some (setting .output)
  | "config" => some (setting .config)
  | "target" => some (setting .target)
  | "dedupe-modules" => some (flag .dedupeModules)
  | "verbose" => some (flag .verbose)
  | "help" => some (flag .help)
  | "version" => some (flag .version)
  | _ => none

def ofLetter? : Char → Option Switch
  | 'e' => some (setting .entry)
  | 'o' => some (setting .output)
  | 'c' => some (setting .config)
  | 'v' => some (flag .verbose)
  | 'h' => some (flag .help)
  | 'V' => some (flag .version)
  | _ => none

/-- An option as messages show it. -/
def shown : Switch → String
  | setting .entry => "--entry <ENTRY>"
  | setting .output => "--output <OUTPUT>"
  | setting .config => "--config <CONFIG>"
  | setting .target => "--target <TARGET>"
  | flag .dedupeModules => "--dedupe-modules"
  | flag .verbose => "--verbose..."
  | flag .help => "--help"
  | flag .version => "--version"

end Switch

/-- The value is a path, which cannot be empty. -/
def Setting.isPath : Setting → Bool
  | target => false
  | _ => true

/-! ### What a command line says -/

structure Arguments where
  entry : String := "example/entry.js"
  output : Option String := none
  config : Option String := none
  target : Option String := none
  dedupeModules : Bool := false
  verbosity : Nat := 0
deriving DecidableEq, Inhabited, Repr

/-- Why a command line cannot be understood. -/
inductive UsageError where
  | unexpected (word : String)
  | missingValue (s : Setting)
  | repeated (s : Switch)
  | unneededValue (f : Flag) (value : String)
deriving DecidableEq, Inhabited, Repr

def UsageError.message : UsageError → String
  | unexpected word => "unexpected argument '" ++ word ++ "' found"
  | missingValue s =>
      "a value is required for '" ++ (Switch.setting s).shown ++ "' but none was supplied"
  | repeated s => "the argument '" ++ s.shown ++ "' cannot be used multiple times"
  | unneededValue f value =>
      "unexpected value '" ++ value ++ "' for '" ++ (Switch.flag f).shown ++
        "' found; no more were expected"

/-- What ends the reading of a command line before its end. -/
inductive Stop where
  | help
  | version
  | wrong (e : UsageError)
deriving DecidableEq, Inhabited, Repr

/-! ### Reading -/

/-- A command line as far as it was read. -/
structure Reading where
  arguments : Arguments := {}
  seen : List Switch := []
  /-- An option that waits for its value, or whose value was not looked at. -/
  pending : Option (Setting × Option String) := none
deriving Inhabited

namespace Reading

def store (a : Arguments) (value : String) : Setting → Arguments
  | .entry => { a with entry := value }
  | .output => { a with output := some value }
  | .config => { a with config := some value }
  | .target => { a with target := some value }

/-- Notes that an option is there, once. -/
def once (r : Reading) (s : Switch) : Except Stop Reading :=
  if r.seen.contains s then .error (.wrong (.repeated s)) else .ok { r with seen := s :: r.seen }

/-- Sets an option. -/
def set (r : Reading) (s : Setting) (value : String) : Except Stop Reading := do
  let r ← r.once (.setting s)
  if s.isPath && value.isEmpty then throw (.wrong (.missingValue s))
  return { r with arguments := store r.arguments value s }

/-- Looks at the option that waits. -/
def settle (r : Reading) : Except Stop Reading :=
  match r.pending with
  | none => .ok r
  | some (s, none) => .error (.wrong (.missingValue s))
  | some (s, some value) => { r with pending := none }.set s value

/-- An option with its value in the same word. -/
def attached (r : Reading) (s : Setting) (value : String) : Except Stop Reading := do
  (← r.settle).set s value

/-- An option whose value is to come. -/
def await (r : Reading) (s : Setting) : Except Stop Reading := do
  return { ← r.settle with pending := some (s, none) }

def flag (r : Reading) (f : Flag) : Except Stop Reading := do
  let r ← r.settle
  match f with
  | .help => throw .help
  | .version => throw .version
  | .verbose => return { r with arguments.verbosity := r.arguments.verbosity + 1 }
  | .dedupeModules => return { ← r.once (.flag f) with arguments.dedupeModules := true }

/-- A word that begins with `--`, without these. -/
def long (r : Reading) (text : List Char) : Except Stop Reading :=
  let name := text.takeWhile (· != '=')
  let value := (text.drop name.length).head?.map fun _ => String.ofList (text.drop (name.length + 1))
  match Switch.ofName? (String.ofList name), value with
  | some (.setting s), some v => r.attached s v
  | some (.setting s), none => r.await s
  | some (.flag f), some v => .error (.wrong (.unneededValue f v))
  | some (.flag f), none => r.flag f
  | none, _ => .error (.wrong (.unexpected (String.ofList ('-' :: '-' :: name))))

/-- A word of letters, without the `-` before them. -/
def letters (r : Reading) : List Char → Except Stop Reading
  | [] => .ok r
  | c :: rest =>
      match Switch.ofLetter? c with
      | some (.setting s) =>
          match rest with
          | [] => r.await s
          | '=' :: value => r.attached s (String.ofList value)
          | value => r.attached s (String.ofList value)
      | some (.flag f) => do (← r.flag f).letters rest
      | none => .error (.wrong (.unexpected (String.ofList ['-', c])))

/-- A word that is no option. -/
def plain (r : Reading) (word : String) : Except Stop Reading :=
  match r.pending with
  | some (s, none) => .ok { r with pending := some (s, some word) }
  | _ => .error (.wrong (.unexpected word))

/-- Reads words to the end. -/
def words (r : Reading) : List String → Except Stop Reading
  | [] => r.settle
  | word :: rest =>
      match word.toList with
      | ['-', '-'] =>
          match rest with
          | [] => r.settle
          | next :: _ => .error (.wrong (.unexpected next))
      | '-' :: '-' :: text => do (← r.long text).words rest
      | '-' :: c :: text => do (← r.letters (c :: text)).words rest
      | _ => do (← r.plain word).words rest

end Reading

/-- What a command line says. -/
def Arguments.ofWords (ws : List String) : Except Stop Arguments := do
  return (← ({} : Reading).words ws).arguments

end ModuleBundler.Command
