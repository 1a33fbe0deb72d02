/-
ModuleBundler/Lowering/Target.lean

Compilation targets.  A target names an edition of the language, engines with
their versions, or several of these separated by commas.  A feature is lowered for a
target if the edition, or one of the engines, is too old for it.
-/

namespace ModuleBundler

/-- An edition of the language; `next` is the newest of all. -/
inductive Edition where
  | es5 | es2015 | es2016 | es2017 | es2018 | es2019 | es2020 | es2021 | es2022 | es2023 | es2024
  | es2025 | next
deriving DecidableEq, Inhabited, Repr

namespace Edition

def name : Edition → String
  | es5 => "es5" | es2015 => "es2015" | es2016 => "es2016" | es2017 => "es2017"
  | es2018 => "es2018" | es2019 => "es2019" | es2020 => "es2020" | es2021 => "es2021"
  | es2022 => "es2022" | es2023 => "es2023" | es2024 => "es2024" | es2025 => "es2025"
  | next => "esnext"

/-- The place of an edition among the others. -/
def rank : Edition → Nat
  | es5 => 2009 | es2015 => 2015 | es2016 => 2016 | es2017 => 2017 | es2018 => 2018
  | es2019 => 2019 | es2020 => 2020 | es2021 => 2021 | es2022 => 2022 | es2023 => 2023
  | es2024 => 2024 | es2025 => 2025 | next => 9999

/-- Reads an edition in lower case. -/
def ofName? : String → Option Edition
  | "es5" => some es5 | "es6" | "es2015" => some es2015 | "es2016" => some es2016
  | "es2017" => some es2017 | "es2018" => some es2018 | "es2019" => some es2019
  | "es2020" => some es2020 | "es2021" => some es2021 | "es2022" => some es2022
  | "es2023" => some es2023 | "es2024" => some es2024 | "es2025" => some es2025
  | "esnext" => some next
  | _ => none

end Edition

inductive Engine where
  | chrome | deno | edge | firefox | hermes | ie | ios | node | opera | rhino | safari | samsung
  | electron | android
deriving DecidableEq, Inhabited, Repr

def Engine.all : List (String × Engine) :=
  [("chrome", .chrome), ("deno", .deno), ("edge", .edge), ("firefox", .firefox),
   ("hermes", .hermes), ("ie", .ie), ("ios", .ios), ("node", .node), ("opera", .opera),
   ("rhino", .rhino), ("safari", .safari), ("samsung", .samsung), ("electron", .electron),
   ("android", .android)]

structure Version where
  major : Nat
  minor : Nat
  patch : Nat
deriving DecidableEq, Inhabited, Repr

namespace Version

def before (a b : Version) : Bool :=
  a.major < b.major || (a.major == b.major &&
    (a.minor < b.minor || (a.minor == b.minor && a.patch < b.patch)))

/-- A segment of a version: digits, with a value of at most 32 bits. -/
def segment? (s : List Char) : Option Nat :=
  let digits := match s with
    | '+' :: rest => rest
    | s => s
  if digits.isEmpty || !digits.all Char.isDigit then none
  else
    let n := digits.foldl (fun n d => 10 * n + (d.toNat - 48)) 0
    if n < UInt32.size then some n else none

def splitAt (sep : Char) : List Char → List (List Char)
  | [] => [[]]
  | c :: rest =>
      if c = sep then [] :: splitAt sep rest
      else
        match splitAt sep rest with
        | part :: parts => (c :: part) :: parts
        | [] => [[c]]

/-- Reads up to three segments; of a range `a-b` the first version counts. -/
def ofText? (s : String) : Option Version := do
  let first := s.toList.takeWhile (· != '-')
  let segment (n : Nat) : Option Nat :=
    match (splitAt '.' first)[n]? with
    | some part => segment? part
    | none => some 0
  return ⟨← segment 0, ← segment 1, ← segment 2⟩

end Version

/-! ### Features -/

/-- What can be lowered. -/
inductive Feature where
  | arrow | stickyFlag | unicodeFlag
  | exponent
  | asyncFunction
  | asyncGenerator | objectRestSpread | dotAllFlag | lookbehind | namedGroup | unicodeProperty
  | optionalCatch
  | nullish | optionalChain | bigint
  | logicalAssignment
  | classField | privateMethod | staticBlock | matchIndices
  | unicodeSets
deriving DecidableEq, Inhabited, Repr

namespace Feature

/-- The first edition that has the feature. -/
def edition : Feature → Edition
  | arrow | stickyFlag | unicodeFlag => .es2015
  | exponent => .es2016
  | asyncFunction => .es2017
  | asyncGenerator | objectRestSpread | dotAllFlag | lookbehind | namedGroup | unicodeProperty =>
      .es2018
  | optionalCatch => .es2019
  | nullish | optionalChain | bigint => .es2020
  | logicalAssignment => .es2021
  | classField | privateMethod | staticBlock | matchIndices => .es2022
  | unicodeSets => .es2024

/-- The first versions of engines that have the feature.  Of an engine that is not listed nothing is
known: the feature is never lowered for it. -/
def versions : Feature → List (Engine × Version)
  | arrow => [(.chrome, ⟨47, 0, 0⟩), (.opera, ⟨34, 0, 0⟩), (.edge, ⟨13, 0, 0⟩),
      (.firefox, ⟨43, 0, 0⟩), (.safari, ⟨10, 0, 0⟩), (.node, ⟨6, 0, 0⟩), (.deno, ⟨1, 0, 0⟩),
      (.ios, ⟨10, 0, 0⟩), (.samsung, ⟨5, 0, 0⟩), (.rhino, ⟨1, 7, 13⟩), (.electron, ⟨0, 36, 0⟩)]
  | stickyFlag => [(.chrome, ⟨49, 0, 0⟩), (.opera, ⟨36, 0, 0⟩), (.edge, ⟨13, 0, 0⟩),
      (.firefox, ⟨3, 0, 0⟩), (.safari, ⟨10, 0, 0⟩), (.node, ⟨6, 0, 0⟩), (.deno, ⟨1, 0, 0⟩),
      (.ios, ⟨10, 0, 0⟩), (.samsung, ⟨5, 0, 0⟩), (.rhino, ⟨1, 7, 15⟩), (.electron, ⟨0, 37, 0⟩)]
  | unicodeFlag => [(.chrome, ⟨50, 0, 0⟩), (.opera, ⟨37, 0, 0⟩), (.edge, ⟨13, 0, 0⟩),
      (.firefox, ⟨46, 0, 0⟩), (.safari, ⟨12, 0, 0⟩), (.node, ⟨6, 0, 0⟩), (.deno, ⟨1, 0, 0⟩),
      (.ios, ⟨12, 0, 0⟩), (.samsung, ⟨5, 0, 0⟩), (.electron, ⟨1, 1, 0⟩)]
  | exponent => [(.chrome, ⟨52, 0, 0⟩), (.opera, ⟨39, 0, 0⟩), (.edge, ⟨14, 0, 0⟩),
      (.firefox, ⟨52, 0, 0⟩), (.safari, ⟨10, 1, 0⟩), (.node, ⟨7, 0, 0⟩), (.deno, ⟨1, 0, 0⟩),
      (.ios, ⟨10, 3, 0⟩), (.samsung, ⟨6, 0, 0⟩), (.rhino, ⟨1, 7, 14⟩), (.electron, ⟨1, 3, 0⟩)]
  | asyncFunction => [(.chrome, ⟨55, 0, 0⟩), (.opera, ⟨42, 0, 0⟩), (.edge, ⟨15, 0, 0⟩),
      (.firefox, ⟨52, 0, 0⟩), (.safari, ⟨11, 0, 0⟩), (.node, ⟨7, 6, 0⟩), (.deno, ⟨1, 0, 0⟩),
      (.ios, ⟨11, 0, 0⟩), (.samsung, ⟨6, 0, 0⟩), (.electron, ⟨1, 6, 0⟩)]
  | asyncGenerator => [(.chrome, ⟨63, 0, 0⟩), (.opera, ⟨50, 0, 0⟩), (.edge, ⟨79, 0, 0⟩),
      (.firefox, ⟨57, 0, 0⟩), (.safari, ⟨12, 0, 0⟩), (.node, ⟨10, 0, 0⟩), (.deno, ⟨1, 0, 0⟩),
      (.ios, ⟨12, 0, 0⟩), (.samsung, ⟨8, 0, 0⟩), (.electron, ⟨3, 0, 0⟩)]
  | objectRestSpread => [(.chrome, ⟨60, 0, 0⟩), (.opera, ⟨47, 0, 0⟩), (.edge, ⟨79, 0, 0⟩),
      (.firefox, ⟨55, 0, 0⟩), (.safari, ⟨11, 1, 0⟩), (.node, ⟨8, 3, 0⟩), (.deno, ⟨1, 0, 0⟩),
      (.ios, ⟨11, 3, 0⟩), (.samsung, ⟨8, 0, 0⟩), (.electron, ⟨2, 0, 0⟩)]
  | dotAllFlag => [(.chrome, ⟨62, 0, 0⟩), (.opera, ⟨49, 0, 0⟩), (.edge, ⟨79, 0, 0⟩),
      (.firefox, ⟨78, 0, 0⟩), (.safari, ⟨11, 1, 0⟩), (.node, ⟨8, 10, 0⟩), (.deno, ⟨1, 0, 0⟩),
      (.ios, ⟨11, 3, 0⟩), (.samsung, ⟨8, 0, 0⟩), (.rhino, ⟨1, 7, 15⟩), (.electron, ⟨3, 0, 0⟩)]
  | lookbehind => [(.chrome, ⟨62, 0, 0⟩), (.opera, ⟨49, 0, 0⟩), (.edge, ⟨79, 0, 0⟩),
      (.firefox, ⟨78, 0, 0⟩), (.safari, ⟨16, 4, 0⟩), (.node, ⟨8, 10, 0⟩), (.deno, ⟨1, 0, 0⟩),
      (.ios, ⟨16, 4, 0⟩), (.samsung, ⟨8, 0, 0⟩), (.electron, ⟨3, 0, 0⟩)]
  | namedGroup => [(.chrome, ⟨64, 0, 0⟩), (.opera, ⟨51, 0, 0⟩), (.edge, ⟨79, 0, 0⟩),
      (.firefox, ⟨78, 0, 0⟩), (.safari, ⟨11, 1, 0⟩), (.node, ⟨10, 0, 0⟩), (.deno, ⟨1, 0, 0⟩),
      (.ios, ⟨11, 3, 0⟩), (.samsung, ⟨9, 0, 0⟩), (.electron, ⟨3, 0, 0⟩)]
  | unicodeProperty => [(.chrome, ⟨64, 0, 0⟩), (.opera, ⟨51, 0, 0⟩), (.edge, ⟨79, 0, 0⟩),
      (.firefox, ⟨78, 0, 0⟩), (.safari, ⟨11, 1, 0⟩), (.node, ⟨10, 0, 0⟩), (.deno, ⟨1, 0, 0⟩),
      (.ios, ⟨11, 3, 0⟩), (.samsung, ⟨9, 0, 0⟩), (.electron, ⟨3, 0, 0⟩)]
  | optionalCatch => [(.chrome, ⟨66, 0, 0⟩), (.opera, ⟨53, 0, 0⟩), (.edge, ⟨79, 0, 0⟩),
      (.firefox, ⟨58, 0, 0⟩), (.safari, ⟨11, 1, 0⟩), (.node, ⟨10, 0, 0⟩), (.deno, ⟨1, 0, 0⟩),
      (.ios, ⟨11, 3, 0⟩), (.samsung, ⟨9, 0, 0⟩), (.electron, ⟨3, 0, 0⟩)]
  | nullish => [(.chrome, ⟨80, 0, 0⟩), (.opera, ⟨67, 0, 0⟩), (.edge, ⟨80, 0, 0⟩),
      (.firefox, ⟨72, 0, 0⟩), (.safari, ⟨13, 1, 0⟩), (.node, ⟨14, 0, 0⟩), (.deno, ⟨1, 0, 0⟩),
      (.ios, ⟨13, 4, 0⟩), (.samsung, ⟨13, 0, 0⟩), (.electron, ⟨8, 0, 0⟩)]
  | optionalChain => [(.chrome, ⟨91, 0, 0⟩), (.opera, ⟨77, 0, 0⟩), (.edge, ⟨91, 0, 0⟩),
      (.firefox, ⟨74, 0, 0⟩), (.safari, ⟨13, 1, 0⟩), (.node, ⟨16, 9, 0⟩), (.deno, ⟨1, 9, 0⟩),
      (.ios, ⟨13, 4, 0⟩), (.samsung, ⟨16, 0, 0⟩), (.electron, ⟨13, 0, 0⟩)]
  | bigint => [(.chrome, ⟨67, 0, 0⟩), (.opera, ⟨54, 0, 0⟩), (.edge, ⟨79, 0, 0⟩),
      (.firefox, ⟨68, 0, 0⟩), (.safari, ⟨14, 0, 0⟩), (.node, ⟨10, 4, 0⟩), (.deno, ⟨1, 0, 0⟩),
      (.ios, ⟨14, 0, 0⟩), (.samsung, ⟨9, 0, 0⟩), (.rhino, ⟨1, 7, 14⟩), (.electron, ⟨4, 0, 0⟩)]
  | logicalAssignment => [(.chrome, ⟨85, 0, 0⟩), (.opera, ⟨71, 0, 0⟩), (.edge, ⟨85, 0, 0⟩),
      (.firefox, ⟨79, 0, 0⟩), (.safari, ⟨14, 0, 0⟩), (.node, ⟨15, 0, 0⟩), (.deno, ⟨1, 2, 0⟩),
      (.ios, ⟨14, 0, 0⟩), (.samsung, ⟨14, 0, 0⟩), (.electron, ⟨10, 0, 0⟩)]
  | classField => [(.chrome, ⟨98, 0, 0⟩), (.opera, ⟨84, 0, 0⟩), (.edge, ⟨98, 0, 0⟩),
      (.firefox, ⟨90, 0, 0⟩), (.safari, ⟨16, 0, 0⟩), (.node, ⟨12, 0, 0⟩), (.deno, ⟨1, 18, 0⟩),
      (.ios, ⟨16, 0, 0⟩), (.samsung, ⟨11, 0, 0⟩), (.electron, ⟨17, 0, 0⟩)]
  | privateMethod => [(.chrome, ⟨84, 0, 0⟩), (.opera, ⟨70, 0, 0⟩), (.edge, ⟨84, 0, 0⟩),
      (.firefox, ⟨90, 0, 0⟩), (.safari, ⟨15, 0, 0⟩), (.node, ⟨14, 6, 0⟩), (.deno, ⟨1, 0, 0⟩),
      (.ios, ⟨15, 0, 0⟩), (.samsung, ⟨14, 0, 0⟩), (.electron, ⟨10, 0, 0⟩)]
  | staticBlock => [(.chrome, ⟨94, 0, 0⟩), (.opera, ⟨80, 0, 0⟩), (.edge, ⟨94, 0, 0⟩),
      (.firefox, ⟨93, 0, 0⟩), (.safari, ⟨16, 4, 0⟩), (.node, ⟨16, 11, 0⟩), (.deno, ⟨1, 14, 0⟩),
      (.ios, ⟨16, 4, 0⟩), (.samsung, ⟨17, 0, 0⟩), (.electron, ⟨15, 0, 0⟩)]
  | matchIndices => [(.chrome, ⟨90, 0, 0⟩), (.opera, ⟨76, 0, 0⟩), (.edge, ⟨90, 0, 0⟩),
      (.firefox, ⟨90, 0, 0⟩), (.safari, ⟨15, 0, 0⟩), (.node, ⟨16, 0, 0⟩), (.deno, ⟨1, 8, 0⟩),
      (.ios, ⟨15, 0, 0⟩), (.samsung, ⟨15, 0, 0⟩), (.electron, ⟨12, 0, 0⟩)]
  | unicodeSets => [(.chrome, ⟨112, 0, 0⟩), (.opera, ⟨98, 0, 0⟩), (.edge, ⟨112, 0, 0⟩),
      (.firefox, ⟨116, 0, 0⟩), (.safari, ⟨17, 0, 0⟩), (.node, ⟨20, 0, 0⟩), (.deno, ⟨1, 32, 0⟩),
      (.ios, ⟨17, 0, 0⟩), (.electron, ⟨24, 0, 0⟩)]

end Feature

/-! ### Targets -/

structure Target where
  edition : Edition
  engines : List (Engine × Version)
deriving Inhabited, Repr

/-- Why a text names no target. -/
inductive TargetError where
  | unknown (item : String)
  | badVersion
  | repeated (item : String)
deriving DecidableEq, Inhabited, Repr

def TargetError.message : TargetError → String
  | unknown item => s!"Invalid target '{item}'."
  | badVersion => "All version numbers must be in the format \"X\", \"X.Y\", or \"X.Y.Z\" where " ++
      "X, Y, and Z are non-negative integers."
  | repeated item => s!"'{item}' is already specified."

namespace Target

def lowerAscii (s : String) : String := s.map fun c => if c.isUpper then c.toLower else c

/-- The engine and the version that an item in lower case names. -/
def engineOf (item : String) : Except TargetError (Engine × Version) :=
  match Engine.all.find? fun e => e.1.isPrefixOf item with
  | none => .error (.unknown item)
  | some (name, engine) =>
      match Version.ofText? (String.ofList (item.toList.drop name.length)) with
      | some version => .ok (engine, version)
      | none => .error .badVersion

/-- Reads the items of a target one after the other. -/
def ofItems (edition : Option Edition) (engines : List (Engine × Version)) :
    List String → Except TargetError Target
  | [] => .ok ⟨edition.getD .next, engines⟩
  | item :: rest =>
      match Edition.ofName? (lowerAscii item) with
      | some e =>
          match edition with
          | some old => .error (.repeated old.name)
          | none => ofItems (some e) engines rest
      | none =>
          match engineOf (lowerAscii item) with
          | .error e => .error e
          | .ok (engine, version) =>
              if engines.any (·.1 == engine) then .error (.repeated item)
              else ofItems edition ((engine, version) :: engines) rest

def ofText (s : String) : Except TargetError Target :=
  ofItems none [] ((Version.splitAt ',' s.toList).map String.ofList)

/-- An engine is known to be too old for a feature. -/
def tooOld (f : Feature) (engine : Engine × Version) : Bool :=
  match f.versions.find? (·.1 == engine.1) with
  | some (_, first) => engine.2.before first
  | none => false

/-- A feature is not available on the target. -/
def lowers (t : Target) (f : Feature) : Bool :=
  t.edition.rank < f.edition.rank || t.engines.any (tooOld f)

end Target

end ModuleBundler
