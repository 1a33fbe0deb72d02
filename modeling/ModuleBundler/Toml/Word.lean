/-
ModuleBundler/Toml/Word.lean

Values without quotes: truth values, numbers and dates.  The first character of a word
tells what it is meant to be, and the faults of a word are told accordingly.  A word
that begins like none of these is a text without its quotes.

A reader of a word knows the characters that are left and how many stand before them;
a fault is a stretch of the word with a cause.
-/
import ModuleBundler.Toml.Datetime
import ModuleBundler.Toml.Quoted
import ModuleBundler.Toml.Value

namespace ModuleBundler.Toml

namespace Word

/-- A fault in a word: where it begins and ends, counted from the head of the word. -/
structure Fault where
  start : Nat
  stop : Nat
  cause : Cause
deriving DecidableEq, Inhabited, Repr

abbrev Read (α : Type) := Except Fault α

def fault {α : Type} (start stop : Nat) (c : Cause) : Read α := .error ⟨start, stop, c⟩

/-! ### Digits -/

def isDecimal (c : Char) : Bool := c.isDigit

def isHexadecimal (c : Char) : Bool := (Decode.hexValue? c).isSome

/-- The parts of a text between underscores. -/
def parts : List Char → List (List Char)
  | [] => [[]]
  | '_' :: rest => [] :: parts rest
  | c :: rest =>
      match parts rest with
      | p :: ps => (c :: p) :: ps
      | [] => [[c]]

/-- An underscore beside a part, which begins at a place, that no digit stands beside. -/
def partFault? (isDigit : Char → Bool) (size place : Nat) (p : List Char) : Option Nat :=
  let stop := place + p.length
  if 0 < place && !p.head?.any isDigit then some (place - 1)
  else if 1 < p.length && stop < size && !p.getLast?.any isDigit then some stop
  else none

def partsFault? (isDigit : Char → Bool) (size : Nat) : Nat → List (List Char) → Option Nat
  | _, [] => none
  | place, p :: ps =>
      match partFault? isDigit size place p with
      | some n => some n
      | none => partsFault? isDigit size (place + p.length + 1) ps

/-- Refuses an underscore of a number of `size` characters, of which the last are given, that does
not stand between digits. -/
def checkUnderscores (isDigit : Char → Bool) (size : Nat) (cs : List Char) : Read Unit :=
  let place := size - cs.length
  let faulty : Option Nat :=
    if !cs.contains '_' then none
    else if cs.head? = some '_' then some place
    else if cs.getLast? = some '_' then some (size - 1)
    else partsFault? isDigit size place (parts cs)
  match faulty with
  | some n => fault n (n + 1) .underscore
  | none => .ok ()

/-- The value of digits in a base, if all of them are. -/
def digits? (base : Nat) (cs : List Char) : Option Nat :=
  if cs.isEmpty then none
  else cs.foldlM (fun n d => do
    let v ← Decode.hexValue? d
    if v < base then some (base * n + v) else none) 0

/-- An integer with a sign or without. -/
def integer? (base : Nat) : List Char → Option Int
  | '-' :: ds => (digits? base ds).map fun n => -(n : Int)
  | '+' :: ds | ds => (digits? base ds).map Int.ofNat

/-! ### Integers -/

/-- An integer, of which the last characters are those that count. -/
def integer (r : Radix) (size : Nat) (cs : List Char) : Read Value := do
  checkUnderscores isHexadecimal size cs
  return .integer (integer? r.base (cs.filter (· != '_')))

def checkLeadingZero (size : Nat) (cs : List Char) : Read Unit :=
  let place := size - cs.length
  if cs.head? = some '0' then fault place (place + 1) .leadingZero else .ok ()

/-- Refuses what is no digit of the base, underscores aside. -/
def checkRadix (r : Radix) (size : Nat) (cs : List Char) : Read Unit :=
  let place := size - cs.length
  match cs with
  | '+' :: _ | '-' :: _ => fault place (place + 1) .unexpectedSign
  | _ =>
      let good := (cs.takeWhile fun c => c == '_' || (digits? r.base [c]).isSome).length
      if good < cs.length then fault (place + good) (place + good) (.radixDigit r) else .ok ()

/-- An integer after a zero and the letter that tells the base. -/
def radixed (r : Radix) (isSigned : Bool) (letter : Char) (size : Nat) (cs : List Char) :
    Read Value := do
  let place := size - cs.length - 2
  if isSigned then fault 0 1 .signedRadix
  if letter.isUpper then
    fault place (place + 2) (.upperRadix (String.ofList ['0', letter.toLower]))
  checkRadix r size cs
  integer r size cs

/-! ### Numbers with a point or an exponent -/

/-- Takes the digits of a part; only where zeros may lead may there be one before other digits. -/
def takeDigits (size : Nat) (p : NumberPart) (cs : List Char) : Read (List Char) := do
  let place := size - cs.length
  let taken := cs.takeWhile fun c => c == '_' || c.isDigit
  let count := (taken.filter (· != '_')).length
  if count = 0 then fault place (place + taken.length) (.noDigits p)
  if p = .mantissa && 1 < count && cs.head? = some '0' then fault place (place + 1) .leadingZero
  return cs.drop taken.length

/-- Refuses what is no number with a point or an exponent. -/
def checkFloat (size : Nat) (cs : List Char) : Read Unit := do
  let cs ← takeDigits size .mantissa cs
  let cs ← match cs with
    | '.' :: rest => takeDigits size .fraction rest
    | cs => pure cs
  let cs ← match cs with
    | 'e' :: '+' :: rest | 'e' :: '-' :: rest | 'E' :: '+' :: rest | 'E' :: '-' :: rest
    | 'e' :: rest | 'E' :: rest => takeDigits size .exponent rest
    | cs => pure cs
  if cs.isEmpty then return else fault (size - cs.length) size .afterFloat

/-- A decimal with a point or an exponent, whose form has been seen to. -/
def decimal (isNegative : Bool) (cs : List Char) : Float :=
  let mantissa := cs.takeWhile fun c => c != 'e' && c != 'E'
  let whole := mantissa.takeWhile (· != '.')
  let fraction := mantissa.drop (whole.length + 1)
  let exponent := (integer? 10 (cs.drop (mantissa.length + 1))).getD 0
  .finite isNegative ((digits? 10 (whole ++ fraction)).getD 0) (exponent - fraction.length)

/-- A number with a point or an exponent.  The whole word and its part after the signs are given. -/
def float (raw cs : List Char) : Read Value := do
  checkFloat raw.length cs
  checkUnderscores isDecimal raw.length raw
  return .float (decimal (raw.head? = some '-') (cs.filter (· != '_')))

/-! ### Words -/

def bare {α : Type} (raw : List Char) : Read α := fault 0 raw.length .bareText

/-- A word that begins with a digit or an underscore, its signs aside. -/
def plainNumber (raw cs : List Char) : Read Value := do
  let rest := cs.dropWhile Char.isDigit
  let decimalInteger : Read Value := do
    checkLeadingZero raw.length cs
    integer .decimal raw.length raw
  match rest with
  | [] => decimalInteger
  | '-' :: _ | ':' :: _ =>
      match Datetime.fault? raw with
      | some c => fault 0 raw.length c
      | none => return .datetime
  | c :: _ =>
      if rest.contains ' ' then bare raw
      else if rest.any fun d => d == '.' || d == 'e' || d == 'E' then float raw cs
      else if c == '_' then decimalInteger
      else bare raw

/-- A word that begins with a zero, its signs aside. -/
def zeroNumber (isSigned : Bool) (raw cs : List Char) : Read Value :=
  match cs with
  | [_] => integer .decimal raw.length raw
  | _ :: letter :: rest =>
      let size := raw.length
      match letter.toLower with
      | 'x' => radixed .hexadecimal isSigned letter size rest
      | 'o' => radixed .octal isSigned letter size rest
      | 'b' => radixed .binary isSigned letter size rest
      | 'd' =>
          if isSigned then fault 0 1 .signedRadix
          else fault (size - cs.length) (size - rest.length) .redundantRadix
      | _ => plainNumber raw cs
  | [] => bare raw

/-- A word that must be a given one, its signs aside. -/
def number? (wanted : String) (raw cs : List Char) (x : Float) : Read Value :=
  if cs = wanted.toList then .ok (.float x)
  else fault (raw.length - cs.length) raw.length (.invalidFloat wanted)

/-- A word after its sign. -/
def signed (isNegative : Bool) (raw cs : List Char) : Read Value :=
  match cs with
  | '+' :: _ | '-' :: _ =>
      let place := raw.length - cs.length
      fault place (place + 1) .redundantSign
  | '0' :: _ => zeroNumber true raw cs
  | '.' :: _ => float raw cs
  | 'i' :: _ | 'I' :: _ => number? "inf" raw cs (.infinite isNegative)
  | 'n' :: _ | 'N' :: _ => number? "nan" raw cs .notANumber
  | c :: _ => if c.isDigit || c == '_' then plainNumber raw cs else bare raw
  | [] => bare raw

/-- A word of letters, which must be a given one. -/
def symbol (raw : List Char) (wanted : String) (v : Value) : Read Value :=
  if raw = wanted.toList then .ok v
  else if raw.contains ' ' then bare raw
  else fault 0 raw.length (match v with
    | .boolean _ => .invalidBoolean wanted
    | _ => .invalidFloat wanted)

/-- The meaning of a word. -/
def value (raw : List Char) : Read Value :=
  match raw with
  | '+' :: rest => signed false raw rest
  | '-' :: rest => signed true raw rest
  | '0' :: _ => zeroNumber false raw raw
  | '.' :: _ => float raw raw
  | 't' :: _ | 'T' :: _ => symbol raw "true" (.boolean true)
  | 'f' :: _ | 'F' :: _ => symbol raw "false" (.boolean false)
  | 'i' :: _ | 'I' :: _ => symbol raw "inf" (.float (.infinite false))
  | 'n' :: _ | 'N' :: _ => symbol raw "nan" (.float .notANumber)
  | c :: _ => if c.isDigit || c == '_' then plainNumber raw raw else bare raw
  | [] => bare raw

end Word

namespace Decode

/-- The meaning of a single value. -/
def single (w : Written) : Except Error Value :=
  match w.quote with
  | some q => do return .string (← quoted w q)
  | none =>
      (Word.value w.text).mapError fun f =>
        ⟨⟨w.place.start + f.start, w.place.start + f.stop⟩, f.cause⟩

/-! ### Keys -/

def isKeyChar (c : Char) : Bool := c.isAlphanum || c == '-' || c == '_'

/-- The meaning of a part of a key, which must stand on one line. -/
def key (w : Written) : Except Error String :=
  match w.quote with
  | some q =>
      if q = .basicBlock || q = .literalBlock then .error ⟨w.place, .blockKey q⟩ else quoted w q
  | none =>
      if w.text.isEmpty then .error ⟨w.place, .emptyKey⟩
      else
        let good := (w.text.takeWhile isKeyChar).length
        if good = w.text.length then .ok (String.ofList w.text)
        else .error ⟨⟨w.place.start + good, w.place.start + good + 1⟩, .invalidKey⟩

end Decode

end ModuleBundler.Toml
