/-
ModuleBundler/Syntax/Lexeme/Basic.lean

Lexemes: the smallest pieces of a source text.  A scanner takes the characters
that are left and gives a `Scan`: what it recognised, the characters it took,
the characters after them and what was wrong with them.  The division of a
grammar that cannot be decided without the parser (a `/` that begins a regular
expression, a `}` that continues a template) is left to the parser, which calls
the scanner for the piece it wants.
-/
import ModuleBundler.Text.Identifier
import ModuleBundler.Syntax.Diagnostic

namespace ModuleBundler

/-- The ways of writing a number. -/
inductive NumberForm where
  | decimal | float | binary | octal | hexadecimal | exponential
deriving DecidableEq, Inhabited, Repr

def NumberForm.text : NumberForm → String
  | decimal => "decimal" | float => "float" | binary => "binary" | octal => "octal"
  | hexadecimal => "hexadecimal" | exponential => "positive_exponential"

inductive LexemeKind where
  | eof
  /-- Characters that form no token. -/
  | unknown
  | name
  | privateName
  | punctuator
  | number (form : NumberForm)
  | string
  | regex
  /-- A piece of a template: whether it begins it, and whether it ends it. -/
  | template (first last : Bool)
deriving DecidableEq, Inhabited, Repr

/-- What a scanner found. -/
structure Scan where
  kind : LexemeKind
  /-- The value: a name or string without its escapes, a punctuator, a number without `_`. -/
  text : String
  /-- The characters taken. -/
  raw : List Char
  /-- The characters after them. -/
  rest : List Char
  escaped : Bool := false
  lone : Bool := false
  /-- A template piece that is no text, for an escape in it is malformed. -/
  malformed : Bool := false
  errors : List Diagnostic := []

/-! ### Character classes -/

def isLineEnd (c : Char) : Bool :=
  c == '\n' || c == '\r' || c == '\u2028' || c == '\u2029'

/-- The blanks that may stand between tokens, line ends aside. -/
def isBlank (c : Char) : Bool :=
  c == ' ' || c == '\t' || c == '\x0b' || c == '\x0c' || c == '\u00a0' || c == '\ufeff' ||
  c == '\u0085' || c == '\u1680' || c == '\u180e' || ('\u2000' ≤ c && c ≤ '\u200b') ||
  c == '\u202f' || c == '\u205f' || c == '\u3000'

/-- The value of a digit in a base up to sixteen. -/
def digitValue? (base : Nat) (c : Char) : Option Nat :=
  let v := if '0' ≤ c && c ≤ '9' then c.toNat - 48
    else if 'a' ≤ c && c ≤ 'f' then c.toNat - 87
    else if 'A' ≤ c && c ≤ 'F' then c.toNat - 55
    else base
  if v < base then some v else none

def isDigitOf (base : Nat) (c : Char) : Bool := (digitValue? base c).isSome

/-- The number that a list of digits spells. -/
def digitsValue (base : Nat) (ds : List Char) : Nat :=
  ds.foldl (fun n c => n * base + (digitValue? base c).getD 0) 0

/-! ### Escapes -/

/-- A character, or a surrogate that may have no partner. -/
inductive Unit16 where
  | char (c : Char)
  | surrogate (code : Nat)
deriving DecidableEq, Inhabited, Repr

namespace Unit16

/-- The character or surrogate of a number, if there is one. -/
def ofNat? (n : Nat) : Option Unit16 :=
  if 0xd800 ≤ n && n < 0xe000 then some (surrogate n)
  else if n < 0x110000 then some (char (Char.ofNat n))
  else none

/-- Joins each high surrogate with the low one that follows it. -/
def pair : List Unit16 → List Unit16
  | surrogate h :: surrogate l :: rest =>
      if h < 0xdc00 && 0xdc00 ≤ l then
        char (Char.ofNat (0x10000 + (h - 0xd800) * 0x400 + (l - 0xdc00))) :: pair rest
      else surrogate h :: pair (surrogate l :: rest)
  | u :: rest => u :: pair rest
  | [] => []

def isLone : Unit16 → Bool
  | surrogate _ => true
  | char _ => false

/-- Four hexadecimal digits, in lower case. -/
def code (n : Nat) : List Char :=
  let digit (d : Nat) := if d < 10 then Char.ofNat (48 + d) else Char.ofNat (87 + d)
  [digit (n / 4096 % 16), digit (n / 256 % 16), digit (n / 16 % 16), digit (n % 16)]

/-- The text of a list of units.  If one of them has no partner, it and U+FFFD are both written
as U+FFFD and four digits, so that they can be told apart. -/
def text (units : List Unit16) : List Char :=
  let marked := units.any isLone
  units.flatMap fun
    | surrogate n => '\ufffd' :: code n
    | char c => if marked && c == '\ufffd' then '\ufffd' :: code 0xfffd else [c]

end Unit16

/-- Reads exactly `count` hexadecimal digits. -/
def fixedHex? (count : Nat) (cs : List Char) : Option (Nat × List Char × List Char) :=
  let ds := cs.take count
  if ds.length = count ∧ ds.all (isDigitOf 16) then
    some (digitsValue 16 ds, ds, cs.drop count)
  else none

/-- Reads what follows `\u`: four digits, or digits in braces.  Gives the number, the characters
taken and those left. -/
def unicodeEscape? : List Char → Option (Nat × List Char × List Char)
  | '\x7b' :: rest =>
      let ds := rest.takeWhile (isDigitOf 16)
      match rest.drop ds.length with
      | '\x7d' :: rest' =>
          let n := digitsValue 16 ds
          if ds.isEmpty || n ≥ 0x110000 then none
          else some (n, '\x7b' :: ds ++ ['\x7d'], rest')
      | _ => none
  | cs => fixedHex? 4 cs

/-- What an escape in a string or template denotes: the characters it takes after the backslash,
the units it stands for (none when it is malformed), and the characters left. -/
structure Escape where
  raw : List Char
  units : Option (List Unit16)
  rest : List Char

namespace Escape

/-- An octal escape: up to three digits, the value below 256. -/
def octal (cs : List Char) : Escape :=
  let ds := (cs.take 3).takeWhile (isDigitOf 8)
  let ds := if digitsValue 8 ds < 256 then ds else ds.take 2
  ⟨ds, some [.char (Char.ofNat (digitsValue 8 ds))], cs.drop ds.length⟩

/-- Reads the escape whose backslash has just been taken.  Octal escapes are malformed in
templates. -/
def scan (inTemplate : Bool) : List Char → Escape
  | [] => ⟨[], some [], []⟩
  | '\r' :: '\n' :: rest => ⟨['\r', '\n'], some [], rest⟩
  | 'x' :: rest =>
      match fixedHex? 2 rest with
      | some (n, ds, rest') => ⟨'x' :: ds, some [.char (Char.ofNat n)], rest'⟩
      | none => ⟨['x'], none, rest⟩
  | 'u' :: rest =>
      match unicodeEscape? rest with
      | some (n, taken, rest') => ⟨'u' :: taken, (Unit16.ofNat? n).map ([·]), rest'⟩
      | none => ⟨['u'], none, rest⟩
  | c :: rest =>
      if isLineEnd c then ⟨[c], some [], rest⟩
      else match c with
      | 'n' => ⟨[c], some [.char '\n'], rest⟩
      | 'r' => ⟨[c], some [.char '\r'], rest⟩
      | 't' => ⟨[c], some [.char '\t'], rest⟩
      | 'b' => ⟨[c], some [.char '\x08'], rest⟩
      | 'v' => ⟨[c], some [.char '\x0b'], rest⟩
      | 'f' => ⟨[c], some [.char '\x0c'], rest⟩
      | '0' =>
          match rest with
          | d :: _ =>
              if d.isDigit then
                if inTemplate then ⟨[c], none, rest⟩
                else if isDigitOf 8 d then octal (c :: rest)
                else ⟨[c], some [.char '\x00'], rest⟩
              else ⟨[c], some [.char '\x00'], rest⟩
          | [] => ⟨[c], some [.char '\x00'], rest⟩
      | _ =>
          if isDigitOf 8 c then
            if inTemplate then ⟨[c], none, rest⟩ else octal (c :: rest)
          else if inTemplate && c.isDigit then ⟨[c], none, rest⟩
          else ⟨[c], some [.char c], rest⟩

end Escape

end ModuleBundler
