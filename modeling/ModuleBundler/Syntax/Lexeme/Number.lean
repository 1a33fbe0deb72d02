/-
ModuleBundler/Syntax/Lexeme/Number.lean

Numbers.  A scanner of a part of a number is a function from the characters
left to a `Part`: those taken, those left, and the diagnostics.  Parts follow one
another (`Part.andThen`), so the characters of a number are the characters of its
parts in order (`Part.whole_andThen`).
-/
import ModuleBundler.Syntax.Lexeme.Basic
import ModuleBundler.Syntax.Tree

namespace ModuleBundler.Lexeme

/-- A part of a number. -/
structure Part where
  raw : List Char
  rest : List Char
  errors : List Diagnostic

namespace Part

def nothing (cs : List Char) : Part := ⟨[], cs, []⟩

/-- The part, and after it what `next` reads from the characters left. -/
def andThen (p : Part) (next : List Char → Part) : Part :=
  let q := next p.rest
  ⟨p.raw ++ q.raw, q.rest, p.errors ++ q.errors⟩

/-- The characters taken and those left. -/
def whole (p : Part) : List Char := p.raw ++ p.rest

theorem whole_andThen {p : Part} {next : List Char → Part}
    (h : (next p.rest).whole = p.rest) : (p.andThen next).whole = p.whole := by
  simp only [whole, andThen] at *
  rw [List.append_assoc, h]

/-- Takes one character. -/
def char : List Char → Part
  | [] => ⟨[], [], []⟩
  | c :: rest => ⟨[c], rest, []⟩

/-- The diagnostic for the character that comes next, which does not fit. -/
def misfit : List Char → Diagnostic
  | [] => .unexpectedEnd
  | c :: _ => .invalidCharacter c

end Part

/-- Digits of a base, with single `_` between them.  Stops with a diagnostic after a `_` that no
digit follows. -/
def digitsOf (base : Nat) : List Char → Part
  | '_' :: d :: rest =>
      if isDigitOf base d then
        let p := digitsOf base rest
        ⟨'_' :: d :: p.raw, p.rest, p.errors⟩
      else ⟨['_'], d :: rest, [.invalidCharacter d]⟩
  | ['_'] => ⟨['_'], [], [.unexpectedEnd]⟩
  | d :: rest =>
      if isDigitOf base d then
        let p := digitsOf base rest
        ⟨d :: p.raw, p.rest, p.errors⟩
      else ⟨[], d :: rest, []⟩
  | [] => ⟨[], [], []⟩

/-- At least one digit. -/
def someDigits (cs : List Char) : Part :=
  match cs with
  | d :: _ => if d.isDigit then digitsOf 10 cs else ⟨[], cs, [Part.misfit cs]⟩
  | [] => ⟨[], [], [.unexpectedEnd]⟩

/-- Digits, or nothing. -/
def optionalDigits (cs : List Char) : Part :=
  match cs with
  | d :: _ => if d.isDigit then digitsOf 10 cs else Part.nothing cs
  | [] => Part.nothing []

/-- A sign and digits. -/
def exponentDigits : List Char → Part
  | '-' :: rest => (Part.mk ['-'] rest []).andThen someDigits
  | '+' :: rest => (Part.mk ['+'] rest []).andThen someDigits
  | cs => someDigits cs

/-- The letter `e`, a sign and digits, or nothing. -/
def optionalExponent : List Char → Part
  | 'e' :: rest => (Part.mk ['e'] rest []).andThen exponentDigits
  | 'E' :: rest => (Part.mk ['E'] rest []).andThen exponentDigits
  | cs => Part.nothing cs

/-- The name characters that follow a number without a break. -/
def trailing : List Char → List Char × List Char
  | [] => ([], [])
  | c :: rest =>
      if c.isDigit || Identifier.isStart c then
        let more := rest.takeWhile Identifier.isStart
        (c :: more, rest.drop more.length)
      else ([], c :: rest)

/-- Closes a number: nothing that continues a name may follow it. -/
def closeNumber (form : NumberForm) (p : Part) : Scan :=
  let (extra, rest) := trailing p.rest
  let clean := String.ofList (p.raw.filter (· != '_'))
  if extra.isEmpty then
    { kind := .number form, text := clean, raw := p.raw, rest := p.rest, errors := p.errors }
  else
    { kind := .unknown, text := clean, raw := p.raw ++ extra, rest
      errors := p.errors ++ [.charactersAfterNumber] }

/-- The number after its decimal point. -/
def afterPoint (p : Part) : Scan :=
  closeNumber .float ((p.andThen optionalDigits).andThen optionalExponent)

/-- A number with a base prefix, whose two characters have been taken. -/
def prefixed (form : NumberForm) (base : Nat) (mark : List Char) (cs : List Char) : Scan :=
  match cs with
  | d :: _ =>
      if isDigitOf base d then
        let p := (Part.mk mark cs []).andThen (digitsOf base)
        if p.errors.isEmpty then
          match p.rest with
          | 'n' :: rest => closeNumber form ⟨p.raw ++ ['n'], rest, p.errors⟩
          | _ => closeNumber form p
        else { kind := .unknown, text := "", raw := p.raw, rest := p.rest, errors := p.errors }
      else { kind := .unknown, text := "", raw := mark, rest := cs, errors := [Part.misfit cs] }
  | [] => { kind := .unknown, text := "", raw := mark, rest := [], errors := [.unexpectedEnd] }

/-- A number that begins with a superfluous zero: octal, unless one of its digits is 8 or 9. -/
def leadingZero (cs : List Char) : Scan :=
  let ds := cs.takeWhile Char.isDigit
  let p := Part.mk ds (cs.drop ds.length) []
  if ds.all (isDigitOf 8) then closeNumber .octal p
  else match p.rest with
    | '.' :: rest => afterPoint ⟨ds ++ ['.'], rest, []⟩
    | 'e' :: _ => closeNumber .decimal (p.andThen optionalExponent)
    | _ => closeNumber .decimal p

/-- Scans a number; `cs` begins with a digit, or with a point that a digit follows. -/
def number (cs : List Char) : Scan :=
  match cs with
  | '.' :: rest => closeNumber .float (((Part.mk ['.'] rest []).andThen someDigits).andThen optionalExponent)
  | '0' :: 'b' :: rest => prefixed .binary 2 ['0', 'b'] rest
  | '0' :: 'B' :: rest => prefixed .binary 2 ['0', 'B'] rest
  | '0' :: 'o' :: rest => prefixed .octal 8 ['0', 'o'] rest
  | '0' :: 'O' :: rest => prefixed .octal 8 ['0', 'O'] rest
  | '0' :: 'x' :: rest => prefixed .hexadecimal 16 ['0', 'x'] rest
  | '0' :: 'X' :: rest => prefixed .hexadecimal 16 ['0', 'X'] rest
  | '0' :: 'n' :: rest => closeNumber .decimal ⟨['0', 'n'], rest, []⟩
  | '0' :: '.' :: rest => afterPoint ⟨['0', '.'], rest, []⟩
  | '0' :: d :: rest =>
      if d.isDigit then leadingZero cs
      else closeNumber .decimal ((Part.mk ['0'] (d :: rest) []).andThen optionalExponent)
  | _ =>
      let p := digitsOf 10 cs
      match p.rest with
      | '.' :: rest => afterPoint ⟨p.raw ++ ['.'], rest, p.errors⟩
      | 'n' :: rest => closeNumber .decimal ⟨p.raw ++ ['n'], rest, p.errors⟩
      | _ => closeNumber .decimal (p.andThen optionalExponent)

/-! ### The value of a number -/

/-- The value of decimal digits with a point and an exponent. -/
def decimalValue (cs : List Char) : Numeral :=
  let mantissa := cs.takeWhile fun c => c != 'e' && c != 'E'
  let exponent := (cs.drop mantissa.length).drop 1
  let whole := mantissa.takeWhile (· != '.')
  let fraction := (mantissa.drop whole.length).drop 1
  let power : Int :=
    match exponent with
    | '-' :: ds => -(digitsValue 10 ds : Int)
    | '+' :: ds => digitsValue 10 ds
    | ds => digitsValue 10 ds
  ⟨digitsValue 10 (whole ++ fraction), power - fraction.length⟩

/-- The value of the text of a number, `_` left out. -/
def numberValue (cs : List Char) : Numeral :=
  match cs with
  | '0' :: 'b' :: ds | '0' :: 'B' :: ds => ⟨digitsValue 2 ds, 0⟩
  | '0' :: 'o' :: ds | '0' :: 'O' :: ds => ⟨digitsValue 8 ds, 0⟩
  | '0' :: 'x' :: ds | '0' :: 'X' :: ds => ⟨digitsValue 16 ds, 0⟩
  | '0' :: d :: ds =>
      if (d :: ds).all (isDigitOf 8) then ⟨digitsValue 8 (d :: ds), 0⟩ else decimalValue cs
  | _ => decimalValue cs

end ModuleBundler.Lexeme
