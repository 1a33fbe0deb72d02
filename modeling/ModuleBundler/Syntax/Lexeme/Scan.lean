/-
ModuleBundler/Syntax/Lexeme/Scan.lean

The scanners of names, strings, templates, regular expressions and punctuators,
and `Lexeme.scan`, which chooses among them by the first characters.
-/
import ModuleBundler.Syntax.Lexeme.Number

namespace ModuleBundler.Lexeme

/-! ### Names -/

/-- An escape in a name: the characters taken after the backslash, the character meant or what is
wrong, and the characters left. -/
structure NameEscape where
  raw : List Char
  meaning : Except Diagnostic Char
  rest : List Char

namespace NameEscape

/-- The digits of a code point up to its closing brace.  Reading stops behind the digit that makes
the number too large. -/
def digits (value : Nat) (taken : List Char) : List Char → List Char × Option Nat × List Char
  | [] => (taken.reverse, none, [])
  | d :: rest =>
      match digitValue? 16 d with
      | some v =>
          let n := value * 16 + v
          if n ≥ 0x110000 then ((d :: taken).reverse, none, rest) else digits n (d :: taken) rest
      | none =>
          if d = '\x7d' && !taken.isEmpty then ((d :: taken).reverse, some value, rest)
          else (taken.reverse, none, d :: rest)

/-- At most four digits; fewer give no number. -/
def fourDigits (cs : List Char) : List Char × Option Nat × List Char :=
  let ds := (cs.take 4).takeWhile (isDigitOf 16)
  (ds, if ds.length = 4 then some (digitsValue 16 ds) else none, cs.drop ds.length)

/-- A code unit.  One that needs a partner takes the escape that follows it, but both together
are no character of a name. -/
def codeUnit (cs : List Char) : List Char × Option Nat × List Char :=
  match fourDigits cs with
  | (ds, some n, '\\' :: 'u' :: rest) =>
      if 0xd800 ≤ n && n < 0xdc00 then
        let (low, _, left) := fourDigits rest
        (ds ++ '\\' :: 'u' :: low, none, left)
      else (ds, some n, '\\' :: 'u' :: rest)
  | other => other

/-- Reads what follows a backslash.  At the head of a name fewer characters are allowed. -/
def scan (atHead : Bool) (cs : List Char) : NameEscape :=
  match cs with
  | 'u' :: rest =>
      let (taken, n, left) := match rest with
        | '\x7b' :: inner =>
            let (ds, n, left) := digits 0 [] inner
            ('\x7b' :: ds, n, left)
        | rest => codeUnit rest
      let meaning := match n.bind Unit16.ofNat? with
        | some (.char c) =>
            if (if atHead then Identifier.isStart c else Identifier.isPart c) then .ok c
            else .error (.invalidCharacter c)
        | _ => .error .unicodeEscape
      ⟨'u' :: taken, meaning, left⟩
  | c :: rest => ⟨[c], .error .unicodeEscape, rest⟩
  | [] => ⟨[], .error .unicodeEscape, []⟩

end NameEscape

/-- The characters of a name. -/
structure NameScan where
  raw : List Char := []
  text : List Char := []
  rest : List Char
  escaped : Bool := false
  errors : List Diagnostic := []

/-- The rest of a name.  A malformed escape in it means nothing and is told of. -/
def nameTail : Nat → Bool → List Char → NameScan
  | n + 1, atHead, '\\' :: rest =>
      let e := NameEscape.scan atHead rest
      let more := nameTail n false e.rest
      let raw := '\\' :: e.raw ++ more.raw
      match e.meaning with
      | .ok c => { more with raw, text := c :: more.text, escaped := true }
      | .error d => { more with raw, escaped := true, errors := d :: more.errors }
  | n + 1, _, c :: rest =>
      if Identifier.isPart c then
        let more := nameTail n false rest
        { more with raw := c :: more.raw, text := c :: more.text }
      else { rest := c :: rest }
  | _, _, cs => { rest := cs }

/-- A name that the first character, or an escape, begins. -/
def name (kind : LexemeKind) (lead cs : List Char) : Scan :=
  let n := nameTail (cs.length + 1) true cs
  { kind, text := String.ofList n.text, raw := lead ++ n.raw, rest := n.rest
    escaped := n.escaped, errors := n.errors }

/-- A name after `#`. -/
def privateName (cs : List Char) : Scan :=
  match cs with
  | '\\' :: _ => name .privateName ['#'] cs
  | c :: _ =>
      if Identifier.isStart c then name .privateName ['#'] cs
      else { kind := .unknown, text := "", raw := ['#'], rest := cs, errors := [.invalidCharacter c] }
  | [] => { kind := .unknown, text := "", raw := ['#'], rest := [], errors := [.unexpectedEnd] }

/-! ### Strings -/

/-- The inside of a string up to its closing quote: the characters taken with the quote, the units
meant, the diagnostics, the characters left, and whether the quote was found. -/
def stringTail (quote : Char) :
    Nat → List Char → List Char × List Unit16 × List Diagnostic × List Char × Bool × Bool
  | 0, cs => ([], [], [], cs, false, false)
  | n + 1, '\\' :: rest =>
      let e := Escape.scan false rest
      let (raw, units, errors, left, _, closed) := stringTail quote n e.rest
      match e.units with
      | some us => ('\\' :: e.raw ++ raw, us ++ units, errors, left, true, closed)
      | none => ('\\' :: e.raw ++ raw, units, .stringEscape :: errors, left, true, closed)
  | n + 1, c :: rest =>
      if c = quote then ([c], [], [], rest, false, true)
      else if c = '\n' ∨ c = '\r' then ([], [], [], c :: rest, false, false)
      else
        let (raw, units, errors, left, escaped, closed) := stringTail quote n rest
        (c :: raw, .char c :: units, errors, left, escaped, closed)
  | _ + 1, [] => ([], [], [], [], false, false)

def string (quote : Char) (cs : List Char) : Scan :=
  let (raw, units, errors, rest, escaped, closed) := stringTail quote (cs.length + 1) cs
  if closed then
    let units := Unit16.pair units
    { kind := .string, text := String.ofList (Unit16.text units), raw := quote :: raw, rest, escaped,
      lone := units.any Unit16.isLone, errors }
  else
    { kind := .unknown, text := "", raw := quote :: raw, rest
      errors := errors ++ [.unterminatedString] }

/-! ### Templates -/

/-- How a piece of a template ends. -/
inductive PieceEnd where
  | template | expression | text
deriving DecidableEq

/-- A piece of a template up to its end. -/
def pieceTail : Nat → List Char → List Char × Bool × List Char × PieceEnd
  | 0, cs => ([], true, cs, .text)
  | n + 1, '\\' :: rest =>
      let e := Escape.scan true rest
      let (raw, wellFormed, left, ending) := pieceTail n e.rest
      ('\\' :: e.raw ++ raw, wellFormed && e.units.isSome, left, ending)
  | n + 1, '$' :: c :: rest =>
      if c = '\x7b' then (['$', c], true, rest, .expression)
      else
        let (raw, wellFormed, left, ending) := pieceTail n (c :: rest)
        ('$' :: raw, wellFormed, left, ending)
  | n + 1, c :: rest =>
      if c = '\x60' then ([c], true, rest, .template)
      else
        let (raw, wellFormed, left, ending) := pieceTail n rest
        (c :: raw, wellFormed, left, ending)
  | _ + 1, [] => ([], true, [], .text)

/-- A piece of a template after its opening character.  The value is the text as it is written. -/
def templatePiece (first : Bool) (opening : Char) (cs : List Char) : Scan :=
  let (raw, wellFormed, rest, ending) := pieceTail (cs.length + 1) cs
  match ending with
  | .template =>
      { kind := .template first true, text := String.ofList (raw.take (raw.length - 1))
        raw := opening :: raw, rest, malformed := !wellFormed }
  | .expression =>
      { kind := .template first false, text := String.ofList (raw.take (raw.length - 2))
        raw := opening :: raw, rest, malformed := !wellFormed }
  | .text =>
      { kind := .unknown, text := "", raw := opening :: raw, rest, errors := [.unterminatedString] }

/-! ### Regular expressions -/

/-- The pattern of a regular expression with its closing slash. -/
def patternTail (inClass : Bool) : List Char → Option (List Char × List Char)
  | [] => none
  | '\\' :: c :: rest =>
      if isLineEnd c then none
      else (patternTail inClass rest).map fun (raw, left) => ('\\' :: c :: raw, left)
  | c :: rest =>
      if isLineEnd c then none
      else if c = '/' && !inClass then some (['/'], rest)
      else
        let inClass' := if c = '[' then true else if c = ']' then false else inClass
        (patternTail inClass' rest).map fun (raw, left) => (c :: raw, left)

/-- The flags of regular expressions, in the order in which they are written. -/
def regexFlags : List Char := ['d', 'g', 'i', 'm', 's', 'u', 'v', 'y']

/-- The diagnostics of the flags of a regular expression. -/
def flagErrors : List Char → List Char → List Diagnostic
  | _, [] => []
  | seen, f :: rest =>
      if f ∈ regexFlags then
        (if f ∈ seen then [.repeatedRegexFlag f] else []) ++ flagErrors (f :: seen) rest
      else .regexFlag f :: flagErrors seen rest

/-- A regular expression; `cs` begins with its opening slash.  The value is the flags; the
pattern is what stands between the slashes. -/
def regex (cs : List Char) : Scan :=
  let body := cs.drop 1
  match patternTail false body with
  | none => { kind := .unknown, text := "", raw := cs.take 1, rest := body, errors := [.unterminatedRegex] }
  | some (raw, rest) =>
      let flags := rest.takeWhile Identifier.isPart
      { kind := .regex, text := String.ofList flags, raw := '/' :: raw ++ flags,
        rest := rest.drop flags.length, errors := flagErrors [] flags }

/-! ### Punctuators -/

/-- The punctuators, the longer before the shorter. -/
def punctuators : List String := [
  ">>>=", "...", "===", "!==", "**=", "<<=", ">>=", ">>>", "&&=", "||=", "??=",
  "=>", "==", "!=", "<=", ">=", "&&", "||", "??", "?.", "++", "--", "+=", "-=", "*=", "/=", "%=",
  "&=", "|=", "^=", "<<", ">>", "**",
  "\x7b", "\x7d", "(", ")", "[", "]", ";", ",", "<", ">", "+", "-", "*", "/", "%", "&", "|", "^",
  "!", "~", "?", ":", "=", ".", "@"]

/-- `?.` before a digit is a conditional and a number. -/
def isChainDot (p : String) (rest : List Char) : Bool :=
  p == "?." && match rest with
    | c :: _ => c.isDigit
    | [] => false

def punctuator? (cs : List Char) : Option Scan :=
  (punctuators.find? fun p =>
    p.toList.isPrefixOf cs && !isChainDot p (cs.drop p.length)).map fun p =>
      { kind := .punctuator, text := p, raw := p.toList, rest := cs.drop p.length }

/-! ### Choice -/

/-- Scans the next token; `cs` does not begin with a blank or comment. -/
def scan (cs : List Char) : Scan :=
  match cs with
  | [] => { kind := .eof, text := "", raw := [], rest := [] }
  | '"' :: rest => string '"' rest
  | '\'' :: rest => string '\'' rest
  | '\x60' :: rest => templatePiece true '\x60' rest
  | '#' :: rest => privateName rest
  | '\\' :: _ => name .name [] cs
  | '.' :: d :: _ =>
      if d.isDigit then number cs
      else (punctuator? cs).getD { kind := .unknown, text := "", raw := ['.'], rest := cs.drop 1 }
  | c :: rest =>
      if c.isDigit then number cs
      else if Identifier.isStart c then name .name [] cs
      else match punctuator? cs with
        | some s => s
        | none =>
            { kind := .unknown, text := "", raw := [c], rest, errors := [.invalidCharacter c] }

end ModuleBundler.Lexeme
