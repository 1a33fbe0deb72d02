/-
ModuleBundler/Toml/Error.lean

What can be wrong with a TOML text, and how it is told: the place, the line with the
stretch in question marked below it, and the cause.
-/

namespace ModuleBundler.Toml

/-- How a text is quoted. -/
inductive Quote where
  | literal | basic | literalBlock | basicBlock
deriving DecidableEq, Inhabited, Repr

/-- The parts of a number with a point or an exponent. -/
inductive NumberPart where
  | mantissa | fraction | exponent
deriving DecidableEq, Inhabited, Repr

/-- The bases that an integer may be written in. -/
inductive Radix where
  | decimal | hexadecimal | octal | binary
deriving DecidableEq, Inhabited, Repr

def Radix.base : Radix → Nat
  | decimal => 10 | hexadecimal => 16 | octal => 8 | binary => 2

/-- What may come next among the members of an inline table. -/
inductive MemberState where
  | key | equals | value | comma
deriving DecidableEq, Inhabited, Repr

inductive Cause where
  -- The make of the lines.
  | missingKey
  | missingEquals
  | extraEquals
  | afterValue
  | missingTable
  | unclosedTable
  | unclosedTables (wanted : String)
  | missingArray
  | missingInline
  | unclosedArray
  | extraArrayComma
  | arrayEquals
  | missingComma
  | unclosedInline
  | extraInlineComma (wanted : MemberState)
  | extraInlineEquals (wanted : MemberState)
  | inlineWithoutKey (wanted : MemberState)
  | inlineWithoutEquals
  | inlineWithoutComma
  | inlineElement (wanted : MemberState)
  | commentCharacter
  | carriageReturn
  | tooDeep
  -- Keys.
  | duplicateKey
  | emptyKey
  | invalidKey
  | blockKey (q : Quote)
  | extendsValue (type : String)
  -- Strings.
  | unclosed (q : Quote)
  | stringCharacter (q : Quote)
  | escape
  | fewDigits
  | codePoint
  -- Words.
  | bareText
  | invalidBoolean (wanted : String)
  | invalidFloat (wanted : String)
  | redundantSign
  | signedRadix
  | upperRadix (wanted : String)
  | redundantRadix
  | unexpectedSign
  | radixDigit (r : Radix)
  | underscore
  | leadingZero
  | noDigits (p : NumberPart)
  | afterFloat
  | date (what wanted : Option String)
  -- What the program asks for.
  | integerOverflow
  | floatOverflow
  | wrongType (found wanted : String)
  | unknownField (name : String) (known : List String)
deriving DecidableEq, Inhabited, Repr

/-- Names in backquotes, with `or` before the last. -/
def alternatives : List String → String
  | [] => "nothing"
  | [a] => "\x60" ++ a ++ "\x60"
  | [a, b] => "\x60" ++ a ++ "\x60 or \x60" ++ b ++ "\x60"
  | a :: rest => "\x60" ++ a ++ "\x60, " ++ alternatives rest

namespace Cause

def quoteName : Quote → String
  | .literal => "literal string"
  | .basic => "basic string"
  | .literalBlock => "multi-line literal string"
  | .basicBlock => "multi-line basic string"

def closing : Quote → String
  | .literal | .literalBlock => "\x60'\x60"
  | .basic | .basicBlock => "\x60\"\x60"

/-- What a string of a kind may hold. -/
def contents : Quote → String
  | .literal => "non-single-quote visible characters"
  | .basic => "non-double-quote visible characters, \x60\\\x60"
  | .literalBlock => "non-single-quote characters"
  | .basicBlock => "printable characters, \x60\\\x60"

def radixName : Radix → String
  | .decimal => "integer" | .hexadecimal => "hexadecimal" | .octal => "octal" | .binary => "binary"

def partName : NumberPart → String
  | .mantissa => "mantissa" | .fraction => "fraction" | .exponent => "exponent"

def memberName : MemberState → String
  | .key => "key" | .equals => "\x60=\x60" | .value => "value" | .comma => "\x60,\x60"

def keyCharacters : String := "letters, numbers, \x60-\x60, \x60_\x60"

def escapes : String :=
  ", ".intercalate (["b", "e", "f", "n", "r", "\\", "\"", "x", "u", "U"].map fun e => "\x60" ++ e ++ "\x60")

/-- What is wrong, and what would be right: `nothing` where there is one thing too many. -/
def message : Cause → String
  | missingKey => "invalid key"
  | missingEquals => "key with no value, expected \x60=\x60"
  | extraEquals => "extra \x60=\x60, expected nothing"
  | afterValue => "unexpected key or value, expected newline, \x60#\x60"
  | missingTable => "missing table open, expected \x60[\x60"
  | unclosedTable => "unclosed table, expected \x60]\x60"
  | unclosedTables wanted => "unclosed array table, expected \x60" ++ wanted ++ "\x60"
  | missingArray => "missing array opening, expected \x60[\x60"
  | missingInline => "missing inline table opening, expected \x60\x7b\x60"
  | unclosedArray => "unclosed array, expected \x60]\x60"
  | extraArrayComma => "extra comma in array, expected value"
  | arrayEquals => "unexpected \x60=\x60 in array, expected value, \x60]\x60"
  | missingComma => "missing comma between array elements, expected \x60,\x60"
  | unclosedInline => "unclosed inline table, expected \x60\x7d\x60"
  | extraInlineComma wanted => "extra comma in inline table, expected " ++ memberName wanted
  | extraInlineEquals wanted =>
      "extra assignment between key-value pairs, expected " ++ memberName wanted
  | inlineWithoutKey wanted =>
      "missing key for inline table element, expected " ++ memberName wanted
  | inlineWithoutEquals => "missing assignment between key-value pairs, expected \x60=\x60"
  | inlineWithoutComma => "missing comma between key-value pairs, expected \x60,\x60"
  | inlineElement wanted => "invalid inline table element, expected " ++ memberName wanted
  | commentCharacter => "invalid comment character, expected printable characters"
  | carriageReturn => "carriage return must be followed by newline, expected newline"
  | tooDeep => "cannot recurse further; max recursion depth met"
  | duplicateKey => "duplicate key"
  | emptyKey => "unquoted keys cannot be empty, expected " ++ keyCharacters
  | invalidKey => "invalid unquoted key, expected " ++ keyCharacters
  | blockKey q => "keys cannot be " ++ quoteName q ++ "s, expected basic string, literal string"
  | extendsValue type => "cannot extend value of type " ++ type ++ " with a dotted key"
  | unclosed q => "invalid " ++ quoteName q ++ ", expected " ++ closing q
  | stringCharacter q => "invalid " ++ quoteName q ++ ", expected " ++ contents q
  | escape => "missing escaped value, expected " ++ escapes
  | fewDigits => "too few unicode value digits, expected unicode hexadecimal value"
  | codePoint => "invalid value, expected unicode hexadecimal value"
  | bareText => "string values must be quoted, expected literal string"
  | invalidBoolean wanted => "invalid boolean, expected \x60" ++ wanted ++ "\x60"
  | invalidFloat wanted => "invalid float, expected \x60" ++ wanted ++ "\x60"
  | redundantSign => "redundant numeric sign, expected nothing"
  | signedRadix => "integers with a radix cannot be signed, expected nothing"
  | upperRadix wanted => "radix must be lowercase, expected \x60" ++ wanted ++ "\x60"
  | redundantRadix => "redundant integer number prefix, expected nothing"
  | unexpectedSign => "unexpected sign, expected nothing"
  | radixDigit r => "invalid " ++ radixName r ++ " number"
  | underscore => "\x60_\x60 may only go between digits, expected nothing"
  | leadingZero => "unexpected leading zero, expected nothing"
  | noDigits p => "invalid " ++ partName p ++ ", expected digits"
  | afterFloat => "invalid float, expected nothing"
  | date what wanted =>
      "invalid " ++ what.getD "datetime" ++ (wanted.map (", expected " ++ ·)).getD ""
  | integerOverflow => "integer number overflowed"
  | floatOverflow => "floating-point number overflowed"
  | wrongType found wanted => "invalid type: " ++ found ++ ", expected " ++ wanted
  | unknownField name known => "unknown field \x60" ++ name ++ "\x60, expected " ++ alternatives known

end Cause

/-- A stretch of a text: the places where it begins and ends. -/
structure Stretch where
  start : Nat
  stop : Nat
deriving DecidableEq, Inhabited, Repr

structure Error where
  place : Stretch
  cause : Cause
deriving DecidableEq, Inhabited, Repr

namespace Error

/-- The lines of a text. -/
def linesOf : List Char → List (List Char)
  | [] => [[]]
  | '\n' :: rest => [] :: linesOf rest
  | c :: rest =>
      match linesOf rest with
      | line :: lines => (c :: line) :: lines
      | [] => [[c]]

/-- The line and the column of a place, both counted from zero.  The end of a text counts as a place
after its last character, on the line of that. -/
def position (text : List Char) (place : Nat) : Nat × Nat :=
  let inside := min place (text.length - 1)
  let before := text.take inside
  let column := (before.reverse.takeWhile (· != '\n')).length
  (before.count '\n', column + (place - inside))

def bytes (cs : List Char) : Nat := cs.foldl (fun n c => n + c.utf8Size) 0

def spaces (n : Nat) : String := String.ofList (List.replicate n ' ')

/-- The error as it is told of a text. -/
def message (e : Error) (text : List Char) : String :=
  let (line, column) := position text e.place.start
  let content := ((linesOf text)[line]?).getD []
  let number := toString (line + 1)
  let gutter := spaces (number.length + 1) ++ "|"
  let marked := min (bytes ((text.drop e.place.start).take (e.place.stop - e.place.start))) (bytes content)
  "TOML parse error at line " ++ number ++ ", column " ++ toString (column + 1) ++ "\n" ++
    gutter ++ "\n" ++
    number ++ " | " ++ String.ofList content ++ "\n" ++
    gutter ++ spaces (column + 1) ++ String.ofList (List.replicate (max 1 marked) '^') ++ "\n" ++
    e.cause.message ++ "\n"

end Error

end ModuleBundler.Toml
