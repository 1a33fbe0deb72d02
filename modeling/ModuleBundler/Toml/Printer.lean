/-
ModuleBundler/Toml/Printer.lean

Values as TOML texts.  A text is written in the plainest form that needs no escapes: a
basic string, a literal string, a basic block, a literal block, in this order.  Where
each of them needs escapes, the text is a basic block if it has a line end, and else a basic
string.  The content of a block with line ends begins on a line of its own.
-/
import ModuleBundler.Toml.Error
import ModuleBundler.Text.Quoted

namespace ModuleBundler.Toml.Printer

/-! ### Choice of quotes -/

/-- The length of the longest run of a character. -/
def longestRun (c : Char) (cs : List Char) : Nat := go 0 cs
where
  go (run : Nat) : List Char → Nat
    | [] => run
    | d :: rest => if d = c then go (run + 1) rest else max run (go 0 rest)

example : longestRun '"' "a\"\"b\"".toList = 2 := by decide +kernel

/-- The character can be written only as an escape. -/
def isControl (c : Char) : Bool := (c.toNat < 0x20 && c != '\t' && c != '\n') || c.toNat == 0x7f

/-- The text can stand between quotes of a kind as it is. -/
def fits (q : Quote) (cs : List Char) : Bool :=
  !cs.any isControl && match q with
    | .basic => !cs.contains '\\' && !cs.contains '"' && !cs.contains '\n'
    | .literal => !cs.contains '\'' && !cs.contains '\n'
    | .basicBlock => !cs.contains '\\' && longestRun '"' cs ≤ 2
    | .literalBlock => longestRun '\'' cs ≤ 2

/-- The quotes that a text is written with. -/
def quoteOf (cs : List Char) : Quote :=
  (([.basic, .literal, .basicBlock, .literalBlock] : List Quote).find? (fits · cs)).getD
    (if cs.contains '\n' then .basicBlock else .basic)

/-! ### Text -/

/-- A hexadecimal digit, as a capital. -/
def hexDigit (n : Nat) : Char := if n < 10 then Char.ofNat (48 + n) else Char.ofNat (55 + n)

/-- A character of a basic string, double quotes aside.  A line end stands for itself in a block. -/
def escape (inBlock : Bool) (c : Char) : List Char :=
  match c with
  | '\\' => ['\\', '\\']
  | '\x08' => ['\\', 'b']
  | '\t' => ['\\', 't']
  | '\n' => if inBlock then ['\n'] else ['\\', 'n']
  | '\x0c' => ['\\', 'f']
  | '\r' => ['\\', 'r']
  | c =>
      if isControl c then
        ['\\', 'u', '0', '0', hexDigit (c.toNat / 16), hexDigit (c.toNat % 16)]
      else [c]

/-- The text of a basic string.  A double quote stands for itself only after fewer than `free`
others. -/
def basic (inBlock : Bool) (free : Nat) : Nat → List Char → List Char
  | _, [] => []
  | run, '"' :: rest =>
      if run < free then '"' :: basic inBlock free (run + 1) rest
      else '\\' :: '"' :: basic inBlock free 0 rest
  | _, c :: rest => escape inBlock c ++ basic inBlock free 0 rest

def string (s : String) : String :=
  let cs := s.toList
  let start := if cs.contains '\n' then "\n" else ""
  match quoteOf cs with
  | .basic => "\"" ++ String.ofList (basic false 0 0 cs) ++ "\""
  | .literal => "'" ++ s ++ "'"
  | .basicBlock => "\"\"\"" ++ start ++ String.ofList (basic true 2 0 cs) ++ "\"\"\""
  | .literalBlock => "'''" ++ start ++ s ++ "'''"

def boolean (b : Bool) : String := if b then "true" else "false"

/-- A line with a key and a value. -/
def pair (key value : String) : String := key ++ " = " ++ value ++ "\n"

end ModuleBundler.Toml.Printer
