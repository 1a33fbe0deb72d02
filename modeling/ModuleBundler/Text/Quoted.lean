/-
ModuleBundler/Text/Quoted.lean

Texts in double quotes, written so that both a reader of JSON and a reader of
string literals get the text back: a quote, a backslash and the characters below
U+0020 are escaped, all others stand for themselves.
-/

namespace ModuleBundler.Quoted

/-- A hexadecimal digit, in lower case. -/
def hexDigit (n : Nat) : Char :=
  if n < 10 then Char.ofNat (48 + n) else Char.ofNat (87 + n)

/-- The `width` lowest hexadecimal digits of a number. -/
def hexDigits : Nat → Nat → List Char
  | 0, _ => []
  | width + 1, n => hexDigits width (n / 16) ++ [hexDigit (n % 16)]

/-- A character as it is written between quotes. -/
def escape (c : Char) : List Char :=
  if c = '"' then ['\\', '"']
  else if c = '\\' then ['\\', '\\']
  else if c = '\n' then ['\\', 'n']
  else if c = '\r' then ['\\', 'r']
  else if c = '\t' then ['\\', 't']
  else if c = '\x08' then ['\\', 'b']
  else if c = '\x0c' then ['\\', 'f']
  else if c.toNat < 0x20 then '\\' :: 'u' :: hexDigits 4 c.toNat
  else [c]

def encode (s : List Char) : List Char :=
  '"' :: s.flatMap escape ++ ['"']

end ModuleBundler.Quoted

/-- A text in double quotes. -/
def String.quoted (s : String) : String :=
  String.ofList (ModuleBundler.Quoted.encode s.toList)
