/-
ModuleBundler/Layout/Literal.lean

The text of string literals and directives.  A string stands in double quotes;
what could not be read back, or could not be seen, is escaped.  A directive is
written as it was read, between quotes that do not occur in it bare.
-/
import ModuleBundler.Syntax.Tree

namespace ModuleBundler

namespace Literal

def isHexDigit (c : Char) : Bool :=
  c.isDigit || ('a' ≤ c && c ≤ 'f') || ('A' ≤ c && c ≤ 'F')

/-- A character inside double quotes; `next` is the character after it. -/
def escape (c : Char) (next : Option Char) : String :=
  if c = '\x00' then (if next.any Char.isDigit then "\\x00" else "\\0")
  else if c = '\x07' then "\\x07"
  else if c = '\x08' then "\\b"
  else if c = '\x0b' then "\\v"
  else if c = '\x0c' then "\\f"
  else if c = '\n' then "\\n"
  else if c = '\r' then "\\r"
  else if c = '\x1b' then "\\x1B"
  else if c = '\\' then "\\\\"
  else if c = '"' then "\\\""
  else if c = '\u00a0' then "\\xA0"
  else if c = '\u2028' then "\\u2028"
  else if c = '\u2029' then "\\u2029"
  else c.toString

/-- The characters of a string, escaped. -/
def escaped : List Char → List Char
  | [] => []
  | c :: rest => (escape c rest.head?).toList ++ escaped rest

/-- The characters of a string in which U+FFFD and four digits stand for a surrogate without its
partner, or for U+FFFD itself. -/
def escapedLone : List Char → List Char
  | [] => []
  | c :: d₁ :: d₂ :: d₃ :: d₄ :: rest =>
      if c = '\ufffd' && [d₁, d₂, d₃, d₄].all isHexDigit then
        (if [d₁, d₂, d₃, d₄] = "fffd".toList then [c] else ['\\', 'u', d₁, d₂, d₃, d₄]) ++
          escapedLone rest
      else (escape c (some d₁)).toList ++ escapedLone (d₁ :: d₂ :: d₃ :: d₄ :: rest)
  | c :: rest => (escape c rest.head?).toList ++ escapedLone rest
termination_by cs => cs.length

/-- A string literal as it is written. -/
def layout (l : Literal) : String :=
  let inner := if l.lone then escapedLone l.text.toList else escaped l.text.toList
  String.ofList ('"' :: inner ++ ['"'])

/-- The literal of a text that a later stage makes up. -/
def ofText (text : String) : Literal := ⟨text, false, .nowhere⟩

end Literal

namespace Directive

/-- The first quote that stands bare in a raw text. -/
def bareQuote : List Char → Option Char
  | [] => none
  | '\\' :: _ :: rest => bareQuote rest
  | c :: rest => if c = '"' || c = '\'' then some c else bareQuote rest

def layout (d : Directive) : String :=
  let quote := if bareQuote d.raw.toList = some '"' then "'" else "\""
  quote ++ d.raw ++ quote ++ ";"

end Directive

end ModuleBundler
