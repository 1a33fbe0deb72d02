/-
ModuleBundler/Toml/Lexeme.lean

The tokens of a TOML text.  Nothing is skipped: the tokens of a text, joined, are the
text.  A quoted text without its closing quote is a token as well, up to the end of
its line; a word between blanks and marks is an atom, whatever it means.
-/
import ModuleBundler.Toml.Error

namespace ModuleBundler.Toml

inductive TokenKind where
  | dot | equals | comma | openBracket | closeBracket | openBrace | closeBrace
  | blank | comment | newline
  | quoted (q : Quote)
  | atom
deriving DecidableEq, Inhabited, Repr

structure Token where
  kind : TokenKind
  start : Nat
  text : List Char
deriving DecidableEq, Inhabited, Repr

def Token.stop (t : Token) : Nat := t.start + t.text.length

namespace Lexeme

/-- The character ends an atom. -/
def endsAtom (c : Char) : Bool := ".=,[]\x7b\x7d# \t\r\n".toList.contains c

/-- The length of what belongs to a basic string after its first quote. -/
def basicLength : List Char → Nat
  | [] => 0
  | '"' :: _ => 1
  | '\n' :: _ => 0
  | '\\' :: '\\' :: rest | '\\' :: '"' :: rest => 2 + basicLength rest
  | _ :: rest => 1 + basicLength rest

/-- The length of what belongs to a literal string after its first quote. -/
def literalLength : List Char → Nat
  | [] => 0
  | '\'' :: _ => 1
  | '\n' :: _ => 0
  | _ :: rest => 1 + literalLength rest

/-- Quotes that belong to a block beside the three that close it. -/
def extraQuotes (q : Char) (rest : List Char) : Nat := ((rest.take 2).takeWhile (· == q)).length

/-- The length of what belongs to a block after its first three quotes. -/
def blockLength (q : Char) : List Char → Nat
  | [] => 0
  | '\\' :: c :: rest => if q = '"' then 2 + blockLength q rest else 1 + blockLength q (c :: rest)
  | a :: b :: c :: rest =>
      if a = q ∧ b = q ∧ c = q then 3 + extraQuotes q rest else 1 + blockLength q (b :: c :: rest)
  | _ :: rest => 1 + blockLength q rest

/-- The kind of the token that begins with a character, and how many characters after that belong
to it. -/
def scan (c : Char) (rest : List Char) : TokenKind × Nat :=
  match c with
  | '.' => (.dot, 0)
  | '=' => (.equals, 0)
  | ',' => (.comma, 0)
  | '[' => (.openBracket, 0)
  | ']' => (.closeBracket, 0)
  | '\x7b' => (.openBrace, 0)
  | '\x7d' => (.closeBrace, 0)
  | ' ' | '\t' => (.blank, (rest.takeWhile fun d => d == ' ' || d == '\t').length)
  | '#' => (.comment, (rest.takeWhile fun d => d != '\n' && d != '\r').length)
  | '\n' => (.newline, 0)
  | '\r' => (.newline, if rest.head? = some '\n' then 1 else 0)
  | '"' =>
      match rest with
      | '"' :: '"' :: more => (.quoted .basicBlock, 2 + blockLength '"' more)
      | _ => (.quoted .basic, basicLength rest)
  | '\'' =>
      match rest with
      | '\'' :: '\'' :: more => (.quoted .literalBlock, 2 + blockLength '\'' more)
      | _ => (.quoted .literal, literalLength rest)
  | _ => (.atom, (rest.takeWhile fun d => !endsAtom d).length)

/-- The tokens of a text that begins at a place. -/
def tokensFrom (place : Nat) : List Char → List Token
  | [] => []
  | c :: rest =>
      let (kind, more) := scan c rest
      ⟨kind, place, c :: rest.take more⟩ :: tokensFrom (place + 1 + more) (rest.drop more)
termination_by text => text.length
decreasing_by simp only [List.length_drop, List.length_cons]; omega

/-- The tokens of a text.  A mark of byte order at its head is no part of them. -/
def tokens (text : List Char) : List Token :=
  match text with
  | '\ufeff' :: rest => tokensFrom 1 rest
  | text => tokensFrom 0 text

end Lexeme

end ModuleBundler.Toml
