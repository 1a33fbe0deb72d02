/-
ModuleBundler/Syntax/Grammar/Basic.lean

The parts of the grammar that call one another.  A `Grammar` holds one parser for
each construct that can contain itself.  A rule of the grammar is a function of a
`Grammar`, the one for what lies a level deeper, so each rule is an ordinary
definition; the levels are tied together in `ModuleBundler.Syntax.Grammar`.

This module has the rules that need no other: names, keys and literals.
-/
import ModuleBundler.Syntax.Cursor

namespace ModuleBundler

/-- Where a statement stands: among others, or alone as the body of another. -/
inductive Position where
  | listed | alone
deriving DecidableEq, Inhabited, Repr

/-- Parsers for what lies one level deeper. -/
structure Grammar where
  expr : Parse Expr
  assignment : Parse Expr
  /-- Operators that bind more tightly than the level. -/
  binary : Nat → Parse Expr
  unary : Parse Expr
  /-- A primary expression with members and calls. -/
  leftHand : Parse Expr
  /-- A primary expression with members, but no calls. -/
  callee : Parse Expr
  /-- A binding pattern without default. -/
  pattern : Parse Pattern
  /-- Reads an expression again as the target of an assignment. -/
  target : Expr → Parse Pattern
  stmt : Position → Parse Stmt
  /-- A type of the typed dialect; it has no meaning here. -/
  type : Parse (List TypePiece)

/-- The grammar of a text that is nested too deeply. -/
def Grammar.exhausted : Grammar where
  expr := Parse.unexpected
  assignment := Parse.unexpected
  binary _ := Parse.unexpected
  unary := Parse.unexpected
  leftHand := Parse.unexpected
  callee := Parse.unexpected
  pattern := Parse.unexpected
  target _ := Parse.unexpected
  stmt _ := Parse.unexpected
  type := Parse.unexpected

namespace Parse

/-! ### Names -/

/-- The current token as a name in the tree, taken. -/
def takeIdent : Parse Ident := do
  let t ← take
  return ⟨t.text, t.span⟩

/-- Any name, reserved words included. -/
def identifierName : Parse Ident := do
  if (← token).isName then takeIdent else unexpected

/-- Notes the use of `await` or `yield` as a name where it is an operator. -/
def checkOperatorName (t : Token) : Parse Unit := do
  let a ← allowed
  if t.text == "await" && a.awaitWord then note (.identifierInAsync "await")
  if t.text == "yield" && a.yieldWord then note (.identifierInGenerator "yield")

/-- A name that is bound here. -/
def bindingIdentifier : Parse Ident := do
  let t ← token
  if t.isKeyword then fail (.reservedIdentifier t.text)
  unless t.isBinding do unexpected
  checkOperatorName t
  takeIdent

/-- A name that is used here. -/
def identifierReference : Parse Ident := do
  let t ← token
  unless t.isBinding do unexpected
  checkOperatorName t
  takeIdent

/-- A label, unless the statement ends here. -/
def label? : Parse (Option Ident) := do
  if ← canEndStatement then return none
  unless (← token).isBinding do unexpected
  return some (← takeIdent)

/-- A name after `#`. -/
def privateIdentifier : Parse Ident := do
  if (← token).kind == .privateName then takeIdent else unexpected

/-! ### Literals -/

def stringLiteral : Parse Literal := do
  let t ← token
  unless t.isString do unexpected
  let t ← take
  return ⟨t.text, t.lone, t.span⟩

/-- A number or big integer. -/
def numberLiteral : Parse Expr := do
  let t ← take
  let cs := t.text.toList
  if cs.getLast? == some 'n' then return .bigint t.span t.text
  else return .number t.span (Lexeme.numberValue cs) (String.ofList t.raw)

/-! ### Templates -/

/-- Reads the closing brace of a substitution again as the beginning of a template piece. -/
def continueTemplate : Parse Unit := modify fun c =>
  if c.token.is "\x7d" then
    let s := Lexeme.templatePiece false '\x7d' c.rest
    let span : Span := ⟨c.token.span.start, c.token.span.start + s.raw.length⟩
    let token : Token := {
      kind := s.kind, text := s.text, raw := s.raw, span, newline := c.token.newline
      malformed := s.malformed }
    { c with token, rest := s.rest, pos := span.stop, lexical := s.errors.reverse ++ c.lexical }
  else c

end Parse

namespace Grammar

/-- The name of a property. -/
def key (g : Grammar) : Parse Key := do
  let t ← Parse.token
  if t.isString then return .literal (.string (← Parse.stringLiteral))
  else if t.isNumber then return .literal (← Parse.numberLiteral)
  else if t.is "[" then
    let _ ← Parse.take
    let e ← Parse.withIn g.assignment
    Parse.expect "]"
    return .computed e
  else return .name (← Parse.identifierName)

end Grammar

end ModuleBundler
