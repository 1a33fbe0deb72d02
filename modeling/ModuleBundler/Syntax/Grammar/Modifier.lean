/-
ModuleBundler/Syntax/Grammar/Modifier.lean

What may stand before the name of a class member, a property or a parameter:
decorators, and words that say more of it.

No modifier is a reserved word of its own right: each of them can be a name as
well, and is one unless the token after it can begin what it modifies.
-/
import ModuleBundler.Syntax.Grammar.Basic

namespace ModuleBundler

namespace Token

/-- A modifier can stand before the token. -/
def followsModifier (t : Token) : Bool :=
  t.isName || t.isString || t.isNumber || t.kind == .privateName ||
    t.is "[" || t.is "\x7b" || t.is "*" || t.is "..."

/-- The words that modify what comes after them. -/
def modifierWords : List String := [
  "abstract", "accessor", "async", "const", "declare", "default", "export", "in", "out",
  "override", "private", "protected", "public", "readonly", "static"]

def isModifier (t : Token) : Bool := t.kind == .name && modifierWords.contains t.text

end Token

namespace Grammar

open Parse

/-! ### Decorators -/

/-- Names, what stands in parentheses, and members of them; the outermost may be called. -/
def isPlainDecorator (e : Expr) : Bool :=
  match e with
  | .call _ f _ false _ => isPath f
  | e => isPath e
where
  isPath : Expr → Bool
    | .name _ | .paren _ _ => true
    | .member _ o _ false | .privateMember _ o _ false => isPath o
    | _ => false

/-- The expression after `@`, in which `[` does not continue. -/
def decorator (g : Grammar) : Parse Expr := do
  expect "@"
  let e ← within ({ · with decorator := true }) g.leftHand
  unless isPlainDecorator e do note .decoratorExpression
  return e

def decorators (g : Grammar) : Parse (List Expr) :=
  repeating [] fun taken => do
    if ← sees "@" then return .inl ((← decorator g) :: taken)
    else return .inr taken.reverse

/-- Notes decorators that stand where nothing can be decorated. -/
def misplaced (marks : List Expr) : Parse Unit := do
  for _ in marks do note .decoratorMisplaced

/-! ### Words -/

/-- The current token is a modifier, for what it modifies begins after it. -/
def seesModifier (inClass seenStatic : Bool) : Parse Bool := do
  let t ← token
  let next ← peek
  if !t.isModifier then return false
  match t.text with
  | "static" => return !(seenStatic || (inClass && next.is "\x7b")) && next.followsModifier
  | "const" => return inClass && !next.newline && next.followsModifier
  | "export" =>
      return next.followsModifier && !(next.is "*" || next.is "\x7b" || next.isWord "as")
  | "default" => return next.isWord "class" || next.isWord "function" || next.isWord "interface"
  | _ => return !next.newline && next.followsModifier

def isAccess (word : String) : Bool := ["public", "protected", "private"].contains word

/-- Notes a modifier that cannot stand behind those before it. -/
def checkModifier (before : List String) (word : String) : Parse Unit := do
  if isAccess word && before.any isAccess then note .accessRepeated
  else if before.contains word then note (.modifierRepeated word)

/-- The modifiers of a class member, or of something else. -/
def modifiers (inClass : Bool) : Parse (List String) :=
  repeating [] fun taken => do
    if ← seesModifier inClass (taken.contains "static") then
      let t ← takeWord
      checkModifier taken t.text
      return .inl (t.text :: taken)
    else return .inr taken.reverse

/-- Takes the word `get` or `set` before a name. -/
def accessorWord? : Parse (Option MethodKind) := do
  let next ← peek
  if !next.followsModifier || next.is "*" then return none
  if ← eatWord "get" then return some .getter
  if ← eatWord "set" then return some .setter
  return none

end Grammar

end ModuleBundler
