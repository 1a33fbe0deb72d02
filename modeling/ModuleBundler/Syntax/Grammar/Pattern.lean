/-
ModuleBundler/Syntax/Grammar/Pattern.lean

Patterns.  Binding patterns are read as such.  The target of an assignment is
first read as an expression, for nothing tells it from one until the `=`; then
`Grammar.toTarget` reads that expression again as a pattern.
-/
import ModuleBundler.Syntax.Grammar.Basic

namespace ModuleBundler.Grammar

open Parse

/-! ### Binding patterns -/

/-- A pattern and, after `=`, its default. -/
def patternWithDefault (g : Grammar) : Parse Pattern := do
  let start ← here
  let p ← g.pattern
  if ← eat "=" then
    let value ← withIn g.assignment
    return .withDefault (← spanFrom start) p value
  else return p

/-- A property of an object pattern. -/
def patternField (g : Grammar) : Parse Field := do
  let start ← here
  let t ← token
  let next ← peek
  if t.isBinding && !next.is ":" then
    let id ← bindingIdentifier
    if ← eat "=" then
      let value ← withIn g.assignment
      let span ← spanFrom start
      return ⟨span, .name id, .withDefault span (.name id) value, true⟩
    else return ⟨← spanFrom start, .name id, .name id, true⟩
  else
    let k ← g.key
    expect ":"
    let value ← patternWithDefault g
    return ⟨← spanFrom start, k, value, false⟩

/-- The pattern after `...`, which has no default. -/
def restPattern (g : Grammar) : Parse Pattern := do
  let p ← g.pattern
  if ← eat "=" then
    let _ ← withIn g.assignment
    note .restInitializer
  return p

/-- Entries separated by commas, and a rest among them.  The rest should be the last of them, and
no comma should follow it. -/
def entries {α : Type} (g : Grammar) (close : String) (item : Parse α) (notLast : Diagnostic) :
    Parse (List α × Option Pattern) := do
  let one (items : List α) (rest : Option Pattern) : Parse (List α × Option Pattern × Bool) := do
    if ← eat "..." then
      let p ← restPattern g
      if ← sees "," then note notLast
      return (items, some p, true)
    else return ((← item) :: items, rest, false)
  let t ← token
  if t.is close || t.isNothing then return ([], none)
  repeating (← one [] none) fun (items, rest, atRest) => do
    let t ← token
    if t.is close || t.isNothing then return .inr (items.reverse, rest)
    unless t.is "," do throw { reason := .expected "," t.shown, yields := true }
    let _ ← take
    if ← sees close then
      if atRest then note .restTrailingComma
      return .inr (items.reverse, rest)
    return .inl (← one items rest)

def objectPattern (g : Grammar) : Parse Pattern := do
  let start ← here
  expect "\x7b"
  let (fields, rest) ← entries g "\x7d" (patternField g) .restNotLast
  expect "\x7d"
  match rest with
  | none | some (.name _) => pure ()
  | some _ => note .restPattern
  return .object (← spanFrom start) fields rest

/-- An element of an array pattern; nothing stands where a comma comes at once. -/
def patternElement (g : Grammar) : Parse (Option Pattern) := do
  if ← sees "," then return none else return some (← patternWithDefault g)

def arrayPattern (g : Grammar) : Parse Pattern := do
  let start ← here
  expect "["
  let (items, rest) ← entries g "]" (patternElement g) .restNotLast
  expect "]"
  return .array (← spanFrom start) items rest

/-- A binding pattern without default. -/
def patternRule (g : Grammar) : Parse Pattern := do
  let t ← token
  if t.is "\x7b" then objectPattern g
  else if t.is "[" then arrayPattern g
  else return .name (← bindingIdentifier)

/-! ### Targets -/

/-- An expression that is one place: a name or a member. -/
def simpleTarget : Expr → Parse Pattern
  | .name id => return .name id
  | e@(.member _ _ _ _) | e@(.index _ _ _ _) | e@(.privateMember _ _ _ _) => return .place e
  | .paren _ (.object _ _) | .paren _ (.array _ _) => fail .assignmentTarget
  | .paren _ e => simpleTarget e
  | _ => fail .assignmentTarget

/-- A target with an optional default, which has been read as an assignment. -/
def targetWithDefault (g : Grammar) : Expr → Parse Pattern
  | .assign span .store target value => return .withDefault span target value
  | e => g.target e

/-- The target of a rest, in the array or object that begins at the place. -/
def restTarget (g : Grammar) (place : Nat) (e : Expr) : Parse Pattern := do
  if (← get).trailing.contains place then note .restTrailingComma
  g.target e

/-- The elements of an array, read as targets.  The place is that of the array. -/
def arrayTargets (g : Grammar) (place : Nat) :
    List Element → Parse (List (Option Pattern) × Option Pattern)
  | [] => return ([], none)
  | [.spread _ e] => return ([], some (← restTarget g place e))
  | .spread _ _ :: _ => fail .spreadNotLast
  | .hole _ :: more => do
      let (items, rest) ← arrayTargets g place more
      return (none :: items, rest)
  | .item e :: more => do
      let p ← targetWithDefault g e
      let (items, rest) ← arrayTargets g place more
      return (some p :: items, rest)

/-- The properties of an object, read as targets.  A shorthand with an initializer was noted when it
was read; here it turns out to be a default. -/
def objectTargets (g : Grammar) (place : Nat) :
    List Property → Parse (List Field × Option Pattern)
  | [] => return ([], none)
  | [.spread _ e] => return ([], some (← restTarget g place e))
  | .spread _ _ :: _ => fail .spreadNotLast
  | .method _ _ _ _ :: _ => fail .assignmentTarget
  | .keyed span k value true :: more => do
      modify fun c => { c with shorthands := c.shorthands.filter (· != span.start) }
      let p ← match value with
        | .assign s .store target default => pure (.withDefault s target default)
        | .name id => pure (.name id)
        | _ => fail .assignmentTarget
      let (fields, rest) ← objectTargets g place more
      return (⟨span, k, p, true⟩ :: fields, rest)
  | .keyed span k value false :: more => do
      let p ← targetWithDefault g value
      let (fields, rest) ← objectTargets g place more
      return (⟨span, k, p, false⟩ :: fields, rest)

/-- Reads an expression again as the target of an assignment. -/
def toTarget (g : Grammar) : Expr → Parse Pattern
  | .array span items => do
      let (items, rest) ← arrayTargets g span.start items
      return .array span items rest
  | .object span members => do
      let (fields, rest) ← objectTargets g span.start members
      return .object span fields rest
  | e => simpleTarget e

end ModuleBundler.Grammar
