/-
ModuleBundler/Syntax/Grammar/Function.lean

Functions, arrow functions and methods.  Whether parentheses belong to an arrow
function is guessed from the tokens after them (`guessArrow`); where the guess is
open, the arrow function is tried and given up if it fails.
-/
import ModuleBundler.Syntax.Grammar.Modifier
import ModuleBundler.Syntax.Grammar.Pattern

namespace ModuleBundler.Grammar

open Parse

/-! ### Bodies -/

/-- The statements up to a closing brace or the end, string statements at their head apart.  A
string in parentheses is no directive. -/
def statements (g : Grammar) (closed : Bool) : Parse (List Directive × List Stmt) :=
  repeating (([], [], true) : List Directive × List Stmt × Bool) fun (directives, stmts, heading) => do
    let t ← token
    if t.isEnd || (closed && t.is "\x7d") then return .inr (directives.reverse, stmts.reverse)
    let s ← g.stmt .listed
    match heading, s with
    | true, .expr span (.string v) =>
        if span.start = v.span.start then
          let raw := String.ofList ((t.raw.drop 1).take (t.raw.length - 2))
          return .inl (⟨raw, span⟩ :: directives, stmts, true)
        else return .inl (directives, s :: stmts, false)
    | _, _ => return .inl (directives, s :: stmts, false)

/-- The surroundings inside a function. -/
def inFunction (isAsync isGenerator : Bool) (a : Allow) : Allow :=
  { a with
    inOperator := true, returns := true, enclosed := true, decorator := false
    awaitWord := isAsync, yieldWord := isGenerator }

/-- The surroundings of parameters. -/
def inParams (isAsync isGenerator : Bool) (a : Allow) : Allow :=
  { a with inOperator := true, awaitWord := isAsync, yieldWord := isGenerator }

def functionBody (g : Grammar) (isAsync isGenerator : Bool) (inOperator : Bool) :
    Parse Body := do
  let start ← here
  expect "\x7b"
  let (directives, stmts) ←
    within (fun a => { inFunction isAsync isGenerator a with inOperator }) (statements g true)
  expect "\x7d"
  return ⟨← spanFrom start, directives, stmts⟩

/-- A parameter, with what stands before it. -/
def parameter (g : Grammar) : Parse Pattern := do
  let start ← here
  let marks ← decorators g
  for _ in ← modifiers false do note .parameterModifier
  let p ← patternWithDefault g
  if marks.isEmpty then return p else return .decorated (← spanFrom start) marks p

/-- Parameters in parentheses. -/
def params (g : Grammar) (isAsync isGenerator : Bool) :
    Parse (Span × List Pattern × Option Pattern) := do
  let start ← here
  expect "("
  let (items, rest) ← within (inParams isAsync isGenerator)
    (entries g ")" (parameter g) .restParameterNotLast)
  expect ")"
  return (← spanFrom start, items, rest)

/-- Parameters and body, after the name. -/
def functionRest (g : Grammar) (start : Nat) (id : Option Ident) (isAsync isGenerator : Bool) :
    Parse Func := do
  let (paramsSpan, items, rest) ← params g isAsync isGenerator
  unless ← sees "\x7b" do unexpected
  let body ← functionBody g isAsync isGenerator true
  return ⟨← spanFrom start, id, isAsync, isGenerator, paramsSpan, items, rest, body, false⟩

/-- What a function is part of. -/
inductive FunctionRole where
  | declaration | standard | expression
deriving DecidableEq

/-- A function from `async` or `function` on. -/
def function (g : Grammar) (role : FunctionRole) : Parse Func := do
  let start ← here
  let isAsync ← eatWord "async"
  expectWord "function"
  let isGenerator ← eat "*"
  let named : Parse (Option Ident) := do
    if (← token).isBinding then return some (← bindingIdentifier) else return none
  let id ← if role = .expression
    then within ({ · with awaitWord := isAsync, yieldWord := isGenerator }) named
    else named
  if role = .declaration && id.isNone then
    let t ← token
    if t.is "(" then note .missingFunctionName
    else if t.isReserved then missing "Identifier"
  functionRest g start id isAsync isGenerator

/-- A function begins here. -/
def seesFunction : Parse Bool := do
  let t ← token
  if t.isWord "function" then return true
  else if t.isWord "async" then
    let next ← peek
    return next.isWord "function" && !next.newline
  else return false

/-! ### Arrow functions -/

inductive ArrowGuess where
  | yes | no | maybe
deriving DecidableEq

/-- Whether the parentheses here, or after `async`, are those of an arrow function. -/
def guessArrow (c : Cursor) : ArrowGuess :=
  let opened :=
    if c.token.isWord "async" then
      let next := c.advance
      if next.token.is "(" && !next.token.newline then some next else none
    else if c.token.is "(" then some c
    else none
  match opened with
  | none => .no
  | some paren =>
      let first := paren.advance
      if first.token.is ")" then
        let after := first.advance.token
        if after.is "=>" || after.is ":" || after.is "\x7b" then .yes else .no
      else if first.token.is "[" || first.token.is "\x7b" then .maybe
      else if first.token.is "..." then
        let after := first.advance.token
        if after.isNumber || after.isString then .no else .yes
      else if !(first.token.isBinding || first.token.isWord "this") then .no
      else
        let second := first.advance
        if first.token.isModifier && !first.token.isWord "async" && second.token.isBinding then
          if second.advance.token.isWord "as" then .no else .yes
        else if second.token.is ":" then .yes
        else if second.token.is "?" then
          let after := second.advance.token
          if after.is ":" || after.is "," || after.is "=" || after.is ")" then .yes else .no
        else if second.token.is "," || second.token.is "=" || second.token.is ")" then .maybe
        else .no

/-- The arrow, which must stand on the line of what comes before it. -/
def arrow : Parse Unit := do
  let t ← token
  if t.newline && t.is "=>" then note .newlineBeforeArrow
  expect "=>"

/-- The body of an arrow function: a block, or an expression that is returned.  Where `in` is no
operator around the function, it is none in the body either. -/
def arrowBody (g : Grammar) (isAsync : Bool) : Parse (Body × Bool) := do
  if ← sees "\x7b" then
    return (← functionBody g isAsync false (← allowed).inOperator, false)
  else
    let start ← here
    let e ← within ({ · with awaitWord := isAsync, yieldWord := false }) g.assignment
    let span ← spanFrom start
    return (⟨span, [], [.expr span e]⟩, true)

/-- An arrow function with parentheses. -/
def parenthesizedArrow (g : Grammar) : Parse Expr := do
  let start ← here
  let isAsync ← eatWord "async"
  let (paramsSpan, items, rest) ← params g isAsync false
  arrow
  let (body, concise) ← arrowBody g isAsync
  return .arrow ⟨← spanFrom start, none, isAsync, false, paramsSpan, items, rest, body, false⟩
    concise

/-- An arrow function whose one parameter has been read. -/
def simpleArrow (g : Grammar) (start : Nat) (isAsync : Bool) (id : Ident) : Parse Expr := do
  arrow
  let (body, concise) ← arrowBody g isAsync
  return .arrow ⟨← spanFrom start, none, isAsync, false, id.span, [.name id], none, body, false⟩
    concise

/-- Tries an arrow function with parentheses; a place where that failed is not tried again. -/
def tryArrow (g : Grammar) : Parse (Option Expr) := fun c =>
  match guessArrow c with
  | .no => .ok none c
  | .yes => (some <$> parenthesizedArrow g) c
  | .maybe =>
      let place := c.token.span.start
      if c.notArrow.contains place then .ok none c
      else match parenthesizedArrow g c with
        | .ok e c' => .ok (some e) c'
        | .error _ c' => .ok none { c with notArrow := place :: c'.notArrow }

/-- Tries `async x => …`. -/
def tryAsyncArrow (g : Grammar) : Parse (Option Expr) := do
  let c ← get
  if c.token.isWord "async" then
    let param := c.advance
    let after := param.advance.token
    if param.token.isBinding && !param.token.newline && after.is "=>" && !after.newline then
      let start ← here
      let _ ← takeWord
      match ← g.binary Precedence.comma.level with
      | .name id => return some (← simpleArrow g start true id)
      | _ => unexpected
  return none

/-! ### Methods -/

/-- A method after its key. -/
def method (g : Grammar) (isAsync isGenerator : Bool) : Parse Func := do
  functionRest g (← here) none isAsync isGenerator

end ModuleBundler.Grammar
