/-
ModuleBundler/Lowering/AsyncFunction.lean

Asynchronous functions in terms of generators.  A helper turns a generator into a
function whose calls run it: `asyncToGenerator` for asynchronous functions,
`wrapAsyncGenerator` for asynchronous generators.

A declaration keeps its name, and its first call replaces the function behind it by
what the helper gives.  An expression becomes a call of the helper, or, if its name
or the number of its parameters can be observed, a function around one.  A method
calls what the helper gives at once.
-/
import ModuleBundler.Lowering.Operator
import ModuleBundler.Syntax.Cursor

namespace ModuleBundler.Lower

open Build

/-- The function is replaced by a generator on the target. -/
def replaces (a : Around) (f : Func) : Bool :=
  f.isAsync && (if f.isGenerator then a.lowers .asyncGenerator else a.lowers .asyncFunction)

def helperOf (f : Func) : String :=
  if f.isGenerator then "wrapAsyncGenerator" else "asyncToGenerator"

/-- What the helper makes of the function. -/
def wrapped (f : Func) : Expr := helper (helperOf f) [generator f.params f.rest f.body]

/-- The default of a parameter. -/
def default? : Pattern → Option Expr
  | .withDefault _ _ e | .decorated _ _ (.withDefault _ _ e) => some e
  | _ => none

def isDefault (p : Pattern) : Bool := (default? p).isSome

/-- The number of parameters of the function is not zero for its callers. -/
def hasLength (f : Func) : Bool := f.params.head?.any fun p => !isDefault p

/-- Parameters that stand for those before the first with a default. -/
def placeholders : List Pattern → Lower (List Pattern)
  | [] => pure []
  | p :: rest => do
      if isDefault p then return []
      let id ← fresh "x"
      return .name id :: (← placeholders rest)

/-- `return f.apply(this, arguments);` -/
def passOn (f : Ident) : Stmt := ret (call (member (.name f) "apply") [this, name "arguments"])

/-- A name that a function can have. -/
def functionName (s : String) : String :=
  let cs := s.toList.mapIdx fun i c =>
    if (if i = 0 then Identifier.isStart c else Identifier.isPart c) then c else '_'
  let n := if cs.isEmpty then "_" else String.ofList cs
  if Token.reservedWords.contains n || n = "arguments" || n = "eval" then "_" ++ n else n

/-- The name that a function without one gets from its surroundings. -/
def inferredName (a : Around) : Option Ident :=
  match a.part with
  | .declared n => some (.made n)
  | .property n => some (.made (functionName n))
  | _ => none

/-- A function that makes the generator's function once, and gives the caller of it. -/
def once (ref : Ident) (f : Func) (rest : List Stmt) : Expr :=
  .function (function none [] none (body (var ref (wrapped f) :: rest)))

/-- An asynchronous arrow function. -/
def asyncArrow (a : Around) (f : Func) : Lower Expr := do
  let id := inferredName a
  if id.isNone && !hasLength f then return wrapped f
  let ref ← fresh "ref"
  let caller := function id (← placeholders f.params) none (body [passOn ref])
  return call (once ref f [ret (.function caller)]) []

/-- An asynchronous function as an expression. -/
def asyncExpression (a : Around) (f : Func) : Lower Expr := do
  match f.id with
  | some id =>
      let ref ← fresh id.name
      let caller := function (some id) (← placeholders f.params) none (body [passOn ref])
      return pureCall (once ref f [.funcDecl caller, ret (.name id)]) []
  | none =>
      if !hasLength f then return wrapped f
      let ref ← fresh "ref"
      let caller := function (inferredName a) (← placeholders f.params) none (body [passOn ref])
      return pureCall (once ref f [ret (.function caller)]) []

/-- An asynchronous function as a declaration, and the function behind it. -/
def asyncDeclaration (f : Func) : Lower (Func × Func) := do
  let outer ← placeholders f.params
  let ref ← fresh ((f.id.map (·.name)).getD "ref")
  let front : Func := { f with
    isAsync := false, isGenerator := false, params := outer, rest := none, body := body [passOn ref] }
  let back := function (some ref) [] none (body [expr (assign ref (wrapped f)), passOn ref])
  return (front, back)

/-- Evaluating the expression cannot fail. -/
def isHarmless : Expr → Bool
  | .function _ | .arrow _ _ => true
  | .name id => id.name == "undefined"
  | e => isLiteral e

/-- An asynchronous method.  It keeps its parameters, unless the default of one may fail. -/
def asyncMethod (f : Func) : Lower Func := do
  if f.params.all fun p => (default? p).all isHarmless then
    let inner := helper (helperOf f) [generator [] none f.body]
    return { f with isAsync := false, isGenerator := false, body := body [ret (call inner [])] }
  else
    let outer ← placeholders f.params
    let inner := call (member (wrapped f) "apply") [this, name "arguments"]
    return { f with
      isAsync := false, isGenerator := false, params := outer, rest := none
      body := body [ret inner] }

/-! ### Inside -/

/-- The innermost function around a place is asynchronous, and a generator. -/
def innermost : List Enclosure → Option (Bool × Bool)
  | .function isAsync isGenerator :: _ | .method isAsync isGenerator :: _ => some (isAsync, isGenerator)
  | .arrow isAsync :: _ => some (isAsync, false)
  | _ :: rest => innermost rest
  | [] => none

def awaited (a : Around) (span : Span) (e : Expr) : Expr :=
  match innermost a.enclosures with
  | some (true, true) =>
      if a.lowers .asyncGenerator then .yield .nowhere false (some (helper "awaitAsyncGenerator" [e]))
      else .await span e
  | some (true, false) =>
      if a.lowers .asyncFunction then .yield .nowhere false (some e) else .await span e
  | _ => .await span e

/-- `yield* e` -/
def delegated (a : Around) (span : Span) (e : Expr) : Expr :=
  match innermost a.enclosures with
  | some (true, true) =>
      if a.lowers .asyncGenerator then
        .yield span true (some (helper "asyncGeneratorDelegate" [helper "asyncIterator" [e]]))
      else .yield span true (some e)
  | _ => .yield span true (some e)

/-! ### Loops over asynchronous iterators -/

/-- What a loop does with each value. -/
def stepHead (h : ForHead) (value : Expr) : Stmt :=
  match h with
  | .declare _ kind (d :: _) => .declare .nowhere kind [{ d with value := some value }]
  | .declare s kind [] => .declare s kind []
  | .target p => expr (assignTo p value)
  | .expr e => expr (assignTo (.place e) value)

/-- `for await`, with the statements that come before the loop.  Of the body only a block is
kept. -/
def forAwait (h : ForHead) (items : Expr) (loopBody : Stmt) (relabel : Stmt → Stmt) :
    Lower (List Stmt × Stmt) := do
  let step ← fresh "step"
  let iterator ← fresh "iterator"
  let abrupt ← fresh "iteratorAbruptCompletion"
  let failed ← fresh "didIteratorError"
  let error ← fresh "iteratorError"
  let no : Expr := .bool .nowhere false
  let inner := match loopBody with
    | .block _ [] => []
    | .block _ _ => [loopBody]
    | _ => []
  let next : Expr := .await .nowhere (call (member (.name iterator) "next") [])
  let test := assign abrupt
    (.unary .nowhere .not (member (.paren .nowhere (assign step next)) "done"))
  let loop : Stmt := .forLoop .nowhere
    (some (.declare .nowhere .hoisted
      [⟨.nowhere, .name iterator, some (helper "asyncIterator" [items])⟩, ⟨.nowhere, .name step, none⟩]))
    (some test) (some (assign abrupt no))
    (block (stepHead h (member (.name step) "value") :: inner))
  let close : Stmt := .cond .nowhere
    (binary .and (.name abrupt) (binary .notEqual (member (.name iterator) "return") null))
    (block [expr (.await .nowhere (call (member (.name iterator) "return") []))]) none
  let rethrow : Stmt := .cond .nowhere (.name failed) (block [.throw .nowhere (.name error)]) none
  let caught := Ident.made "err"
  return (
    [var abrupt no, var failed no, .declare .nowhere .hoisted [⟨.nowhere, .name error, none⟩]],
    .tryCatch .nowhere .nowhere [relabel loop]
      (some ⟨.nowhere, some (.name caught), .nowhere,
        [expr (assign failed (.bool .nowhere true)), expr (assign error (.name caught))]⟩)
      .nowhere
      (some [.tryCatch .nowhere .nowhere [close] none .nowhere (some [rethrow])]))

end ModuleBundler.Lower
