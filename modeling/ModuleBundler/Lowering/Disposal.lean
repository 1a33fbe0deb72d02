/-
ModuleBundler/Lowering/Disposal.lean

Declarations by `using`.  The statements of a block with such declarations stand in
a `try`; a helper keeps what is to be disposed of, and `finally` has it do so.  At the
top of a program functions stay outside, and other declarations are made by `var`, so
that they are seen everywhere.
-/
import ModuleBundler.Lowering.Operator

namespace ModuleBundler.Lower

open Build

def disposes : Declare → Bool
  | .disposed | .awaitDisposed => true
  | _ => false

def isUsing : Stmt → Bool
  | .declare _ kind _ => disposes kind
  | _ => false

def isAwaitUsing : Stmt → Bool
  | .declare _ .awaitDisposed _ => true
  | _ => false

/-- A declaration whose values are handed to the helper. -/
def handed (ctx : Ident) (kind : Declare) (d : Declarator) : Declarator :=
  let field := if kind = .awaitDisposed then "a" else "u"
  if disposes kind then
    { d with value := d.value.map fun e => call (member (.name ctx) field) [e] }
  else d

def handedStmt (ctx : Ident) (toVar : Bool) : Stmt → Stmt
  | .declare s kind items =>
      let as : Declare := if toVar then .hoisted else if disposes kind then .constant else kind
      .declare s as (items.map (handed ctx kind))
  | .classDecl c =>
      if toVar then
        .declare .nowhere .hoisted
          [⟨.nowhere, .name (c.id.getD default), some (.classExpr { c with id := none })⟩]
      else .classDecl c
  | s => s

/-- Statements in a `try`, with the helper called at the end. -/
def guardedBy (ctx : Ident) (awaits : Bool) (stmts : List Stmt) : Stmt :=
  let caught := Ident.made "_"
  let dispose := call (member (.name ctx) "d") []
  let last := if awaits then .await .nowhere dispose else dispose
  .tryCatch .nowhere .nowhere (var ctx (helper "usingCtx" []) :: stmts)
    (some ⟨.nowhere, some (.name caught), .nowhere,
      [expr (assignTo (.place (member (.name ctx) "e")) (.name caught))]⟩)
    .nowhere (some [expr last])

/-- The statements in a `try`. -/
def disposing (toVar : Bool) (stmts : List Stmt) : Lower Stmt := do
  let ctx ← fresh "usingCtx"
  return guardedBy ctx (stmts.any isAwaitUsing) (stmts.map (handedStmt ctx toVar))

/-- The statements of a body or block, with their disposal. -/
def withDisposal (stmts : List Stmt) : Lower (List Stmt) := do
  if stmts.any isUsing then return [← disposing false stmts] else return stmts

/-- A block, which gives way to its `try`. -/
def disposalBlock (span : Span) (stmts : List Stmt) : Lower Stmt := do
  if stmts.any isUsing then disposing false stmts else return .block span stmts

/-- A `switch`, as a whole in a `try` if a case declares by `using`. -/
def disposalSwitch (span : Span) (v : Expr) (cases : List Case) : Lower Stmt := do
  if cases.any (·.stmts.any isUsing) then
    let ctx ← fresh "usingCtx"
    let cases' := cases.map fun c => { c with stmts := c.stmts.map (handedStmt ctx false) }
    return guardedBy ctx (cases.any (·.stmts.any isAwaitUsing)) [.switch span v cases']
  else return .switch span v cases

def isFunction : Stmt → Bool
  | .funcDecl _ => true
  | _ => false

/-- The statements of a program, with their disposal. -/
def programDisposal (stmts : List Stmt) : Lower (List Stmt) := do
  if stmts.any isUsing then
    let (functions, others) := stmts.partition isFunction
    return functions ++ [← disposing true others]
  else return stmts

/-- The head of a loop over values to be disposed of, and the declaration that hands each one
over. -/
def disposalHead : ForHead → Lower (ForHead × List Stmt)
  | .declare s kind [⟨ds, .name id, v⟩] => do
      if !disposes kind then return (.declare s kind [⟨ds, .name id, v⟩], [])
      let t ← fresh id.name
      return (.declare s .constant [⟨ds, .name t, v⟩],
        [.declare .nowhere kind [⟨.nowhere, .name id, some (.name t)⟩]])
  | h => return (h, [])

end ModuleBundler.Lower
