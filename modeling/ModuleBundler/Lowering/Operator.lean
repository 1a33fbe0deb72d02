/-
ModuleBundler/Lowering/Operator.lean

Operators in terms of older ones: `**` by `Math.pow`, `??` by a conditional, and the
assignments that may not happen by the operators that may not evaluate their right
side.

An operand that is needed twice is kept in a temporary, unless reading it twice
cannot be told from reading it once.
-/
import ModuleBundler.Lowering.State
import ModuleBundler.Lowering.Build

namespace ModuleBundler

open Build

/-- The declarations of temporaries. -/
def Temp.declarations (ts : List Temp) : List Stmt :=
  let of (kind : Declare) := declareAll kind <|
    (ts.filter (·.kind == kind)).map fun t => (.made t.name, t.value)
  of .hoisted ++ of .mutable

namespace Lower

/-! ### Logical assignment -/

/-- The expression always has the same value and no effect. -/
def isFixed : Expr → Bool
  | .null _ | .bool _ _ | .number _ _ _ | .bigint _ _ | .regex _ _ _ | .string _ => true
  | .template t => t.exprs.isEmpty
  | _ => false

/-- An operand as it is read first, and as it is read again. -/
def twice (a : Around) (e : Expr) : Lower (Expr × Expr) := do
  if isFixed e then return (e, e)
  if a.bindings.isStatic e then return (e, e)
  let t ← tempFor e
  return (assign t e, .name t)

/-- `t op= v` as `t op (t = v)`. -/
def logicalAssignment (a : Around) (op : BinaryOp) (t : Pattern) (v : Expr) : Lower Expr := do
  match t with
  | .place (.member s o f _) =>
      let (first, again) ← twice a o
      return binary op (.member s first f false) (assignTo (.place (.member s again f false)) v)
  | .place (.privateMember s o f _) =>
      let (first, again) ← twice a o
      return binary op (.privateMember s first f false)
        (assignTo (.place (.privateMember s again f false)) v)
  | .place (.index s o k _) =>
      let (first, again) ← twice a o
      let (key, keyAgain) ← twice a k
      return binary op (.index s first key false)
        (assignTo (.place (.index s again keyAgain false)) v)
  | .place e => return binary op e (assignTo t v)
  | .name id => return binary op (.name id) (assignTo t v)
  | _ => return .assign .nowhere (.compound op) t v

/-! ### Nullish values -/

/-- `first !== null && again !== void 0 ? again : other` -/
def unlessNullish (span : Span) (first again other : Expr) : Expr :=
  .conditional span
    (binary .and (binary .notSame first null) (binary .notSame again undefined)) again other

/-- `l ?? r`.  In the default of a parameter the temporary is the parameter of a function of its
own. -/
def coalesce (a : Around) (span : Span) (l r : Expr) : Lower Expr := do
  if a.bindings.isStatic l then return unlessNullish span l l r
  if a.part = .parameter then
    let t ← fresh l.hint
    return call (arrow [.name t] (unlessNullish span (assign t l) (.name t) r)) []
  let t ← tempFor l
  return unlessNullish span (assign t l) (.name t) r

/-! ### Powers -/

def power (l r : Expr) : Expr := call (member (name "Math") "pow") [l, r]

def isBigint : Expr → Bool
  | .bigint _ _ => true
  | _ => false

def isLiteral : Expr → Bool
  | .null _ | .bool _ _ | .number _ _ _ | .bigint _ _ | .string _ => true
  | _ => false

/-- What is read twice: the assignment to a temporary, if there is one, and what to read. -/
def kept (e : Expr) : Lower (List Expr × Expr) := do
  let t ← tempFor e
  return ([assign t e], .name t)

/-- The object of a place that is read and written. -/
def keptObject (a : Around) (o : Expr) : Lower (List Expr × Expr) := do
  match o with
  | .super _ => return ([], o)
  | .name id => if a.bindings.isBound id then return ([], o) else kept o
  | _ => kept o

/-- The expressions in a row, or the only one. -/
def inOrder (firsts : List Expr) (last : Expr) : Expr :=
  if firsts.isEmpty then last else sequence (firsts ++ [last])

/-- `t **= v` -/
def powerAssignment (a : Around) (t : Pattern) (v : Expr) : Lower Expr := do
  match t with
  | .name id =>
      if a.bindings.isBound id then return assignTo t (power (.name id) v)
      let (firsts, again) ← kept (.name id)
      return inOrder firsts (assignTo t (power again v))
  | .place (.member s o f _) =>
      let (firsts, again) ← keptObject a o
      let place : Expr := .index s again (string f.name) false
      return inOrder firsts (assignTo (.place place) (power place v))
  | .place (.index s o k _) =>
      let (firsts, again) ← keptObject a o
      let (keys, key) ← if isLiteral k then pure ([], k) else kept k
      let place : Expr := .index s again key false
      return inOrder (firsts ++ keys) (assignTo (.place place) (power place v))
  | .place (.privateMember s o f _) =>
      let (firsts, again) ← keptObject a o
      let place : Expr := .privateMember s again f false
      return inOrder firsts (assignTo (.place place) (power place v))
  | _ => return .assign .nowhere (.compound .exp) t v

end Lower

end ModuleBundler
