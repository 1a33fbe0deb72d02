/-
ModuleBundler/Lowering/Expression.lean

Lowering an expression.  Its newer operators give way to older ones first, the newest
before the others, so that what stands for one can be replaced again.  Then
its parts are lowered.  Objects and functions are replaced last, with
their parts done.
-/
import ModuleBundler.Lowering.Descent
import ModuleBundler.Lowering.Regex

namespace ModuleBundler

namespace Lower

open Build

/-! ### Before the parts -/

def olderAssignment (a : Around) (e : Expr) : Lower Expr := do
  match e with
  | .assign _ (.compound op) t v =>
      if op.isLogical && a.lowers .logicalAssignment then logicalAssignment a op t v else return e
  | e => return e

def withoutNullish (a : Around) (e : Expr) : Lower Expr := do
  match e with
  | .binary s .coalesce l r => if a.lowers .nullish then coalesce a s l r else return e
  | .chain s inner =>
      if !a.lowers .optionalChain then return e
      else if (← get).inParameters then return call (arrow [] (.chain s inner)) []
      else optionalChain a inner
  | .unary s .delete arg =>
      match arg.strip with
      | .chain _ inner => if a.lowers .optionalChain then deleteChain a s inner else return e
      | _ => return e
  | .bigint s _ =>
      if a.lowers .bigint then complain s.start .bigintUnsupported
      return e
  | e => return e

def withoutRest (a : Around) (e : Expr) : Lower Expr := do
  match e with
  | .assign _ .store t v =>
      if a.lowers .objectRestSpread && hasRest t then restAssignment a t v else return e
  | e => return e

def withoutPower (a : Around) (e : Expr) : Lower Expr := do
  if !a.lowers .exponent then return e
  match e with
  | .binary _ .exp l r => return if isBigint l || isBigint r then e else power l r
  | .assign _ (.compound .exp) t v => powerAssignment a t v
  | e => return e

/-- Replaces an expression whose parts are still to be lowered. -/
def before (a : Around) (e : Expr) : Lower Expr := do
  let e ← capture a e
  let e ← privateAccess a e
  let e ← olderAssignment a e
  let e ← withoutNullish a e
  let e ← withoutRest a e
  let e ← withoutPower a e
  match e with
  | .regex s pattern flags => return regex a s pattern flags
  | e => return e

/-! ### After the parts -/

/-- The body of an arrow function as that of a function. -/
def withReturn (f : Func) (concise : Bool) : Func :=
  if concise then { f with body := { f.body with stmts := Descent.returning f.body.stmts } } else f

/-- Replaces an expression whose parts are lowered. -/
def after (a : Around) (e : Expr) : Lower Expr := do
  match e with
  | .call _ (.super _) _ _ _ =>
      match a.afterSuper with
      | some n => return sequence [e, assign (.made n) this]
      | none => return e
  | .object s members => return objectSpread a s members
  | .await s e => return awaited a s e
  | .yield s true (some e) => return delegated a s e
  | .arrow f concise =>
      if replaces a f then asyncArrow a (withReturn f concise)
      else if a.lowers .arrow then return .function (withReturn f concise)
      else return e
  | .function f => if replaces a f then asyncExpression a f else return e
  | e => return e

end Lower

namespace Descent

variable (w : Descent) (a : Around)

/-- The callee of a call, which keeps its `this` through parentheses. -/
def callee (e : Expr) : Lower Expr :=
  match e with
  | .paren _ _ => w.expr (a.as .called) e
  | e => w.expr (a.as .plain) e

/-- Lowers the parts of an expression. -/
def exprParts (e : Expr) : Lower Expr := do
  let plain := w.expr (a.as .plain)
  match e with
  | .name id => return .name (← Lower.renamed id)
  | .this _ | .super _ | .null _ | .bool _ _ | .number _ _ _ | .bigint _ _ | .string _
  | .regex _ _ _ | .metaProperty _ _ _ => return e
  | .template t => return .template (← w.template a t)
  | .array s items => return .array s (← w.elements a items)
  | .object s members => return .object s (← members.mapM (w.property a))
  | .function f => return .function (← w.func a none f)
  | .arrow f concise => do
      let (f, concise) ← w.arrow a f concise
      return .arrow f concise
  | .classExpr c => Lower.leaveExpression a (← w.classParts a c false)
  | .unary s op e => return .unary s op (← plain e)
  | .update s op first t => return .update s op first (← w.pattern (a.as .plain) t)
  | .binary s op l r => return .binary s op (← plain l) (← plain r)
  | .privateIn s f e => return .privateIn s f (← plain e)
  | .conditional s t x y => return .conditional s (← plain t) (← plain x) (← plain y)
  | .assign s op t v => return .assign s op (← w.pattern (a.as .plain) t) (← plain v)
  | .sequence s es => return .sequence s (← w.exprs a es)
  | .call s f args optional isPure => return .call s (← w.callee a f) (← w.elements a args) optional isPure
  | .new s f args isPure => return .new s (← plain f) (← w.elements a args) isPure
  | .member s o f optional => return .member s (← plain o) f optional
  | .index s o k optional => return .index s (← plain o) (← plain k) optional
  | .privateMember s o f optional => return .privateMember s (← plain o) f optional
  | .chain s e => return .chain s (← plain e)
  | .tagged s t quasi => return .tagged s (← plain t) (← w.template a quasi)
  | .paren s e => return .paren s (← if a.part = .called then w.expr a e else plain e)
  | .yield s delegate e => return .yield s delegate (← w.expr? a e)
  | .await s e => return .await s (← plain e)
  | .importCall s phase source options =>
      return .importCall s phase (← plain source) (← w.expr? a options)

/-- Lowers an expression. -/
def exprRule (e : Expr) : Lower Expr := do
  Lower.after a (← w.exprParts a (← Lower.before a e))

/-! ### Patterns -/

def field (f : Field) : Lower Field := do
  let key ← w.key a f.key
  let value ← w.pattern a f.value
  return { f with key, value, shorthand := f.shorthand && bare value == bare f.value }
where
  /-- The name that a shorthand stands for. -/
  bare : Pattern → Option String
    | .name id | .withDefault _ (.name id) _ => some id.name
    | _ => none

/-- Lowers a pattern.  A place is read or written as a whole, so only its parts are lowered. -/
def patternRule : Pattern → Lower Pattern
  | .name id => return .name (← Lower.renamed id)
  | .place e => return .place (← w.exprParts a (← Lower.privatePlace a e))
  | .object s fields rest => do
      let fields ← fields.mapM (w.field a)
      return .object s fields (← rest.mapM (w.pattern a))
  | .array s items rest => do
      let items ← items.mapM fun i => i.mapM (w.pattern a)
      return .array s items (← rest.mapM (w.pattern a))
  | .withDefault s t e => do
      let t ← w.pattern a t
      return .withDefault s t (← w.expr (a.as .plain) e)
  | .decorated s marks t => do
      let marks ← w.exprs a marks
      return .decorated s marks (← w.pattern a t)

end Descent

end ModuleBundler
