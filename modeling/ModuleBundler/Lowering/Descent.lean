/-
ModuleBundler/Lowering/Descent.lean

The parts of a tree that can contain one another, in lowering.  A `Descent` lowers
expressions, patterns and statements that stand a level deeper.  Everything else is
an ordinary function of a `Descent`; the levels are tied together in
`ModuleBundler.Lowering.Program`.

This module has what stands between the levels: lists of statements, keys,
elements, properties and functions.

A list of statements is the place for temporaries: those that its statements ask for
are declared at its head.
-/
import ModuleBundler.Lowering.AsyncFunction
import ModuleBundler.Lowering.Capture
import ModuleBundler.Lowering.Disposal
import ModuleBundler.Lowering.ObjectRest

namespace ModuleBundler

/-- The lowering of what lies one level deeper. -/
structure Descent where
  expr : Around → Expr → Lower Expr
  pattern : Around → Pattern → Lower Pattern
  stmt : Around → Stmt → Lower Stmt

namespace Descent

/-- Leaves everything as it is. -/
def idle : Descent where
  expr _ e := pure e
  pattern _ p := pure p
  stmt _ s := pure s

variable (w : Descent) (a : Around)

/-! ### Statements in a row -/

/-- A statement with those put before and after it. -/
def stmtAmong (s : Stmt) : Lower (List Stmt) := do
  let outer ← get
  set { outer with before := [], after := [] }
  let s ← w.stmt a s
  let inner ← get
  set { inner with before := outer.before, after := outer.after }
  return inner.before ++ s :: inner.after

/-- The statements of a list.  Where `this` is awaited, it is kept right after a statement that calls
the inherited constructor. -/
def inRow (ss : List Stmt) : Lower (List Stmt) := do
  let plain (ss : List Stmt) (b : Around) := do return (← ss.mapM (w.stmtAmong b)).flatten
  match a.afterSuper, ss.dropWhile (!·.isSuperCall) with
  | some n, s :: rest =>
      let after := { a with afterSuper := none }
      let before ← plain (ss.takeWhile (!·.isSuperCall)) a
      let s ← plain [s] after
      return before ++ s ++ Build.expr (Build.assign (.made n) Build.this) :: (← plain rest after)
  | _, _ => plain ss a

/-- The statements of a list, with their temporaries at its head. -/
def stmts (ss : List Stmt) : Lower (List Stmt) := do
  let (ss, temps) ← Lower.opening (w.inRow a ss)
  return Temp.declarations temps ++ ss

/-- The statements of a block or body, with their disposal. -/
def blockStmts (ss : List Stmt) : Lower (List Stmt) := do
  w.stmts a.nested (← Lower.withDisposal ss)

/-! ### Parts of expressions -/

def element : Element → Lower Element
  | .hole s => return .hole s
  | .item e => return .item (← w.expr (a.as .plain) e)
  | .spread s e => return .spread s (← w.expr (a.as .plain) e)

def elements (es : List Element) : Lower (List Element) := es.mapM (w.element a)

def exprs (es : List Expr) : Lower (List Expr) := es.mapM (w.expr (a.as .plain))

def expr? (e : Option Expr) : Lower (Option Expr) := e.mapM (w.expr (a.as .plain))

def template (t : Template) : Lower Template := do return { t with exprs := ← w.exprs a t.exprs }

def key : Key → Lower Key
  | .literal e => return .literal (← w.expr (a.as .plain) e)
  | .computed e => return .computed (← w.expr (a.as .plain) e)
  | k => return k

/-- The name that a key is known to have. -/
def fixedName? : Key → Option String
  | .name id => some id.name
  | .literal (.string v) | .computed (.string v) => some v.text
  | .literal (.number _ n _) | .computed (.number _ n _) => some n.text
  | _ => none

/-- The role of the value of a property. -/
def partOf (k : Key) : Part :=
  match fixedName? k with
  | some n => .property n
  | none => .plain

/-! ### Functions -/

def parameter : Pattern → Lower Pattern
  | .withDefault s t e => do
      let t ← w.pattern (a.as .plain) t
      return .withDefault s t (← w.expr (a.as .parameter) e)
  | .decorated s marks (.withDefault t p e) => do
      let marks ← w.exprs a marks
      let p ← w.pattern (a.as .plain) p
      return .decorated s marks (.withDefault t p (← w.expr (a.as .parameter) e))
  | p => w.pattern (a.as .plain) p

/-- The parameters of a function, in the surroundings of its inside. -/
def parameters (ps : List Pattern) (rest : Option Pattern) :
    Lower (List Pattern × Option Pattern) := do
  modify fun d => { d with inParameters := true }
  let ps ← ps.mapM (w.parameter a)
  let rest ← rest.mapM (w.pattern (a.as .plain))
  modify fun d => { d with inParameters := false }
  return (ps, rest)

/-- A method, as far as its class matters to its inside. -/
structure Method where
  superCall : Option SuperCall := none
  /-- The constructor of a class that inherits. -/
  isDerived : Bool := false
  receiver : Receiver := .same

/-- The parts of a function that is no arrow function, and what it was asked for. -/
def funcInside (m : Option Method) (afterSuper : Option String) (f : Func) (firsts : List Stmt) :
    Lower (Func × Capture) := do
  let own := m.getD {}
  let place : Enclosure :=
    if m.isSome then .method f.isAsync f.isGenerator else .function f.isAsync f.isGenerator
  let within (e : Enclosure) :=
    { a.inside e with superCall := own.superCall, receiver := own.receiver }
  Lower.capturing do
    let (params, rest) ← w.parameters (within (.function f.isAsync f.isGenerator)) f.params f.rest
    let stmts ← w.blockStmts { within place with afterSuper } (firsts ++ f.body.stmts)
    return { f with params, rest, body := { f.body with stmts } }

/-- A function that is no arrow function.  The constructor of a class that inherits is read again
once it is known that something inside asks for its `this`. -/
def func (m : Option Method) (f : Func) : Lower Func := do
  let (params, firsts) ← Lower.restParameters a f.params
  let f := { f with params }
  let outer ← get
  let first ← w.funcInside a m none f firsts
  let isDerived := (m.getD {}).isDerived
  let (f, asked) ← match isDerived, first.2.this with
    | true, some n => do
        set outer
        w.funcInside a m (some n) f firsts
    | _, _ => pure first
  let f ← if m.isSome && Lower.replaces a f then Lower.asyncMethod f else pure f
  let kept ← Lower.declareCaptured { a with receiver := (m.getD {}).receiver }
    (if isDerived then .derived else .function) asked
  return { f with body := { f.body with stmts := kept ++ f.body.stmts } }

/-- The body of an arrow function of one expression, as statements. -/
def returning : List Stmt → List Stmt
  | [.expr s e] => [.ret s (some e)]
  | ss => ss

/-- An arrow function, and whether it is one expression.  What is declared before the expression makes
it a body that returns it; what takes the parameters apart makes it a statement of the body. -/
def arrow (f : Func) (concise : Bool) : Lower (Func × Bool) := do
  let (params, firsts) ← Lower.restParameters a f.params
  let inner := a.inside (.arrow f.isAsync)
  let (params, rest) ← w.parameters inner params f.rest
  let stmts ← w.blockStmts inner (firsts ++ f.body.stmts)
  let f := { f with params, rest }
  let concise := concise && firsts.isEmpty
  let isOne := concise && stmts.length = 1
  let stmts := if concise && !isOne then stmts.dropLast ++ returning (stmts.drop (stmts.length - 1))
    else stmts
  return ({ f with body := { f.body with stmts } }, isOne)

/-! ### Objects -/

def property : Property → Lower Property
  | .keyed s k v true => do
      let v' ← w.expr (a.as .plain) v
      match v, v' with
      | .name old, .name new => return .keyed s k v' (old.name == new.name)
      | _, _ => return .keyed s k v' false
  | .keyed s k v false => do
      let k ← w.key a k
      return .keyed s k (← w.expr (a.as (partOf k)) v) false
  | .method s kind k f => do
      let k ← w.key a k
      return .method s kind k (← w.func a (some {}) f)
  | .spread s e => return .spread s (← w.expr (a.as .plain) e)

/-! ### Classes -/

/-- A step inside of what is evaluated once for the class, whose static private members are
reached through its temporary.  Gives the declarations of what was asked for inside. -/
def onceForClass {α : Type} (depth : Nat) (step : Around → Lower α) (e : Enclosure) :
    Lower (α × List Stmt) := do
  let c ← Lower.classAt depth
  let inner := a.inside e
  let inner := if c.isLowered then { inner with outOf := some depth, receiver := .theClass } else inner
  Lower.modifyClass depth fun d => { d with throughTemp := c.throughTemp || c.isLowered }
  let (r, asked) ← Lower.capturing (step inner)
  Lower.modifyClass depth fun d => { d with throughTemp := c.throughTemp }
  return (r, ← Lower.declareCaptured inner .function asked)

/-- A value after declarations, as one expression. -/
def valueAfter (kept : List Stmt) (v : Expr) : Expr :=
  if kept.isEmpty then v
  else
    let f := Build.function none [] none (Build.body (kept ++ [Build.ret v]))
    Build.call (.arrow f false) []

/-- A private method, which is taken out of its class. -/
def privateMethod (depth : Nat) (traits : Traits) (f : Func) : Lower Func := do
  let c ← Lower.classAt depth
  Lower.modifyClass depth fun d => { d with throughTemp := true }
  let f ← w.func { a with outOf := some depth } (some { receiver := .ofMethod traits.isStatic }) f
  Lower.modifyClass depth fun d => { d with throughTemp := c.throughTemp }
  return f

def member (depth : Nat) (derived : Bool) (m : Member) : Lower Member := do
  let draft ← Lower.classAt depth
  match m with
  | .method s ds traits kind (.privateName id) f =>
      let ds ← w.exprs a ds
      let f ← if draft.isLowered then w.privateMethod a depth traits f else w.func a (some {}) f
      return .method s ds traits kind (.privateName id) f
  | .method s ds traits kind k f =>
      let role : Method :=
        if m.isConstructor then { superCall := draft.superCall, isDerived := derived } else {}
      let ds ← w.exprs a ds
      let k ← w.key a k
      return .method s ds traits kind k (← w.func a (some role) f)
  | .field s ds traits accessor k v =>
      let ds ← w.exprs a ds
      let k ← w.key a k
      let v ← if traits.isStatic then do
          let (v, kept) ← onceForClass a depth (fun b => v.mapM (w.expr b)) .field
          pure (v.map (valueAfter kept))
        else v.mapM (w.expr (a.inside .field))
      return .field s ds traits accessor k v
  | .block s ss => do
      let (ss, kept) ← onceForClass a depth (w.blockStmts · ss) .staticBlock
      return .block s (kept ++ ss)

/-- The function outside of a class that takes over an instance. -/
def superOutside (depth : Nat) : Lower Unit := do
  let c ← Lower.classAt depth
  match c.superCall with
  | some (.outside name) =>
      let inits ← c.taken.mapM (w.expr (a.inside (.function false false)))
      let f := Build.function none [] none
        (Build.body (inits.map Build.expr ++ [Build.ret Build.this]))
      Lower.declareTemp { kind := .mutable, name, value := some (.function f) }
  | _ => return ()

/-- The parts of a class, which is opened and must be closed. -/
def classParts (c : Class) (isDeclaration : Bool) : Lower Class := do
  let decorators ← w.exprs a c.decorators
  let heritage ← w.expr? a c.heritage
  let c ← Lower.enterClass a { c with decorators, heritage } isDeclaration
  let depth ← Lower.classDepth
  w.superOutside a depth
  return { c with members := ← c.members.mapM (w.member a depth heritage.isSome) }

end Descent

end ModuleBundler
