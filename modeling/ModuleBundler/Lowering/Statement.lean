/-
ModuleBundler/Lowering/Statement.lean

Lowering a statement.  Loops over asynchronous iterators and blocks with `using` give
way to older statements first, and patterns with a rest to temporaries; then the parts
are lowered; then declarations of asynchronous functions and of classes are replaced.
-/
import ModuleBundler.Lowering.Expression

namespace ModuleBundler

namespace Lower

/-! ### Before the parts -/

/-- A loop over asynchronous iterators in older terms, the labels put back where the loop is. -/
def withoutForAwait (a : Around) (relabel : Stmt → Stmt) : Stmt → Lower (Option Stmt)
  | .forOf _ true h items body => do
      if !a.lowers .asyncGenerator then return none
      let (firsts, s) ← forAwait h items body relabel
      putBefore firsts
      return some s
  | .labeled s label body => withoutForAwait a (relabel ∘ .labeled s label) body
  | _ => return none

/-- The head of a loop over values and its body, without what the target does not know. -/
def olderLoop (a : Around) (h : ForHead) (body : Stmt) : Lower (ForHead × Stmt) := do
  let (h, handing) ← disposalHead h
  let (h, apart) ← restHead a h
  return (h, bodyAfter (handing ++ apart) body)

/-- A handler without what the target does not know. -/
def olderCatch (a : Around) (c : Catch) : Lower Catch := do
  match c.param with
  | none =>
      if !a.lowers .optionalCatch then return c
      return { c with param := some (.name (← fresh "unused")) }
  | some p =>
      let (p, apart) ← restCaught a p
      return { c with param := some p, stmts := apart ++ c.stmts }

/-- Replaces a statement whose parts are still to be lowered. -/
def beforeStmt (a : Around) (s : Stmt) : Lower Stmt := do
  let s := (← withoutForAwait a id s).getD s
  match s with
  | .block sp ss => disposalBlock sp ss
  | .switch sp v cases => disposalSwitch sp v cases
  | .forIn sp h e body =>
      let (h, body) ← olderLoop a h body
      return .forIn sp h e body
  | .forOf sp isAwait h e body =>
      let (h, body) ← olderLoop a h body
      return .forOf sp isAwait h e body
  | s => return s

/-- Replaces a declared function whose parts are lowered. -/
def afterDeclaration (a : Around) (f : Func) : Lower Func := do
  if !replaces a f then return f
  let (front, back) ← asyncDeclaration f
  putAfter [.funcDecl back]
  return front

/-- Replaces a statement whose parts are lowered. -/
def afterStmt (a : Around) (s : Stmt) : Lower Stmt := do
  match s with
  | .funcDecl f => return .funcDecl (← afterDeclaration a f)
  | s => return s

end Lower

namespace Descent

variable (w : Descent) (a : Around)

def declarator (d : Declarator) : Lower Declarator := do
  let target ← w.pattern (a.as .plain) d.target
  let part : Part := match d.target with
    | .name id => .declared id.name
    | _ => .plain
  return { d with target, value := ← d.value.mapM (w.expr (a.as part)) }

def declarators (ds : List Declarator) : Lower (List Declarator) := do
  (← Lower.restDeclarators a ds).mapM (w.declarator a)

def head : ForHead → Lower ForHead
  | .declare s kind ds => return .declare s kind (← w.declarators a ds)
  | .expr e => return .expr (← w.expr a e)
  | .target p => return .target (← w.pattern a p)

def handler (c : Catch) : Lower Catch := do
  let c ← Lower.olderCatch a c
  let param ← c.param.mapM (w.pattern a)
  return { c with param, stmts := ← w.blockStmts a c.stmts }

def case (c : Case) : Lower Case := do
  let test ← w.expr? a c.test
  return { c with test, stmts := ← w.stmts a.nested c.stmts }

/-- What a module exports as its default. -/
def standardExport : DefaultExport → Lower DefaultExport
  | .funcDecl f => return .funcDecl (← Lower.afterDeclaration a (← w.func a none f))
  | .classDecl c => return .classDecl (← Lower.leaveDeclaration a (← w.classParts a c true))
  | .expr e => return .expr (← w.expr (a.as .plain) e)

/-- A statement that stands in no list.  An expression there has no place for declarations. -/
def lone (s : Stmt) : Lower Stmt := do
  let outer := (← get).before
  let s' ← w.stmt a s
  match s with
  | .expr _ _ => modify fun d => { d with before := outer }
  | _ => pure ()
  return s'

/-- Lowers the parts of a statement. -/
def stmtParts (s : Stmt) : Lower Stmt := do
  let expr := w.expr (a.as .plain)
  let stmt := w.lone (a.as .plain)
  let inner := w.lone a.nested
  match s with
  | .expr sp e => return .expr sp (← Lower.withDeclared (expr e))
  | .block sp ss => return .block sp (← w.stmts a.nested ss)
  | .declare sp kind ds => return .declare sp kind (← w.declarators a ds)
  | .funcDecl f =>
      let f := { f with id := ← f.id.mapM Lower.renamed }
      return .funcDecl (← w.func a none f)
  | .classDecl c =>
      let c := { c with id := ← c.id.mapM Lower.renamed }
      return .classDecl (← Lower.leaveDeclaration a (← w.classParts a c true))
  | .ret sp e => return .ret sp (← w.expr? a e)
  | .cond sp t x y => do
      let t ← expr t
      let x ← stmt x
      return .cond sp t x (← y.mapM stmt)
  | .forLoop sp h t u b => do
      let h ← h.mapM (w.head a.nested)
      let t ← w.expr? a.nested t
      let u ← w.expr? a.nested u
      return .forLoop sp h t u (← inner b)
  | .forIn sp h e b => do
      let h ← w.head a.nested h
      let e ← expr e
      return .forIn sp h e (← inner b)
  | .forOf sp isAwait h e b => do
      let h ← w.head a.nested h
      let e ← expr e
      return .forOf sp isAwait h e (← inner b)
  | .whileLoop sp t b => do
      let t ← expr t
      return .whileLoop sp t (← stmt b)
  | .doWhile sp b t => do
      let b ← stmt b
      return .doWhile sp b (← expr t)
  | .switch sp v cases => do
      let v ← expr v
      return .switch sp v (← cases.mapM (w.case a))
  | .tryCatch sp bodySpan ss c finalSpan last => do
      let ss ← w.blockStmts a ss
      let c ← c.mapM (w.handler a)
      return .tryCatch sp bodySpan ss c finalSpan (← last.mapM (w.blockStmts a))
  | .throw sp e => return .throw sp (← expr e)
  | .labeled sp l b => return .labeled sp l (← stmt b)
  | .withObject sp e b => do
      let e ← expr e
      return .withObject sp e (← stmt b)
  | .exportDecl sp d => return .exportDecl sp (← w.stmt (a.as .plain) d)
  | .exportDefault sp v => return .exportDefault sp (← w.standardExport a v)
  | s => return s

/-- Lowers a statement. -/
def stmtRule (s : Stmt) : Lower Stmt := do
  let a := a.as .plain
  Lower.afterStmt a (← w.stmtParts a (← Lower.beforeStmt a s))

end Descent

end ModuleBundler
