/-
ModuleBundler/Lowering/Constructor.lean

The constructor of a class whose instances get their fields and their brand by
statements.

* The constructor of a class that inherits from none begins with the statements.
* Otherwise they follow the call of the inherited constructor.  If that call is part of
  a statement, a function at the head of the constructor makes it and goes on with
  the statements.  If the call stands among the parameters, which see nothing of
  the body, a function outside of the class takes over the instance.

The statements stand outside of the constructor in the text.  A name of the
constructor that they mean in its place is given a fresh one.
-/
import ModuleBundler.Lowering.PrivateMember

namespace ModuleBundler

open Build

/-! ### Calls of the inherited constructor -/

namespace Node

def isKey : Node → Bool
  | key _ => true
  | _ => false

/-- The node has a `this` of its own, keys aside. -/
def hasThis : Node → Bool
  | expr (.function _) | stmt (.funcDecl _) | value (.funcDecl _) | property (.method _ _ _ _)
  | member _ => true
  | _ => false

/-- The parts of a node that see the same `this`. -/
def samePlace (n : Node) : List Node :=
  (n.framed.map (·.2)).filter fun m => !n.hasThis || m.isKey

theorem size_samePlace {n m : Node} (h : m ∈ n.samePlace) : m.size < n.size := by
  simp only [samePlace, List.mem_filter, List.mem_map] at h
  obtain ⟨⟨x, hx, rfl⟩, -⟩ := h
  exact size_framed hx

/-- The inherited constructor is called in a node. -/
def callsSuper (n : Node) : Bool :=
  match n with
  | expr (.call _ (.super _) _ _ _) => true
  | n => n.samePlace.attach.any fun ⟨m, _⟩ => callsSuper m
termination_by n.size
decreasing_by exact size_samePlace (by assumption)

end Node

/-- The statement is nothing but a call of the inherited constructor. -/
def Stmt.isSuperCall : Stmt → Bool
  | .expr _ (.call _ (.super _) _ _ _) => true
  | _ => false

/-- The member is the constructor. -/
def Member.isConstructor : Member → Bool
  | .method _ _ s .method (.name id) _ => !s.isStatic && id.name == "constructor"
  | .method _ _ s .method (.literal (.string v)) _ => !s.isStatic && v.text == "constructor"
  | _ => false

/-! ### Names -/

/-- The frames of a function: that of its parameters and that of its body. -/
def Func.isFrame (f : Func) (g : Frame) : Bool :=
  (g.kind == .params && g.place == f.span.start) ||
    (g.kind == .body && g.place == f.body.span.start)

/-- The names that a node itself binds, with the places where they stand. -/
def Node.bound : Node → List Ident
  | .pattern true (.name id) => [id]
  | .field true ⟨_, _, .name id, true⟩ => [id]
  | .field true ⟨_, _, .withDefault _ (.name id) _, true⟩ => [id]
  | .stmt (.funcDecl f) => f.id.toList
  | .stmt (.classDecl c) => c.id.toList
  | _ => []

/-- The places where names of the function itself stand, bound or used. -/
def Func.ownNames (f : Func) : List Ident :=
  ((Node.func false f).walk default).flatMap fun (s, n) =>
    let bound := n.bound.filter fun id => (s.home? id.name).any f.isFrame
    let used := (n.own s).filter fun r => r.home.any f.isFrame
    bound ++ used.map (·.id)

/-- The names that an expression uses and does not bind. -/
def Expr.freeNames (e : Expr) : List String :=
  ((Node.references default (.expr e)).filter (·.home.isNone)).map (·.id.name)

namespace Lower

/-- Gives fresh names to those names of a function that some expressions use as names from outside
of it. -/
def renameApart (f : Func) (es : List Expr) : Lower Unit := do
  let free := es.flatMap (·.freeNames)
  let clashing := f.ownNames.filter fun id => free.contains id.name
  for id in clashing do
    if ((← get).renamed.lookup id.span.start).isNone then
      let new ← fresh id.name
      let places := (clashing.filter (·.name == id.name)).map fun i => (i.span.start, new.name)
      modify fun d => { d with renamed := d.renamed ++ places }

/-! ### Statements for an instance -/

/-- `var _super = (..._args) => (super(..._args), …, this);` -/
def superFunction (id args : Ident) (inits : List Expr) : Stmt :=
  let inherited : Expr :=
    .call .nowhere (.super .nowhere) [.spread .nowhere (.name args)] false false
  let value := sequence (inherited :: inits ++ [this])
  var id (.arrow (function none [] (some (.name args)) (body [expr value])) true)

/-- The initial values in the body of a constructor.  Where a function is called in place of the
inherited constructor, its name is kept. -/
def insertInits (depth : Nat) (derived : Bool) (inits : List Expr) (stmts : List Stmt) :
    Lower (List Stmt) := do
  if !derived then return inits.map expr ++ stmts
  let calls (s : Stmt) := (Node.stmt s).callsSuper
  let before := stmts.takeWhile (!calls ·)
  match stmts.dropWhile (!calls ·) with
  | [] => return before ++ inits.map expr
  | s :: rest =>
      if s.isSuperCall then return before ++ s :: inits.map expr ++ rest
      let id ← fresh "super"
      let args ← fresh "args"
      modifyClass depth fun c => { c with superCall := some (.inside id.name) }
      return superFunction id args inits :: stmts

/-- A constructor with the initial values. -/
def intoConstructor (depth : Nat) (derived : Bool) (inits : List Expr) (m : Member) :
    Lower Member := do
  match m with
  | .method s ds st kind k f =>
      if derived && f.params.any fun p => (Node.pattern true p).callsSuper then
        let id ← fresh "super"
        modifyClass depth fun c => { c with superCall := some (.outside id.name), taken := inits }
        return m
      renameApart f inits
      let stmts ← insertInits depth derived inits f.body.stmts
      return .method s ds st kind k { f with body := { f.body with stmts } }
  | m => return m

/-- A constructor with nothing but the initial values. -/
def newConstructor (derived : Bool) (inits : List Expr) : Lower Member := do
  let inits := inits.map expr
  let key : Key := .name (.made "constructor")
  if derived then
    let args ← fresh "args"
    let inherited := expr (.call .nowhere (.super .nowhere) [.spread .nowhere (.name args)] false false)
    return .method .nowhere [] {} .method key
      (function none [] (some (.name args)) (body (inherited :: inits)))
  return .method .nowhere [] {} .method key (function none [] none (body inits))

end Lower

end ModuleBundler
