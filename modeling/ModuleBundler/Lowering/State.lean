/-
ModuleBundler/Lowering/State.lean

What the lowering of a program keeps as it goes through the tree (`Draft`), and
what it knows of the place at hand (`Around`).

* Fresh names, and the temporaries to be declared at the head of each open list of
  statements.
* Statements to be put before and after the statement at hand, and at the head of the
  program.
* For each open function, the names that stand for its `this` and `arguments`, which
  an inner function that replaces an asynchronous one cannot see.
* The classes around the place at hand whose members are lowered.
* Diagnostics: what has no counterpart on the target.
-/
import Std.Data.HashMap
import ModuleBundler.Lowering.FreshName
import ModuleBundler.Lowering.NameHint
import ModuleBundler.Lowering.Target
import ModuleBundler.Module.Reference
import ModuleBundler.Syntax.Diagnostic

namespace ModuleBundler

/-! ### Names of the program -/

/-- What is known of a name that is bound. -/
structure Bound where
  /-- Something other than its declaration assigns to the name. -/
  isAssigned : Bool
  /-- The name is that of a class. -/
  isClass : Bool
deriving DecidableEq, Inhabited, Repr

/-- The bound references of a program, by the place where they begin. -/
abbrev Bindings := Std.HashMap Nat Bound

namespace Bindings

/-- What is bound by the references of a program, given the names of its classes, each with the
frame that declares it. -/
def ofReferences (rs : List Reference) (classes : List (String × Option Frame)) : Bindings :=
  let assigned := (rs.filter fun r => r.writes && r.home.isSome).map fun r => (r.id.name, r.home)
  rs.foldl (fun m r =>
    let key := (r.id.name, r.home)
    if r.home.isSome then m.insert r.id.span.start ⟨assigned.contains key, classes.contains key⟩
    else m) {}

/-- A name is declared in the program.  Names that the lowering made are. -/
def isBound (b : Bindings) (id : Ident) : Bool := id.span == .nowhere || b.contains id.span.start

/-- Reading the name twice gives the same value and has no effect. -/
def isConstant (b : Bindings) (id : Ident) : Bool :=
  id.span == .nowhere || (b.get? id.span.start).any (!·.isAssigned)

/-- The name is that of a class. -/
def isClass (b : Bindings) (id : Ident) : Bool :=
  id.span != .nowhere && (b.get? id.span.start).any (·.isClass)

/-- Reading the expression twice gives the same value and has no effect. -/
def isStatic (b : Bindings) : Expr → Bool
  | .this _ | .super _ => true
  | .name id => b.isConstant id
  | _ => false

end Bindings

/-! ### Classes -/

inductive PrivateKind where
  | field | method | getter | setter
deriving DecidableEq, Inhabited, Repr

/-- A private name of a class, and what holds its values. -/
structure PrivateName where
  name : String
  isStatic : Bool
  kind : PrivateKind
  /-- What holds a field, or the function of a method or getter. -/
  binding : String
  /-- The function of the setter beside a getter, or of the getter beside a setter. -/
  second : Option String
deriving Inhabited, Repr

/-- What is called in place of the inherited constructor. -/
inductive SuperCall where
  /-- A function that calls it. -/
  | inside (name : String)
  /-- A function that takes over the instance that it gives. -/
  | outside (name : String)
deriving DecidableEq, Inhabited, Repr

structure ClassDraft where
  isDeclaration : Bool
  /-- Some member is lowered. -/
  isLowered : Bool := false
  name : Option String
  /-- The temporary that holds the class. -/
  temp : Option String := none
  /-- The temporary is declared already. -/
  tempDeclared : Bool := false
  /-- What marks the instances that have the private methods. -/
  brand : Option String := none
  privates : List PrivateName := []
  /-- Static private members are reached through the temporary. -/
  throughTemp : Bool := false
  /-- What the constructor calls in place of the inherited one. -/
  superCall : Option SuperCall := none
  /-- The initial values of the function outside of the class that takes over an instance. -/
  taken : List Expr := []
  /-- The statements to follow the class. -/
  following : List Stmt := []
  /-- The expressions to be evaluated before and after the class. -/
  exprsBefore : List Expr := []
  exprsAfter : List Expr := []
deriving Inhabited

/-! ### The draft -/

/-- A read or write of a property of `super`, by a function with a name.  Without a field the
property is a parameter of the function. -/
structure SuperAccess where
  field : Option String
  writes : Bool
  name : String
deriving DecidableEq, Inhabited, Repr

/-- What an open function is asked for by the functions inside it. -/
structure Capture where
  this : Option String := none
  arguments : Option String := none
  supers : List SuperAccess := []
deriving Inhabited

/-- A temporary to be declared. -/
structure Temp where
  kind : Declare
  name : String
  value : Option Expr := none
deriving Inhabited

structure Draft where
  names : FreshNames
  /-- The temporaries of each open list of statements, the last first. -/
  temps : List (List Temp) := []
  before : List Stmt := []
  after : List Stmt := []
  /-- Declarations to be put before the expression statement at hand. -/
  declared : List Stmt := []
  /-- Statements at the head of the program. -/
  head : List Stmt := []
  /-- Lists of property names that are kept at the head of the program. -/
  excluded : List Declarator := []
  captures : List Capture := []
  classes : List ClassDraft := []
  /-- New names for some names of the program, by the places where they stand. -/
  renamed : List (Nat × String) := []
  /-- Parameters are being read, and no function has been met among them. -/
  inParameters : Bool := false
  /-- What has no counterpart, by the place where it stands, the last first. -/
  errors : List (Nat × Diagnostic) := []
deriving Inhabited

abbrev Lower := StateM Draft

namespace Lower

/-- A fresh name after a hint. -/
def fresh (hint : String) : Lower Ident := do
  let (name, names) := (← get).names.fresh hint
  modify fun d => { d with names }
  return .made name

/-- Declares a temporary at the head of the statements at hand. -/
def declareTemp (t : Temp) : Lower Unit :=
  modify fun d => { d with
    temps := match d.temps with
      | inner :: outer => (t :: inner) :: outer
      | [] => [[t]] }

def declare (id : Ident) : Lower Unit := declareTemp { kind := .hoisted, name := id.name }

/-- A temporary after a hint. -/
def temp (hint : String) : Lower Ident := do
  let id ← fresh hint
  declare id
  return id

/-- A temporary for the value of an expression. -/
def tempFor (e : Expr) : Lower Ident := temp e.hint

def putBefore (stmts : List Stmt) : Lower Unit :=
  modify fun d => { d with before := d.before ++ stmts }

def putAfter (stmts : List Stmt) : Lower Unit :=
  modify fun d => { d with after := d.after ++ stmts }

/-- Puts a declaration before the expression statement around the place, if there is one. -/
def declareBefore (names : List Declarator) : Lower Unit :=
  if names.isEmpty then return ()
  else modify fun d => { d with declared := d.declared ++ [.declare .nowhere .hoisted names] }

/-- The lowering of an expression statement, with the declarations asked for inside it. -/
def withDeclared {α : Type} (step : Lower α) : Lower α := do
  let outer := (← get).declared
  modify fun d => { d with declared := [] }
  let x ← step
  putBefore (← get).declared
  modify fun d => { d with declared := outer }
  return x

/-- Notes what stands at a place and has no counterpart, once for each place. -/
def complain (place : Nat) (e : Diagnostic) : Lower Unit := modify fun d =>
  if d.errors.any (·.1 == place) then d else { d with errors := (place, e) :: d.errors }

/-- A name of the program, which may have a new one. -/
def renamed (id : Ident) : Lower Ident := do
  if id.span == .nowhere then return id
  match (← get).renamed.lookup id.span.start with
  | some name => return { id with name }
  | none => return id

/-- A step with a list of statements open; gives the temporaries that it declared. -/
def opening {α : Type} (step : Lower α) : Lower (α × List Temp) := do
  modify fun d => { d with temps := [] :: d.temps }
  let a ← step
  let mine := (← get).temps.headD []
  modify fun d => { d with temps := d.temps.drop 1 }
  return (a, mine.reverse)

/-- A step with a function open; gives what was asked of the function. -/
def capturing {α : Type} (step : Lower α) : Lower (α × Capture) := do
  modify fun d => { d with captures := {} :: d.captures }
  let a ← step
  let mine := (← get).captures.headD {}
  modify fun d => { d with captures := d.captures.drop 1 }
  return (a, mine)

end Lower

/-! ### The place at hand -/

/-- What encloses a place, as far as `this` and `await` go. -/
inductive Enclosure where
  | method (isAsync isGenerator : Bool)
  | function (isAsync isGenerator : Bool)
  | arrow (isAsync : Bool)
  | field
  | staticBlock
deriving DecidableEq, Inhabited, Repr

/-- The role of an expression in what it is a part of. -/
inductive Part where
  | plain
  /-- The initial value of a declared name. -/
  | declared (name : String)
  /-- The value of a property with a fixed name. -/
  | property (name : String)
  /-- The default of a parameter. -/
  | parameter
  /-- What is called, in parentheses. -/
  | called
deriving DecidableEq, Inhabited, Repr

/-- What `this` and `super` are in the code of a class once members have been taken out of it. -/
inductive Receiver where
  /-- What they were. -/
  | same
  /-- `this` is the class. -/
  | theClass
  /-- `this` is what it was, and `super` that of the methods of the class, or of its instances. -/
  | ofMethod (isStatic : Bool)
deriving DecidableEq, Inhabited, Repr

structure Around where
  target : Target
  bindings : Bindings
  enclosures : List Enclosure := []
  part : Part := .plain
  /-- At the top of the program, in no block or function. -/
  atTop : Bool := true
  /-- Inside of what is taken out of a class: how many classes enclose it, that one included. -/
  outOf : Option Nat := none
  /-- `this` and `super` in what is taken out of the class. -/
  receiver : Receiver := .same
  /-- What stands for the inherited constructor. -/
  superCall : Option SuperCall := none
  /-- The variable that is `this` once the inherited constructor has been called. -/
  afterSuper : Option String := none
deriving Inhabited

namespace Around

def lowers (a : Around) (f : Feature) : Bool := a.target.lowers f

def inside (a : Around) (e : Enclosure) : Around :=
  let keepsThis := match e with
    | .arrow _ => true
    | _ => false
  { a with
    enclosures := e :: a.enclosures, part := .plain, atTop := false
    receiver := if keepsThis then a.receiver else .same
    superCall := if keepsThis then a.superCall else none
    afterSuper := if keepsThis then a.afterSuper else none }

def as (a : Around) (p : Part) : Around := { a with part := p }

def nested (a : Around) : Around := { a with part := .plain, atTop := false }

/-- Asynchronous functions, or asynchronous generators, are replaced by generators. -/
def replacesAsync (a : Around) : Bool := a.lowers .asyncFunction || a.lowers .asyncGenerator

/-- `arguments` and `super` at the place belong to a function that does not enclose the place any
more once asynchronous arrow functions and methods are replaced. -/
def losesSuper (a : Around) : Bool :=
  a.replacesAsync && asyncLoses a.enclosures
where
  asyncLoses : List Enclosure → Bool
    | .arrow true :: _ => true
    | .arrow false :: rest => asyncLoses rest
    | .method true _ :: _ => true
    | _ => false

/-- `this` at the place belongs to a function that does not enclose the place any more once
asynchronous functions, or all arrow functions, are replaced. -/
def losesThis (a : Around) : Bool :=
  if a.lowers .arrow then arrowLoses a.enclosures else a.losesSuper
where
  arrowLoses : List Enclosure → Bool
    | .arrow _ :: _ => true
    | _ => false

end Around

end ModuleBundler
