/-
ModuleBundler/Lowering/PrivateMember.lean

Reading and writing private members of classes that are lowered.

A private field is kept in a weak map from instances to values, or, if it is static,
in an object with the one property `_`.  Private methods are functions beside the
class, and a weak set, the brand, knows the instances that have them.  So an access is
a call that checks the object first.  A declared class that is named as the object
needs no check.

In a chain the test before a private member is made on the spot, for what stands
for the access is no longer part of a chain.
-/
import ModuleBundler.Lowering.OptionalChain

namespace ModuleBundler

open Build

/-- A `?.` stands in the chain that ends with the expression. -/
def Expr.hasOptional : Expr → Bool
  | .member _ o _ optional | .privateMember _ o _ optional => optional || o.hasOptional
  | .index _ o _ optional => optional || o.hasOptional
  | .call _ f _ optional _ => optional || f.hasOptional
  | _ => false

namespace PrivateName

/-- The private name is reached through the brand of the class. -/
def isBranded (p : PrivateName) : Bool := p.kind != .field

/-- The functions of the getter and of the setter. -/
def accessors (p : PrivateName) : Option String × Option String :=
  match p.kind with
  | .getter => (some p.binding, p.second)
  | .setter => (p.second, some p.binding)
  | _ => (none, none)

end PrivateName

namespace Lower

/-! ### The classes around -/

def modifyClass (depth : Nat) (f : ClassDraft → ClassDraft) : Lower Unit :=
  modify fun d => { d with
    classes := d.classes.mapIdx fun i c => if i + depth = d.classes.length then f c else c }

def classAt (depth : Nat) : Lower ClassDraft := do
  let cs := (← get).classes
  return (cs[cs.length - depth]?).getD default

/-- How many classes are open. -/
def classDepth : Lower Nat := do return (← get).classes.length

/-- The temporary that holds a class, which is made when it is first asked for. -/
def classTemp (depth : Nat) : Lower Ident := do
  let c ← classAt depth
  match c.temp with
  | some t => return .made t
  | none =>
      let t ← fresh (c.name.getD "Class")
      modifyClass depth fun c => { c with temp := some t.name }
      return t

/-- What names a class outside of what is evaluated for it. -/
def className (depth : Nat) : Lower Expr := do
  let c ← classAt depth
  match c.name with
  | some n => if c.isDeclaration then return name n else return .name (← classTemp depth)
  | none => return .name (← classTemp depth)

/-- What names a class in the access to its static private members. -/
def brandName (depth : Nat) : Lower Expr := do
  let c ← classAt depth
  match c.name with
  | some n => if c.throughTemp then return .name (← classTemp depth) else return name n
  | none => return .name (← classTemp depth)

/-- The class that has a private name, by how many classes enclose it, and the private name. -/
def findPrivate (f : Ident) : Lower (Option (Nat × PrivateName)) := do
  let cs := (← get).classes
  return go f cs
where
  go (f : Ident) : List ClassDraft → Option (Nat × PrivateName)
    | [] => none
    | c :: rest =>
        match c.privates.find? (·.name == f.name) with
        | some p => if c.isLowered then some (rest.length + 1, p) else none
        | none => go f rest

/-! ### Access to private members -/

/-- The object is a declared class itself, by its name. -/
def isClassName (a : Around) (c : ClassDraft) : Expr → Bool
  | .name id => c.isDeclaration && c.name == some id.name && a.bindings.isClass id
  | _ => false

/-- What marks the instances of a class. -/
def brandOf (depth : Nat) : Lower Expr := do return name ((← classAt depth).brand.getD "")

/-- An object that is checked to have a private accessor, unless it is the class itself. -/
def checkedOwner (a : Around) (depth : Nat) (p : PrivateName) (o : Expr) : Lower Expr := do
  let c ← classAt depth
  if p.isStatic then
    if isClassName a c o then return o
    return helper "assertClassBrand" [← brandName depth, o]
  return helper "assertClassBrand" [← brandOf depth, o]

/-- Reads a private member of an object. -/
def readPrivate (a : Around) (depth : Nat) (p : PrivateName) (o : Expr) : Lower Expr := do
  let c ← classAt depth
  let direct := isClassName a c o
  match p.kind with
  | .field =>
      if p.isStatic then
        if direct then return member (name p.binding) "_"
        return member (helper "assertClassBrand" [← brandName depth, o, name p.binding]) "_"
      return helper "classPrivateFieldGet2" [name p.binding, o]
  | .method =>
      if p.isStatic && direct then return name p.binding
      let brand ← if p.isStatic then brandName depth else brandOf depth
      return helper "assertClassBrand" [brand, o, name p.binding]
  | .getter | .setter =>
      match p.accessors.1 with
      | some g => return call (member (name g) "call") [← checkedOwner a depth p o]
      | none => return sequence [o, helper "writeOnlyError" [string ("#" ++ p.name)]]

/-- Writes a private member of an object. -/
def writePrivate (a : Around) (depth : Nat) (p : PrivateName) (o v : Expr) : Lower Expr := do
  let c ← classAt depth
  let direct := isClassName a c o
  match p.kind with
  | .field =>
      if p.isStatic then
        let place := member (name p.binding) "_"
        if direct then return assignTo (.place place) v
        return assignTo (.place place) (helper "assertClassBrand" [← brandName depth, o, v])
      return helper "classPrivateFieldSet2" [name p.binding, o, v]
  | .method => return sequence [o, v, helper "readOnlyError" [string ("#" ++ p.name)]]
  | .getter | .setter =>
      match p.accessors.2 with
      | some g => return call (member (name g) "call") [← checkedOwner a depth p o, v]
      | none => return sequence [o, v, helper "readOnlyError" [string ("#" ++ p.name)]]

/-- An object as it is read first, and as it is read again. -/
def objectTwice (a : Around) (o : Expr) : Lower (Expr × Expr) := do
  match o with
  | .this _ => return (o, o)
  | .name id =>
      if a.bindings.isBound id then return (o, o)
      let t ← tempFor o
      return (assign t o, .name t)
  | _ =>
      let t ← tempFor o
      return (assign t o, .name t)

/-- `o.#f op= v` -/
def assignPrivate (a : Around) (depth : Nat) (p : PrivateName) (op : AssignOp) (o v : Expr) :
    Lower Expr := do
  match op with
  | .store => writePrivate a depth p o v
  | .compound op =>
      let (first, again) ← objectTwice a o
      if op.isLogical then
        return .binary .nowhere op (← readPrivate a depth p first) (← writePrivate a depth p again v)
      writePrivate a depth p first (.binary .nowhere op (← readPrivate a depth p again) v)

/-- `o.#f++` and `++o.#f` -/
def updatePrivate (a : Around) (depth : Nat) (p : PrivateName) (op : UpdateOp) (before : Bool)
    (f : Ident) (o : Expr) : Lower Expr := do
  let hint := (Expr.privateMember .nowhere o f false).hint
  let (first, again) ← objectTwice a o
  let t ← temp hint
  let read := assign t (← readPrivate a depth p again)
  if before then
    let next : Expr := .update .nowhere op true (.name t)
    writePrivate a depth p first (sequence [read, next])
  else
    let old ← temp hint
    let next := assign old (.update .nowhere op false (.name t))
    let write ← writePrivate a depth p first (sequence [read, next, .name t])
    return sequence [write, .name old]

/-- The place of a private member in a pattern: an object whose one property, when it is assigned,
writes the member. -/
def privatePlace (a : Around) (e : Expr) : Lower Expr := do
  match e with
  | .privateMember _ o f _ =>
      match ← findPrivate f with
      | none => return e
      | some (depth, p) =>
          let writer (args : List Expr) : Expr := member (helper "toSetter" args) "_"
          match p.kind, p.isStatic, p.accessors.2 with
          | .field, true, _ => readPrivate a depth p o
          | .field, false, _ =>
              let set := member (name "babelHelpers") "classPrivateFieldSet2"
              return writer [set, array [name p.binding, o]]
          | .getter, _, some g | .setter, _, some g =>
              return writer [call (member (name g) "bind") [← checkedOwner a depth p o]]
          | _, _, _ =>
              return member (sequence [o, helper "readOnlyError" [string ("#" ++ p.name)]]) "_"
  | e => return e

/-- Reads the last private member of a chain that has no `?.` before it. -/
def readInChain (a : Around) : Expr → Lower Expr
  | .call s (.privateMember t o f q) args optional isPure => do
      match ← findPrivate f with
      | some (depth, p) =>
          let (first, again) ← objectTwice a o
          let caller : Expr := .member .nowhere (← readPrivate a depth p first) (.made "call") optional
          return .call s caller (.item again :: args) false isPure
      | none => return .call s (← readInChain a (.privateMember t o f q)) args optional isPure
  | .privateMember s o f optional => do
      match ← findPrivate f with
      | some (depth, p) => readPrivate a depth p o
      | none => return .privateMember s (← readInChain a o) f optional
  | .member s o f optional => return .member s (← readInChain a o) f optional
  | .index s o k optional => return .index s (← readInChain a o) k optional
  | .call s f args optional isPure => return .call s (← readInChain a f) args optional isPure
  | e => return e

/-- The test before the last private member of a chain, and the chain after it.  A `?.` after the
private member is left for later. -/
def splitChain (a : Around) (inner : Expr) : Lower (Option (Option Expr × Expr)) := do
  match ← lastPrivate inner with
  | none => return none
  | some (p, rebuild) =>
      if !p.hasOptional then
        let read ← readInChain a inner
        return some (none, if read.hasOptional then .chain .nowhere read else read)
      let c ← Chain.read a p
      let whole := rebuild c.expr
      return some (c.test, if whole.hasOptional then .chain .nowhere whole else whole)
where
  /-- The last private member of a class that is lowered, and what stands after it. -/
  lastPrivate : Expr → Lower (Option (Expr × (Expr → Expr)))
    | .privateMember s o f optional => do
        if (← findPrivate f).isSome then return some (.privateMember s o f optional, id)
        return (← lastPrivate o).map fun (p, k) => (p, fun x => .privateMember s (k x) f optional)
    | .member s o f optional => do
        return (← lastPrivate o).map fun (p, k) => (p, fun x => .member s (k x) f optional)
    | .index s o key optional => do
        return (← lastPrivate o).map fun (p, k) => (p, fun x => .index s (k x) key optional)
    | .call s f args optional isPure => do
        return (← lastPrivate f).map fun (p, k) => (p, fun x => .call s (k x) args optional isPure)
    | _ => return none

/-- A chain that reads a private member.  In parentheses that are called it keeps its `this`. -/
def privateChain (a : Around) (span : Span) (inner : Expr) : Lower (Option Expr) := do
  match ← splitChain a inner with
  | none => return none
  | some (none, rest) => return some rest
  | some (some test, rest) =>
      let last ← if a.part = .called then Chain.bound a rest else pure rest
      return some (.conditional span test undefined last)

/-- `delete` of a chain that reads a private member. -/
def privateDelete (a : Around) (span : Span) (inner : Expr) : Lower (Option Expr) := do
  match ← splitChain a inner with
  | none => return none
  | some (none, rest) => return some (.unary span .delete rest)
  | some (some test, rest) =>
      return some (.conditional .nowhere test (.bool .nowhere true) (.unary span .delete rest))

/-- Replaces the use of a private member. -/
def privateAccess (a : Around) (e : Expr) : Lower Expr := do
  match e with
  | .privateMember _ o f false =>
      match ← findPrivate f with
      | some (depth, p) => readPrivate a depth p o
      | none => return e
  | .call s (.privateMember _ o f false) args false isPure =>
      match ← findPrivate f with
      | some (depth, p) =>
          let (first, again) ← objectTwice a o
          let read ← readPrivate a depth p first
          return .call s (member read "call") (.item again :: args) false isPure
      | none => return e
  | .assign _ op (.place (.privateMember _ o f _)) v =>
      match ← findPrivate f with
      | some (depth, p) => assignPrivate a depth p op o v
      | none => return e
  | .update _ op before (.place (.privateMember _ o f _)) =>
      match ← findPrivate f with
      | some (depth, p) => updatePrivate a depth p op before f o
      | none => return e
  | .privateIn _ f o =>
      match ← findPrivate f with
      | some (depth, p) =>
          let checked := helper "checkInRHS" [o]
          if p.isStatic then return binary .same checked (← brandName depth)
          let c ← classAt depth
          let keeper := if p.isBranded then c.brand.getD "" else p.binding
          return call (member (name keeper) "has") [checked]
      | none => return e
  | .tagged s (.privateMember _ o f false) t =>
      match ← findPrivate f with
      | some (depth, p) =>
          let (first, again) ← objectTwice a o
          return .tagged s (call (member (← readPrivate a depth p first) "bind") [again]) t
      | none => return e
  | .chain s inner => return (← privateChain a s inner).getD e
  | .unary s .delete target =>
      match target.strip with
      | .chain _ inner => return (← privateDelete a s inner).getD e
      | _ => return e
  | e => return e

end Lower

end ModuleBundler
