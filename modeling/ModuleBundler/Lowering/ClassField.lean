/-
ModuleBundler/Lowering/ClassField.lean

Fields, private members and static blocks of classes.

* The fields of instances are defined in the constructor, which is made if there is
  none.
* What is static is evaluated after the class, in order.  There `this` and the name of
  the class stand for a temporary.
* Private methods become functions beside the class, where the name of the class stands for the
  temporary as well.

A declaration is followed by the statements made for it.  An expression becomes a
sequence, which ends with the class.
-/
import ModuleBundler.Lowering.Constructor

namespace ModuleBundler.Lower

open Build

/-! ### Entering a class -/

/-- The key of a public field as a value. -/
def keyValue : Key → Expr
  | .name id | .privateName id => string id.name
  | .literal e | .computed e => e

/-- The value of the key may change, or evaluating it may have an effect. -/
def keyNeedsTemp (a : Around) : Expr → Bool
  | .name id => !a.bindings.isConstant id
  | e => !isFixed e

/-- A computed key as the assignment to a temporary, and as the temporary, if it needs one. -/
def keptKey (a : Around) (k : Key) : Lower (Key × Key) := do
  match k with
  | .computed e =>
      if !keyNeedsTemp a e then return (k, k)
      let id ← fresh e.hint
      declareTemp { kind := .mutable, name := id.name }
      return (.computed (assign id e), .computed (.name id))
  | k => return (k, k)

/-- Evaluates the assignment of a key before the class.  An assignment always needs a temporary, so
no key but a kept one is an assignment. -/
def evaluateBefore (depth : Nat) (k : Key) : Lower Unit := do
  match k with
  | .computed e@(.assign _ _ _ _) =>
      modifyClass depth fun c => { c with exprsBefore := c.exprsBefore ++ [e] }
  | _ => return ()

/-- A key that is evaluated before the class if need be. -/
def settledKey (a : Around) (depth : Nat) (k : Key) : Lower Key := do
  let (now, later) ← keptKey a k
  evaluateBefore depth now
  return later

/-- Adds a private name, or the second half of a pair of accessors. -/
def addPrivate (ps : List PrivateName) (p : PrivateName) : List PrivateName :=
  if ps.any (·.name == p.name) then
    ps.map fun q => if q.name == p.name then { q with second := some p.binding } else q
  else ps ++ [p]

/-- The private names of a class. -/
def privateNames : List PrivateName → List Member → Lower (List PrivateName)
  | ps, [] => pure ps
  | ps, .field _ _ traits false (.privateName id) _ :: rest => do
      let b ← fresh id.name
      privateNames (addPrivate ps ⟨id.name, traits.isStatic, .field, b.name, none⟩) rest
  | ps, .method _ _ traits kind (.privateName id) _ :: rest => do
      let (k, hint) : PrivateKind × String := match kind with
        | .method => (.method, id.name)
        | .getter => (.getter, "get_" ++ id.name)
        | .setter => (.setter, "set_" ++ id.name)
      let b ← fresh hint
      privateNames (addPrivate ps ⟨id.name, traits.isStatic, k, b.name, none⟩) rest
  | ps, _ :: rest => privateNames ps rest

/-- The private name of a member of a class that is kept. -/
def privateName? : Member → Option PrivateName
  | .field _ _ s _ (.privateName id) _ => some ⟨id.name, s.isStatic, .field, "", none⟩
  | .method _ _ s _ (.privateName id) _ => some ⟨id.name, s.isStatic, .method, "", none⟩
  | _ => none

def isField (isStatic : Bool) : Member → Bool
  | .field _ _ s false _ _ => s.isStatic == isStatic
  | _ => false

def isInstanceMethod : Member → Bool
  | .method _ _ s _ (.privateName _) _ => !s.isStatic
  | _ => false

def isStaticMethodOrBlock : Member → Bool
  | .method _ _ s _ (.privateName _) _ => s.isStatic
  | .block _ _ => true
  | _ => false

/-- What defines a field of an instance. -/
def fieldInit (p : List PrivateName) (k : Key) (v : Option Expr) : Expr :=
  let value := v.getD undefined
  match k with
  | .privateName id =>
      let b := ((p.find? (·.name == id.name)).map (·.binding)).getD ""
      helper "classPrivateFieldInitSpec" [this, name b, value]
  | k => helper "defineProperty" [this, keyValue k, value]

/-- Takes the initial values out of the fields of instances.  Their computed keys become
assignments, which are taken out when the class is left. -/
def takeInits (a : Around) (ps : List PrivateName) : List Member → Lower (List Member × List Expr)
  | [] => pure ([], [])
  | m :: rest => do
      let (m, own) ← match m with
        | .field s ds traits false k v => do
            if traits.isStatic then pure (m, [])
            else
              let (now, later) ← keptKey a k
              pure (.field s ds traits false now none, [fieldInit ps later v])
        | m => pure (m, [])
      let (members, inits) ← takeInits a ps rest
      return (m :: members, own ++ inits)

/-! ### Static blocks alone -/

/-- The statements of a static block as one expression. -/
def blockValue : List Stmt → Expr
  | [.expr _ e] => e
  | stmts => call (.arrow (function none [] none (body stmts)) false) []

/-- Numbers for private names that begin with an underscore.  The first has none. -/
def unusedNames (used : List String) : List String :=
  ((List.range (used.length + 2)).map fun i => if i = 0 then "_" else "_" ++ toString (i + 1)).filter
    (!used.contains ·)

/-- Static blocks as the values of private fields. -/
def blocksAsFields (members : List Member) : List Member :=
  go (members.filterMap fun m => (privateName? m).map (·.name)) members
where
  go (used : List String) : List Member → List Member
    | [] => []
    | .block _ stmts :: rest =>
        let name := (unusedNames used).headD "_"
        .field .nowhere [] { isStatic := true } false (.privateName (.made name))
          (some (blockValue stmts)) :: go (name :: used) rest
    | m :: rest => m :: go used rest

/-! ### Opening -/

/-- Opens a class: names what is private, and moves the values of fields into the constructor. -/
def enterClass (a : Around) (c : Class) (isDeclaration : Bool) : Lower Class := do
  let plain : ClassDraft :=
    { isDeclaration, name := c.id.map (·.name) }
  let hasStatic := c.members.any (isField true)
  let hasFields := c.members.any (isField false)
  let hasMethods := c.members.any isInstanceMethod
  let needed := a.lowers .classField &&
    (hasStatic || hasFields || hasMethods || c.members.any isStaticMethodOrBlock)
  if !needed then
    let privates := c.members.filterMap privateName?
    modify fun d => { d with classes := { plain with privates } :: d.classes }
    return { c with members := if a.lowers .staticBlock then blocksAsFields c.members else c.members }
  let privates ← privateNames [] c.members
  let named := { plain with isLowered := true, privates, throughTemp := !isDeclaration }
  modify fun d => { d with classes := named :: d.classes }
  let depth ← classDepth
  if hasStatic && (!isDeclaration || c.id.isNone) then
    let t ← classTemp depth
    declare t
    modifyClass depth fun c => { c with tempDeclared := true }
  if hasMethods then
    let brand ← fresh ("_" ++ (c.id.map (·.name)).getD "Class" ++ "_brand")
    modifyClass depth fun c => { c with brand := some brand.name }
  if !hasFields && !hasMethods then return c
  let brandInit := match (← classAt depth).brand with
    | some b => [helper "classPrivateMethodInitSpec" [this, name b]]
    | none => []
  let (members, inits) ← takeInits a privates c.members
  let inits := brandInit ++ inits
  let derived := c.heritage.isSome
  if members.any (·.isConstructor) then
    let members ← members.mapM fun m =>
      if m.isConstructor then intoConstructor depth derived inits m else return m
    return { c with members }
  return { c with members := (← newConstructor derived inits) :: members }

/-! ### Leaving a class -/

/-- Adds what is evaluated after the class. -/
def follow (depth : Nat) (e : Expr) : Lower Unit :=
  modifyClass depth fun c =>
    if c.isDeclaration then { c with following := c.following ++ [expr e] }
    else { c with exprsAfter := c.exprsAfter ++ [e] }

/-- Evaluates a static field. -/
def staticField (a : Around) (depth : Nat) (k : Key) (v : Option Expr) : Lower Unit := do
  let c ← classAt depth
  let value := v.getD undefined
  match k with
  | .privateName id =>
      let b := ((c.privates.find? (·.name == id.name)).map (·.binding)).getD ""
      let kept := object [property "_" value]
      if c.isDeclaration then
        modifyClass depth fun c => { c with following := c.following ++ [var (.made b) kept] }
      else follow depth (assign (.made b) kept)
  | k =>
      let k ← settledKey a depth k
      follow depth (helper "defineProperty" [← className depth, keyValue k, value])

/-- The function of a private method. -/
def methodFunction (c : ClassDraft) (kind : MethodKind) (id : Ident) (f : Func) : Stmt :=
  let p := c.privates.find? (·.name == id.name)
  let b := match p with
    | some p =>
        match kind with
        | .method => p.binding
        | .getter => p.accessors.1.getD ""
        | .setter => p.accessors.2.getD ""
    | none => ""
  .funcDecl { f with id := some (.made b), span := .nowhere }

/-- Takes out of the class what is evaluated after it. -/
def takeStatic (a : Around) (depth : Nat) : List Member → Lower (List Member × List Stmt)
  | [] => pure ([], [])
  | .field _ _ traits false k v :: rest => do
      if traits.isStatic then staticField a depth k v else evaluateBefore depth k
      takeStatic a depth rest
  | .block s stmts :: rest => do
      if a.lowers .staticBlock then
        follow depth (blockValue stmts)
        takeStatic a depth rest
      else
        let (members, functions) ← takeStatic a depth rest
        return (.block s stmts :: members, functions)
  | .method _ _ _ kind (.privateName id) f :: rest => do
      let c ← classAt depth
      let (members, functions) ← takeStatic a depth rest
      return (members, methodFunction c kind id f :: functions)
  | .method s ds st kind k f :: rest => do
      let k ← settledKey a depth k
      let (members, functions) ← takeStatic a depth rest
      return (.method s ds st kind k f :: members, functions)
  | m :: rest => do
      let (members, functions) ← takeStatic a depth rest
      return (m :: members, functions)

/-- What holds the private members of instances: a weak map for each field, and the brand for all
methods. -/
def keepers (c : ClassDraft) : List (Ident × Expr) :=
  go false c.privates
where
  make (kind : String) : Expr := .new .nowhere (name kind) [] true
  go (branded : Bool) : List PrivateName → List (Ident × Expr)
    | [] => []
    | p :: rest =>
        if p.isStatic then go branded rest
        else if p.isBranded then
          if branded then go branded rest
          else (.made (c.brand.getD ""), make "WeakSet") :: go true rest
        else (.made p.binding, make "WeakMap") :: go branded rest

/-- The variables that hold the private members of a class: one for each field, and the brand for
all methods of instances. -/
def holders (c : ClassDraft) : List Ident :=
  (c.privates.filterMap fun p =>
    if !p.isBranded then some p.binding else if p.isStatic then none else c.brand).eraseDups.map .made

/-- The temporary of the class is declared where the class stands. -/
def declareClassTemp (depth : Nat) : Lower (Option Ident) := do
  let c ← classAt depth
  match c.temp with
  | some t =>
      if !c.tempDeclared then declare (.made t)
      return some (.made t)
  | none => return none

def closeClass : Lower Unit := modify fun d => { d with classes := d.classes.drop 1 }

/-- Closes the class of a declaration. -/
def leaveDeclaration (a : Around) (c : Class) : Lower Class := do
  let depth ← classDepth
  if !(← classAt depth).isLowered then
    closeClass
    return c
  let (members, functions) ← takeStatic a depth c.members
  let temp ← declareClassTemp depth
  let d ← classAt depth
  let bind := match temp, c.id with
    | some t, some id => [expr (assign t (name id.name))]
    | _, _ => []
  closeClass
  putBefore ((keepers d).map (fun (id, e) => var id e) ++ d.exprsBefore.map expr)
  putAfter (bind ++ functions ++ d.following)
  return { c with members }

/-- Closes the class of an expression. -/
def leaveExpression (a : Around) (c : Class) : Lower Expr := do
  let depth ← classDepth
  if !(← classAt depth).isLowered then
    closeClass
    return .classExpr c
  let (members, functions) ← takeStatic a depth c.members
  let temp ← declareClassTemp depth
  let d ← classAt depth
  let kept := keepers d
  for id in holders d do declare id
  closeClass
  putAfter functions
  let inner : Expr := .classExpr { c with members }
  let before := d.exprsBefore ++ kept.map fun (id, e) => assign id e
  match temp with
  | some t =>
      if before.isEmpty && d.exprsAfter.isEmpty then return assign t inner
      return sequence (before ++ [assign t inner] ++ d.exprsAfter ++ [.name t])
  | none => return inOrder before inner

end ModuleBundler.Lower
