/-
ModuleBundler/Lowering/Capture.lean

`this`, `arguments` and `super` inside functions that are replaced.

A generator that takes the place of an asynchronous arrow function or method has
another `this`.  The function around it keeps its own in a variable, and what is
inside reads the variable.  Properties of `super` are read and written by arrow
functions that the function around declares.

In what is evaluated once for a class, `this` and the name of the class are the
temporary that holds the class.
-/
import ModuleBundler.Lowering.ClassField

namespace ModuleBundler.Lower

open Build

/-- Changes what the innermost open function is asked for. -/
def modifyCapture (f : Capture → Capture) : Lower Unit :=
  modify fun d => { d with
    captures := match d.captures with
      | inner :: outer => f inner :: outer
      | [] => [f {}] }

def innermostCapture : Lower Capture := do return (← get).captures.headD {}

/-- The variable that keeps `this`. -/
def capturedThis : Lower Expr := do
  match (← innermostCapture).this with
  | some n => return name n
  | none =>
      let id ← fresh "this"
      modifyCapture fun c => { c with this := some id.name }
      return .name id

/-- The variable that keeps `arguments`. -/
def capturedArguments : Lower Expr := do
  match (← innermostCapture).arguments with
  | some n => return name n
  | none =>
      let id ← fresh "arguments"
      modifyCapture fun c => { c with arguments := some id.name }
      return .name id

def capitalized (s : String) : String :=
  match s.toList with
  | c :: rest => String.ofList (c.toUpper :: rest)
  | [] => ""

/-- The function that reads or writes a property of `super`. -/
def capturedSuper (field : Option String) (writes : Bool) : Lower Expr := do
  match (← innermostCapture).supers.find? fun s => s.field == field && s.writes == writes with
  | some s => return name s.name
  | none =>
      let verb := if writes then "set" else "get"
      let id ← fresh ("superprop_" ++ verb ++ capitalized (field.getD ""))
      modifyCapture fun c => { c with supers := c.supers ++ [⟨field, writes, id.name⟩] }
      return .name id

/-! ### Uses -/

/-- A property of `super`: its name, or the expression that gives it. -/
def superProperty? : Expr → Option (Option String × List Expr)
  | .member _ (.super _) f _ => some (some f.name, [])
  | .index _ (.super _) k _ => some (none, [k])
  | _ => none

/-- Replaces a use of `super` that the place cannot see. -/
def captureSuper (e : Expr) : Lower Expr := do
  match e with
  | .call s f args false isPure =>
      match superProperty? f with
      | some (field, keys) =>
          let read := call (← capturedSuper field false) keys
          return .call s (member read "call") (.item (← capturedThis) :: args) false isPure
      | none => return e
  | .assign _ .store (.place t) v =>
      match superProperty? t with
      | some (field, keys) => return call (← capturedSuper field true) (keys ++ [v])
      | none => return e
  | e =>
      match superProperty? e with
      | some (field, keys) => return call (← capturedSuper field false) keys
      | none => return e

/-! ### `super` of a class -/

/-- A property of `super`, as the key that a helper takes. -/
def superKey? (e : Expr) : Option Expr :=
  match superProperty? e with
  | some (some field, _) => some (string field)
  | some (none, key :: _) => some key
  | _ => none

/-- A key as it is read first, and as it is read again. -/
def keyTwice (a : Around) (k : Expr) : Lower (Expr × Expr) := do
  if isLiteral k then return (k, k) else objectTwice a k

/-- What reads properties of `super` in code that is taken out of a class: the class, `this`, and
whether the properties are those of instances. -/
structure SuperReader where
  owner : Expr
  receiver : Expr
  ofInstances : Bool

namespace SuperReader

def read (r : SuperReader) (key : Expr) (isCalled : Bool) : Expr :=
  let flags := (if r.ofInstances then 1 else 0) + if isCalled then 2 else 0
  helper "superPropGet"
    ([r.owner, key, r.receiver] ++ if flags = 0 then [] else [number flags])

def write (r : SuperReader) (key v : Expr) : Expr :=
  helper "superPropSet"
    ([r.owner, key, v, r.receiver, number 1] ++ if r.ofInstances then [number 1] else [])

end SuperReader

/-- Replaces a use of `super` in code that is taken out of a class. -/
def classSuper (a : Around) (r : SuperReader) (e : Expr) : Lower Expr := do
  match e with
  | .call s f args false isPure =>
      match superKey? f with
      | some key => return .call s (r.read key true) [.item (.array .nowhere args)] false isPure
      | none => return e
  | .assign _ op (.place t) v =>
      match superKey? t, op with
      | some key, .store => return r.write key v
      | some key, .compound op =>
          let (first, again) ← keyTwice a key
          if op.isLogical then return binary op (r.read first false) (r.write again v)
          return r.write first (binary op (r.read again false) v)
      | none, _ => return e
  | .update _ op before (.place t) =>
      match superKey? t with
      | some key =>
          let (first, again) ← keyTwice a key
          let value ← temp t.hint
          let kept := assign value (r.read again false)
          if before then
            return r.write first (sequence [kept, .update .nowhere op true (.name value)])
          let old ← temp t.hint
          let next := assign old (.update .nowhere op false (.name value))
          return sequence [r.write first (sequence [kept, next, .name value]), .name old]
      | none => return e
  | e =>
      match superKey? e with
      | some key => return r.read key false
      | none => return e

/-- The reader of `super` for the code at hand, if it is taken out of a class. -/
def superReader (a : Around) : Lower (Option SuperReader) := do
  match a.outOf, a.receiver with
  | some depth, .theClass =>
      let c ← classTemp depth
      return some ⟨.name c, .name c, false⟩
  | some depth, .ofMethod isStatic => return some ⟨.name (← classTemp depth), this, !isStatic⟩
  | _, _ => return none

/-- The expression uses a property of `super`. -/
def usesSuper : Expr → Bool
  | .call _ f _ false _ => (superProperty? f).isSome
  | .assign _ _ (.place t) _ | .update _ _ _ (.place t) => (superProperty? t).isSome
  | e => (superProperty? e).isSome

/-- The class that `outOf` tells of, if the name is its own. -/
def namesClass (a : Around) (id : Ident) : Lower (Option Nat) := do
  match a.outOf with
  | some depth =>
      let c ← classAt depth
      return if c.name = some id.name && a.bindings.isClass id then some depth else none
  | none => return none

/-- Replaces what means something else at the place once functions and classes are replaced. -/
def capture (a : Around) (e : Expr) : Lower Expr := do
  match e with
  | .this _ =>
      match a.outOf, a.receiver with
      | some depth, .theClass =>
          if a.losesSuper then capturedThis else return .name (← classTemp depth)
      | _, _ => if a.losesThis then capturedThis else return e
  | .name id =>
      if id.name = "arguments" then
        if a.losesSuper then capturedArguments else return e
      else
        match ← namesClass a id with
        | some depth => return .name (← classTemp depth)
        | none => return e
  | .call s (.super origin) args false isPure =>
      if origin = .nowhere then return e
      match a.superCall with
      | some (.inside n) => return .call s (name n) args false isPure
      | some (.outside n) =>
          return call (member (name n) "call") [.call s (.super .nowhere) args false isPure]
      | none => return e
  | e =>
      if !usesSuper e then return e
      if a.losesSuper then captureSuper e
      else
        match ← superReader a with
        | some r => classSuper a r e
        | none => return e

/-! ### Declarations -/

/-- The function for a property of `super`. -/
def superAccessor (a : Around) (s : SuperAccess) : Lower Expr := do
  let (keys, place) ← match s.field with
    | some f => pure ([], member (.super .nowhere) f)
    | none => do
        let k ← fresh "prop"
        pure ([Pattern.name k], Expr.index .nowhere (.super .nowhere) (.name k) false)
  let (params, access) ← if s.writes then do
      let v ← fresh "value"
      pure (keys ++ [.name v], assignTo (.place place) (.name v))
    else pure (keys, place)
  match ← superReader a with
  | some r => return arrow params (← classSuper a r access)
  | none => return arrow params access

/-- What a function finds when it is entered. -/
inductive Entry where
  /-- A function, by the inside of which the receiver is told. -/
  | function
  /-- The constructor of a class that inherits, where `this` is not there yet. -/
  | derived
  /-- The program itself. -/
  | program
deriving DecidableEq

/-- The declaration of what a function is asked for. -/
def declareCaptured (a : Around) (entry : Entry) (c : Capture) : Lower (List Stmt) := do
  let own : Expr := name "arguments"
  let arguments := if entry = .program then
      .conditional .nowhere
        (binary .same (.unary .nowhere .typeof own) (string "undefined")) undefined own
    else own
  let supers ← c.supers.mapM fun s => do
    return (Ident.made s.name, some (← superAccessor a s))
  let instances ← c.this.toList.mapM fun n => do
    let value ← match entry, a.outOf, a.receiver with
      | .derived, _, _ => pure none
      | _, some depth, .theClass => pure (some (.name (← classTemp depth)))
      | _, _, _ => pure (some this)
    return (Ident.made n, value)
  return declareAll .hoisted <|
    c.arguments.toList.map (fun n => (.made n, some arguments)) ++ supers ++ instances

end ModuleBundler.Lower
