/-
ModuleBundler/Lowering/ObjectRest.lean

`...` in objects and in object patterns.

An object with spreads is built piece by piece by a helper.  A pattern with a rest
loses it; the rest is what a helper leaves of the value once the properties that
the pattern names are taken away.  In parameters, in the head of a loop and in a `catch`
a pattern with a rest gives way to a temporary, which the body takes apart.  The temporaries of
an assignment are declared before the statement that it stands in.

The list of the names taken away is kept at the head of the program, unless the
pattern stands there itself.
-/
import ModuleBundler.Lowering.Operator
import ModuleBundler.Layout.Numeral

namespace ModuleBundler.Lower

open Build

/-! ### Spread -/

def isSpread : Property → Bool
  | .spread _ _ => true
  | _ => false

/-- The object so far, followed by the properties that wait. -/
def spreadStep (sofar : Option Expr) (waiting : List Property) : List Expr :=
  match sofar with
  | none => [object waiting]
  | some e => if waiting.isEmpty then [e] else [e, object [], object waiting]

/-- Builds an object with spreads. -/
def spreadMembers (sofar : Option Expr) (waiting : List Property) : List Property → Expr
  | [] =>
      if waiting.isEmpty then sofar.getD (object [])
      else helper "objectSpread2" (spreadStep sofar waiting)
  | .spread _ e :: rest =>
      spreadMembers (some (helper "objectSpread2" (spreadStep sofar waiting ++ [e]))) [] rest
  | p :: rest => spreadMembers sofar (waiting ++ [p]) rest

def objectSpread (a : Around) (span : Span) (members : List Property) : Expr :=
  if a.lowers .objectRestSpread && members.any isSpread then spreadMembers none [] members
  else .object span members

/-! ### Rest -/

mutual

/-- An object pattern with a rest stands somewhere in the pattern. -/
def hasRest : Pattern → Bool
  | .object _ fields rest => rest.isSome || fieldsHaveRest fields
  | .array _ items rest =>
      itemsHaveRest items || (match rest with
        | some r => hasRest r
        | none => false)
  | .withDefault _ t _ => hasRest t
  | _ => false

def fieldsHaveRest : List Field → Bool
  | [] => false
  | ⟨_, _, v, _⟩ :: more => hasRest v || fieldsHaveRest more

def itemsHaveRest : List (Option Pattern) → Bool
  | [] => false
  | some p :: more => hasRest p || itemsHaveRest more
  | none :: more => itemsHaveRest more

end

/-- The names that a pattern takes away from a value. -/
structure Taken where
  names : List Expr := []
  /-- Every name is known. -/
  isFixed : Bool := true
  /-- Temporaries for computed names, with what they hold. -/
  computed : List (Ident × Expr) := []
  fields : List Field := []

/-- Adds a property of a pattern. -/
def take (t : Taken) (f : Field) : Lower Taken := do
  match f.key with
  | .name id | .privateName id =>
      return { t with names := t.names ++ [string id.name], fields := t.fields ++ [f] }
  | .literal (.number _ n _) | .computed (.number _ n _) =>
      return { t with names := t.names ++ [string n.text], fields := t.fields ++ [f] }
  | .literal e | .computed (e@(.string _)) =>
      return { t with names := t.names ++ [e], fields := t.fields ++ [f] }
  | .computed e =>
      let id ← fresh e.hint
      return { names := t.names ++ [.name id], isFixed := false
               computed := t.computed ++ [(id, e)]
               fields := t.fields ++ [{ f with key := .computed (.name id) }] }

def takeAll (t : Taken) : List Field → Lower Taken
  | [] => pure t
  | f :: rest => do takeAll (← take t f) rest

/-- What is left of a value. -/
def leftOf (a : Around) (t : Taken) (value : Expr) : Lower Expr := do
  if t.names.isEmpty then
    return helper "extends" [object [], sequence [helper "objectDestructuringEmpty" [value], value]]
  let names ← if !t.isFixed then
      pure (call (member (array t.names) "map") [member (name "babelHelpers") "toPropertyKey"])
    else if a.atTop then pure (array t.names)
    else
      let id ← fresh "excluded"
      modify fun d => { d with excluded := d.excluded ++ [⟨.nowhere, .name id, some (array t.names)⟩] }
      pure (.name id)
  return helper "objectWithoutProperties" [value, names]

/-- A pattern without its rests. -/
structure Split (α : Type) where
  kept : α
  /-- What is to be evaluated before the pattern is matched. -/
  firsts : List (Ident × Expr) := []
  /-- What is to be matched after the pattern. -/
  rests : List (Pattern × Expr) := []

namespace Split

/-- The parts of two splits, the first before the second. -/
def both {α β γ : Type} (f : α → β → γ) (x : Split α) (y : Split β) : Split γ :=
  ⟨f x.kept y.kept, x.firsts ++ y.firsts, x.rests ++ y.rests⟩

def map {α β : Type} (f : α → β) (x : Split α) : Split β := { x with kept := f x.kept }

end Split

/-- A pattern that binds nothing. -/
def isVoid : Pattern → Bool
  | .object _ [] none => true
  | _ => false

/-- A temporary in place of a pattern, which is matched against it afterwards. -/
def setAside (id : Ident) (x : Split Pattern) : Split Pattern :=
  let own := if isVoid x.kept then [] else [(x.kept, Expr.name id)]
  { x with kept := .name id, rests := own ++ x.rests }

/-- What the rests of a pattern are left of. -/
inductive Source where
  /-- A value, for the pattern alone. -/
  | own (value : Expr)
  /-- A value, for the pattern and for all patterns inside. -/
  | shared (value : Expr)
  /-- A temporary to be made. -/
  | temp

/-- The source for the patterns inside. -/
def Source.inner : Source → Source
  | .shared v => .shared v
  | _ => .temp

mutual

/-- Takes the rests out of a pattern.  Without a value for its rest the pattern is set aside. -/
def splitRests (a : Around) (origin : Source) : Pattern → Lower (Split Pattern)
  | .object s fields none => do
      return (← splitFields a origin.inner (fields.map (·.key)) fields).map (.object s · none)
  | .object s fields (some rest) => do
      let (value, ref) ← match origin with
        | .own v | .shared v => pure (v, none)
        | .temp => do
            let id ← fresh "ref"
            pure (Expr.name id, some id)
      let t ← takeAll {} fields
      let inner ← splitFields a origin.inner (t.fields.map (·.key)) fields
      let split : Split Pattern := {
        kept := .object s inner.kept none
        firsts := t.computed ++ inner.firsts
        rests := inner.rests ++ [(rest, ← leftOf a t value)] }
      return match ref with
        | some id => setAside id split
        | none => split
  | .array s items rest => do
      let items ← splitItems a origin.inner items
      match rest with
      | some r =>
          return items.both (fun is r => .array s is (some r)) (← splitRests a origin.inner r)
      | none => return items.map (.array s · none)
  | .withDefault s t e => return (← splitRests a origin t).map (.withDefault s · e)
  | p => return { kept := p }

/-- Takes the rests out of the properties of a pattern, whose keys are given. -/
def splitFields (a : Around) (origin : Source) :
    List Key → List Field → Lower (Split (List Field))
  | k :: ks, ⟨s, _, v, short⟩ :: more => do
      let first ← splitRests a origin v
      return first.both (⟨s, k, ·, short⟩ :: ·) (← splitFields a origin ks more)
  | _, _ => return { kept := [] }

def splitItems (a : Around) (origin : Source) :
    List (Option Pattern) → Lower (Split (List (Option Pattern)))
  | [] => return { kept := [] }
  | some p :: more => do
      let first ← splitRests a origin p
      return first.both (some · :: ·) (← splitItems a origin more)
  | none :: more => return (← splitItems a origin more).map (none :: ·)

end

/-- A declaration of a pattern with rests. -/
def restDeclarator (a : Around) (d : Declarator) : Lower (List Declarator) := do
  match d.value with
  | some value =>
      if !hasRest d.target then return [d]
      let (firsts, source) ← match d.target, value with
        | .object _ _ _, .name _ => pure ([], value)
        | .object _ _ _, _ => do
            let id ← fresh value.hint
            pure ([(⟨.nowhere, .name id, some value⟩ : Declarator)], .name id)
        | _, _ => pure ([], value)
      let split ← splitRests a (.own source) d.target
      let keys := split.firsts.map fun (id, e) => (⟨.nowhere, .name id, some e⟩ : Declarator)
      let own := if isVoid split.kept then [] else [(⟨d.span, split.kept, some source⟩ : Declarator)]
      let others := split.rests.map fun (r, e) => (⟨.nowhere, r, some e⟩ : Declarator)
      return firsts ++ keys ++ own ++ others
  | none => return [d]

def restDeclarators (a : Around) (ds : List Declarator) : Lower (List Declarator) := do
  if a.lowers .objectRestSpread then return (← ds.mapM (restDeclarator a)).flatten
  else return ds

/-! ### Stand-ins -/

/-- Which patterns give way to a temporary. -/
inductive Reach where
  /-- Outermost patterns with a rest somewhere. -/
  | outer
  /-- Patterns with a rest of their own. -/
  | inner
deriving DecidableEq

mutual

/-- Puts temporaries in place of patterns with rests.  Gives the temporaries with the patterns
they stand for. -/
def standIns (r : Reach) : Pattern → Lower (Pattern × List (Ident × Pattern))
  | .withDefault s t e => do
      if r = .outer && hasRest t then
        let id ← fresh "ref"
        return (.withDefault s (.name id) e, [(id, t)])
      let (t, own) ← standIns r t
      return (.withDefault s t e, own)
  | .array s items rest => do
      let (items, own) ← itemStandIns r items
      return (.array s items rest, own)
  | .object s fields rest => do
      if r = .inner && rest.isNone then
        let (fields, own) ← fieldStandIns r fields
        return (.object s fields none, own)
      if !hasRest (.object s fields rest) then return (.object s fields rest, [])
      let id ← fresh "ref"
      return (.name id, [(id, .object s fields rest)])
  | p => return (p, [])

def fieldStandIns (r : Reach) : List Field → Lower (List Field × List (Ident × Pattern))
  | [] => pure ([], [])
  | ⟨s, k, v, short⟩ :: more => do
      let (v, first) ← standIns r v
      let (more, own) ← fieldStandIns r more
      return (⟨s, k, v, short⟩ :: more, first ++ own)

def itemStandIns (r : Reach) :
    List (Option Pattern) → Lower (List (Option Pattern) × List (Ident × Pattern))
  | [] => pure ([], [])
  | some p :: more => do
      let (p, first) ← standIns r p
      let (more, own) ← itemStandIns r more
      return (some p :: more, first ++ own)
  | none :: more => do
      let (more, own) ← itemStandIns r more
      return (none :: more, own)

end

/-- The declarations that take temporaries apart, the last first. -/
def takeApart (own : List (Ident × Pattern)) : List Stmt :=
  own.reverse.map fun (id, p) => declareAs .mutable p (.name id)

/-- The parameters of a function without rests in their patterns, and the statements that take
them apart. -/
def restParameters (a : Around) (ps : List Pattern) : Lower (List Pattern × List Stmt) := do
  if !a.lowers .objectRestSpread then return (ps, [])
  let all ← ps.mapM (standIns .outer)
  return (all.map (·.1), takeApart (all.flatMap (·.2)))

/-- The parameter of a handler without rests, and the statements that take it apart. -/
def restCaught (a : Around) (p : Pattern) : Lower (Pattern × List Stmt) := do
  if !a.lowers .objectRestSpread then return (p, [])
  let (p, own) ← standIns .outer p
  return (p, takeApart own)

/-- The head of a loop without rests, and the statements that take its value apart. -/
def restHead (a : Around) (h : ForHead) : Lower (ForHead × List Stmt) := do
  if !a.lowers .objectRestSpread then return (h, [])
  match h with
  | .declare s kind [⟨ds, p, v⟩] =>
      if !hasRest p then return (h, [])
      let id ← fresh "ref"
      return (.declare s kind [⟨ds, .name id, v⟩], takeApart [(id, p)])
  | .target p =>
      if !hasRest p then return (h, [])
      let id ← fresh "ref"
      return (.declare .nowhere .hoisted [⟨.nowhere, .name id, none⟩], [expr (assignTo p (.name id))])
  | h => return (h, [])

/-- The statements of a loop's body after those that come first. -/
def bodyAfter (firsts : List Stmt) (body : Stmt) : Stmt :=
  if firsts.isEmpty then body
  else
    match body with
    | .block s stmts => .block s (firsts ++ stmts)
    | .empty _ => block firsts
    | s => block (firsts ++ [s])

/-! ### Assignments -/

/-- The declarator of a temporary. -/
def declarator (id : Ident) (value : Option Expr) : Declarator := ⟨.nowhere, .name id, value⟩

/-- An assignment to a pattern with rests.  An object with a rest of its own is read off a temporary,
which is the value of the assignment.  Other patterns are assigned first, and their objects with
rests after them. -/
def restAssignment (a : Around) (t : Pattern) (value : Expr) : Lower Expr := do
  match t with
  | .object _ _ (some _) =>
      let id ← fresh value.hint
      let split ← splitRests a (.shared (.name id)) t
      declareBefore (declarator id none :: split.firsts.map fun (key, e) => declarator key (some e))
      return sequence ([assign id value, assignTo split.kept (.name id)] ++
        split.rests.map (fun (r, e) => assignTo r e) ++ [.name id])
  | _ =>
      let (t, own) ← standIns .inner t
      declareBefore (own.map fun (id, _) => declarator id none)
      return sequence (assignTo t value :: own.map fun (id, p) => assignTo p (.name id))

end ModuleBundler.Lower
