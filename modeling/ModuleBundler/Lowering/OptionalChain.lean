/-
ModuleBundler/Lowering/OptionalChain.lean

Optional chains.  `a?.b` asks whether `a` is nullish, and is `void 0` if so.  Each
`?.` of a chain adds a test, all tests of a chain stand in one condition, and what was
tested is kept in one temporary, which is assigned anew for each test.

A call `o.m?.()` keeps `o` as well, to be the `this` of the call.
-/
import ModuleBundler.Lowering.Operator

namespace ModuleBundler.Lower

open Build

/-- A chain read so far. -/
structure Chain where
  /-- One of the objects is nullish. -/
  test : Option Expr := none
  /-- The temporary of the chain. -/
  temp : Option Ident := none
  /-- The chain without its tests. -/
  expr : Expr

namespace Chain

/-- Adds the test of what was read so far. -/
def guard (a : Around) (c : Chain) : Lower Chain := do
  match c.expr with
  | .name id =>
      if a.bindings.isBound id then
        return { c with test := some (isNullish c.test c.expr c.expr) }
  | _ => pure ()
  let t ← match c.temp with
    | some t => pure t
    | none => tempFor c.expr
  return { test := some (isNullish c.test (assign t c.expr) (.name t)), temp := some t, expr := .name t }

/-- The object of a call, as it is read first and as `this` of the call. -/
def context (a : Around) (o : Expr) : Lower (Expr × Expr) := do
  match o with
  | .this _ => return (o, o)
  | .super _ => return (o, this)
  | .name id => if a.bindings.isBound id then return (o, o) else twice a o
  | _ => twice a o

/-- The member that is called, with its object replaced. -/
def memberOf : Expr → Option (Expr × (Expr → Expr))
  | .member s o f _ => some (o, (.member s · f false))
  | .index s o k _ => some (o, (.index s · k false))
  | .privateMember s o f _ => some (o, (.privateMember s · f false))
  | _ => none

/-- Adds the test of what is to be called, and the call. -/
def guardedCall (a : Around) (c : Chain) (span : Span) (args : List Element) : Lower Chain := do
  match memberOf c.expr with
  | none =>
      let c ← guard a c
      return { c with expr := .call span c.expr args false false }
  | some (o, rebuild) =>
      let (first, owner) ← context a o
      let t ← tempFor (rebuild first)
      return {
        test := some (isNullish c.test (assign t (rebuild first)) (.name t))
        temp := some t
        expr := .call span (member (.name t) "call") (.item owner :: args) false false }

/-- Reads a chain from its head on.  A chain in parentheses at the head is part of it. -/
def read (a : Around) : Expr → Lower Chain
  | .member s o f optional => do
      let c ← read a o
      let c ← if optional then c.guard a else pure c
      return { c with expr := .member s c.expr f false }
  | .index s o k optional => do
      let c ← read a o
      let c ← if optional then c.guard a else pure c
      return { c with expr := .index s c.expr k false }
  | .privateMember s o f optional => do
      let c ← read a o
      let c ← if optional then c.guard a else pure c
      return { c with expr := .privateMember s c.expr f false }
  | .call s f args optional isPure => do
      let c ← read a f
      if optional then c.guardedCall a s args
      else return { c with expr := .call s c.expr args false isPure }
  | .chain _ e => read a e
  | .paren s e => do
      let c ← read a e
      return if c.test.isSome then c else { expr := .paren s e }
  | e => return { expr := e }

/-- The last member of the chain, bound to its object. -/
def bound (a : Around) (e : Expr) : Lower Expr := do
  match memberOf e with
  | none => return e
  | some (o, rebuild) =>
      let (first, owner) ← context a o
      return call (member (rebuild first) "bind") [owner]

end Chain

/-- A chain in terms of conditionals.  A chain in parentheses that is called keeps its `this`. -/
def optionalChain (a : Around) (e : Expr) : Lower Expr := do
  let c ← Chain.read a e
  let last ← if a.part = .called then Chain.bound a c.expr else pure c.expr
  match c.test with
  | some test => return .conditional .nowhere test undefined last
  | none => return last

/-- `delete` of a chain, which is `true` where the chain ends early. -/
def deleteChain (a : Around) (span : Span) (e : Expr) : Lower Expr := do
  let c ← Chain.read a e
  let last : Expr := .unary span .delete c.expr
  match c.test with
  | some test => return .conditional .nowhere test (.bool .nowhere true) last
  | none => return last

end ModuleBundler.Lower
