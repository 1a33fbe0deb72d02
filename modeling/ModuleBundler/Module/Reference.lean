/-
ModuleBundler/Module/Reference.lean

The references of a program: the places where a name is used, as opposed to
bound.  Property names, labels and the names that declarations introduce are no
references.  Each reference is resolved by lexical scoping: its home is the
innermost frame around it that declares the name.
-/
import ModuleBundler.Syntax.Node

namespace ModuleBundler

/-- How a reference stands in the text, which decides how it can be replaced. -/
inductive Role where
  /-- An expression or target of its own. -/
  | plain
  /-- The whole of a shorthand property, whose name must be kept. -/
  | shorthand
  /-- Directly what is called, or the tag of a template. -/
  | callee
deriving DecidableEq, Inhabited, Repr

structure Reference where
  id : Ident
  role : Role
  /-- The reference is assigned to. -/
  writes : Bool
  home : Option Frame
deriving DecidableEq, Inhabited, Repr

namespace Node

/-- A name used in a scope. -/
def refer (s : Scope) (role : Role) (writes : Bool) (id : Ident) : Reference :=
  ⟨id, role, writes, s.home? id.name⟩

/-- The references that belong to a node itself and not to one of its parts. -/
def own (s : Scope) : Node → List Reference
  | expr (.name id) => [refer s .plain false id]
  | expr (.call _ (.name id) _ _ _) => [refer s .callee false id]
  | expr (.tagged _ (.name id) _) => [refer s .callee false id]
  | property (.keyed _ _ (.name id) true) => [refer s .shorthand false id]
  | pattern false (.name id) => [refer s .plain true id]
  | field false ⟨_, _, .name id, true⟩ => [refer s .shorthand true id]
  | field false ⟨_, _, .withDefault _ (.name id) _, true⟩ => [refer s .shorthand true id]
  | classNode bindsSelf c =>
      (c.typeArgs ++ c.interfaces).filterMap fun
        | .name id => some (refer (classFrame bindsSelf c :: s) .plain false id)
        | .text _ => none
  | stmt (.exportList _ specs none) =>
      (specs.filter (! ·.localName.quoted)).map fun spec =>
        refer s .plain false ⟨spec.localName.text, spec.localName.span⟩
  | _ => []

/-- The references in a part of a program. -/
def references (s : Scope) (n : Node) : List Reference :=
  (n.walk s).flatMap fun (t, m) => m.own t

end Node

end ModuleBundler
