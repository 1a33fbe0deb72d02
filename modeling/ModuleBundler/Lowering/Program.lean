/-
ModuleBundler/Lowering/Program.lean

Lowering a program: the levels of the descent tied together, and what the program
needs at its head.

What is not on the target and has no counterpart is told by diagnostics.
-/
import ModuleBundler.Lowering.Statement

namespace ModuleBundler

/-- The descent into programs nested at most so many levels deep. -/
def Descent.level : Nat → Descent
  | 0 => .idle
  | n + 1 =>
      let deeper := Thunk.mk fun _ => Descent.level n
      { expr := fun a e => deeper.get.exprRule a e
        pattern := fun a p => deeper.get.patternRule a p
        stmt := fun a s => deeper.get.stmtRule a s }

namespace Program

/-- The references in a program. -/
def references (p : Program) : List Reference := p.walk.flatMap fun (s, n) => n.own s

/-- The names of the classes of a program, each with the frame that declares it. -/
def classNames (p : Program) : List (String × Option Frame) :=
  p.walk.flatMap fun (s, n) =>
    match n with
    | .classNode bindsSelf c =>
        c.id.toList.map fun id => (id.name, Scope.home? (Node.classFrame bindsSelf c :: s) id.name)
    | _ => []

/-- The names that a program declares. -/
def declared (p : Program) : List String :=
  let frames := p.walk.flatMap fun (_, n) => n.framed.flatMap (·.1)
  (p.scope ++ frames).flatMap (·.names)

/-- The statements of a program, lowered. -/
def lowerStmts (w : Descent) (a : Around) (stmts : List Stmt) : Lower (List Stmt) := do
  let stmts ← Lower.programDisposal stmts
  let ((stmts, temps), asked) ← Lower.capturing (Lower.opening (w.inRow a stmts))
  let kept ← Lower.declareCaptured a .program asked
  let excluded := (← get).excluded
  let lists := if excluded.isEmpty then [] else [Stmt.declare .nowhere .constant excluded]
  return kept ++ lists ++ Temp.declarations temps ++ stmts

/-- A program for a target. -/
def lower (target : Target) (p : Program) : Except (List Diagnostic) Program :=
  let rs := p.references
  let names := FreshNames.ofNames (p.declared ++ rs.map (·.id.name))
  let a : Around := { target, bindings := .ofReferences rs p.classNames }
  let (stmts, draft) := (lowerStmts (.level (8 * p.span.stop + 64)) a p.stmts).run { names }
  if draft.errors.isEmpty then .ok { p with stmts } else .error (draft.errors.reverse.map (·.2))

end Program

end ModuleBundler
