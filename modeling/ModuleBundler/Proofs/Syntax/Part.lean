/-
ModuleBundler/Proofs/Syntax/Part.lean

Recursion on the parts of a syntax tree.  A function of trees is defined by recursion
on `Node.framed`, and its equation says so with `attach`; here the equations stand
without it.  `Node.partInduction` is the proof principle that goes with them.
-/
import ModuleBundler.Module.Reference
import ModuleBundler.Module.Specifier

namespace ModuleBundler

theorem flatMap_attach {α β : Type} (l : List α) (f : α → List β) :
    (l.attach.flatMap fun x => f x.1) = l.flatMap f := by
  rw [← List.flatMap_map (f := Subtype.val), List.attach_map_subtype_val]

namespace Node

/-- What holds of a node if it holds of its parts holds of every node. -/
theorem partInduction {P : Node → Prop} (h : ∀ n : Node, (∀ x ∈ n.framed, P x.2) → P n)
    (n : Node) : P n :=
  h n fun x _ => partInduction h x.2
termination_by n.size
decreasing_by exact size_framed (by assumption)

theorem walk_eq (s : Scope) (n : Node) :
    n.walk s = (s, n) :: n.framed.flatMap fun x => x.2.walk (x.1 ++ s) := by
  rw [walk, flatMap_attach (n.parts s) fun x => x.2.walk x.1, parts, List.flatMap_map]

theorem references_eq (s : Scope) (n : Node) :
    n.references s = n.own s ++ n.framed.flatMap fun x => x.2.references (x.1 ++ s) := by
  rw [references, walk_eq, List.flatMap_cons, List.flatMap_assoc]
  rfl

end Node

/-- The specifiers in the parts of a statement; nothing inside an exported declaration counts. -/
def Stmt.nestedSpecifiers (s : Stmt) : List String :=
  match s with
  | .exportDecl _ _ => []
  | s => (Node.stmt s).framed.flatMap (·.2.specifiers)

/-- What is collected in a statement: what it names itself, then what stands in its parts. -/
theorem specifiers_stmt (s : Stmt) :
    (Node.stmt s).specifiers = s.specifier?.toList ++ s.nestedSpecifiers := by
  cases s with
  | exportDecl span d => rw [Node.specifiers]; rfl
  | _ =>
      rw [Node.specifiers]
      · exact congrArg _ (flatMap_attach _ fun x : List Frame × Node => x.2.specifiers)
      · intro span d h
        cases h

end ModuleBundler
