/-
ModuleBundler/Module/Specifier.lean

The specifiers of a module: the texts by which it names other modules in import
declarations and in export declarations with a source, in the order of the text.
Declarations of types name nothing, nor do calls of `import`.
-/
import ModuleBundler.Syntax.Node

namespace ModuleBundler

/-- The specifier that a statement itself names. -/
def Stmt.specifier? : Stmt → Option String
  | .importDecl _ _ source => some source.text
  | .exportList _ _ source => source.map (·.text)
  | .exportAll _ _ source => some source.text
  | _ => none

/-- The specifiers in a part of a module.  Nothing inside an exported declaration is looked at. -/
def Node.specifiers (n : Node) : List String :=
  match n with
  | .stmt (.exportDecl _ _) => []
  | n =>
      let own := match n with
        | .stmt s => s.specifier?.toList
        | _ => []
      own ++ n.framed.attach.flatMap fun ⟨x, _⟩ => x.2.specifiers
termination_by n.size
decreasing_by exact Node.size_framed (by assumption)

def Program.specifiers (p : Program) : List String :=
  p.stmts.flatMap fun s => (Node.stmt s).specifiers

end ModuleBundler
