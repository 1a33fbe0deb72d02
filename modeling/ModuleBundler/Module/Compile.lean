/-
ModuleBundler/Module/Compile.lean

Compiling a module: it is turned into a script, the script is read again, lowered
for the target, and laid out.
-/
import ModuleBundler.Module.Script
import ModuleBundler.Layout.Program
import ModuleBundler.Lowering.Program

namespace ModuleBundler

/-- Reads a script, and lays it out for a target. -/
def lowerScript (target : Target) (script : String) : Except (List Diagnostic) String := do
  let parsed ← Program.parse true script.toList
  return (← parsed.program.lower target).render parsed.keptComments

/-- The code of a module for a target. -/
def Program.compile (target : Target) (p : Program) (text : List Char) :
    Except (List Diagnostic) String :=
  lowerScript target (p.script text)

end ModuleBundler
