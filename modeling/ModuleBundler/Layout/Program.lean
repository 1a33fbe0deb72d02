/-
ModuleBundler/Layout/Program.lean

The layout of a whole script: its directives, its statements, and the comments
before its end.
-/
import ModuleBundler.Layout.Tree
import ModuleBundler.Syntax.Grammar

namespace ModuleBundler

open Layout

def Program.layout (p : Program) : Layout := do
  bodyLines p.directives p.stmts (Stmt.forms {} p.stmts)
  commentsAt p.span.stop

/-- The comments that a layout repeats: all but the marks that a call or function has no effects. -/
def Parsed.keptComments (p : Parsed) : List (Nat × Comment) :=
  p.comments.filter fun c => !c.2.isPure && !c.2.isNoSideEffects

/-- A program as text, with the comments of the text it was read from. -/
def Program.render (p : Program) (comments : List (Nat × Comment)) : String :=
  (p.layout.run { comments }).2.text

end ModuleBundler
