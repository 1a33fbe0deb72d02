/-
ModuleBundler/Syntax/Grammar.lean

The grammar, its levels tied together, and the reading of whole texts.

`Program.parse` reads a text as a module or as a script.  It refuses the text
with every diagnostic that was noted, so what it accepts is a program without
complaint.  The depth to which constructs may nest is bounded by the length of
the text, which no text can exceed.
-/
import ModuleBundler.Syntax.Grammar.Module
import ModuleBundler.Syntax.Node

namespace ModuleBundler

/-- The grammar for constructs nested at most so many levels deep. -/
def Grammar.level : Nat → Grammar
  | 0 => .exhausted
  | n + 1 =>
      let deeper := Thunk.mk fun _ => Grammar.level n
      { expr := fun c => Grammar.exprRule deeper.get c
        assignment := fun c => Grammar.assignmentRule deeper.get c
        binary := fun min c => Grammar.binaryRule deeper.get min c
        unary := fun c => Grammar.unaryRule deeper.get c
        leftHand := fun c => Grammar.leftHandRule deeper.get c
        callee := fun c => Grammar.calleeRule deeper.get c
        pattern := fun c => Grammar.patternRule deeper.get c
        target := fun e c => Grammar.toTarget deeper.get e c
        stmt := fun position c => Grammar.stmtRule deeper.get position c
        type := fun c => Grammar.typeRule deeper.get c }

/-- A text as it was accepted, with the comments that lead its tokens. -/
structure Parsed where
  program : Program
  comments : List (Nat × Comment)
deriving Inhabited

namespace Program

/-- The names that a declaration declares. -/
def declaredBy : Stmt → List String
  | .declare _ _ items => declaredNames items
  | .funcDecl f => f.id.toList.map (·.name)
  | .classDecl c => c.id.toList.map (·.name)
  | _ => []

/-- The names under which a statement exports. -/
def exportedNames : Stmt → List String
  | .exportDecl _ d => declaredBy d
  | .exportList _ specs _ => specs.map (·.exported.text)
  | .exportAll _ (some name) _ => [name.text]
  | _ => []

/-- The number of default exports of a statement. -/
def defaultExports : Stmt → Nat
  | .exportDefault _ _ => 1
  | .exportList _ specs _ => specs.countP (·.exported.text == "default")
  | .exportAll _ (some name) _ => if name.text == "default" then 1 else 0
  | _ => 0

/-- The diagnostics for what the statements of a module export more than once: first the names, in
the order of the text, then one for all the default exports together. -/
def duplicateExports (stmts : List Stmt) : List Diagnostic :=
  (Grammar.repeated [] (stmts.flatMap exportedNames)).map .duplicateExport ++
    if (stmts.map defaultExports).foldr (· + ·) 0 ≤ 1 then [] else [.duplicateDefaultExport]

/-- The characters of a line that begins with `#!`, at the head of the text. -/
def hashbangLength (text : List Char) : Nat :=
  match text with
  | '#' :: '!' :: rest => 2 + (rest.takeWhile fun c => !isLineEnd c).length
  | _ => 0

/-- Reads a text as a script or as a module. -/
def parse (script : Bool) (text : List Char) : Except (List Diagnostic) Parsed :=
  let skipped := hashbangLength text
  let start := Cursor.start script skipped (text.drop skipped)
  let g := Grammar.level (8 * text.length + 64)
  match Grammar.statements g false start with
  | .error f c => .error (c.report f)
  | .ok (directives, stmts) c =>
      let ds := c.report none ++ duplicateExports stmts
      if ds.isEmpty then
        let hashbang := if skipped = 0 then none else some ⟨0, skipped⟩
        .ok ⟨⟨⟨0, text.length⟩, hashbang, directives, stmts⟩, c.comments.reverse⟩
      else .error ds

end Program

end ModuleBundler
