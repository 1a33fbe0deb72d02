/-
ModuleBundler/Text/Edit.lean

Edits of a text.  An edit replaces a span of the text.  `Edit.applyAll` puts
edits, recorded in any order, into the order of the text and carries them out in
one pass: what lies between two edits is kept as it is.
-/
import ModuleBundler.Syntax.Span

namespace ModuleBundler

structure Edit where
  span : Span
  text : List Char
deriving DecidableEq, Inhabited, Repr

namespace Edit

/-- The order of the text: by the beginning of the span, then by its end. -/
def before (a b : Edit) : Bool :=
  a.span.start < b.span.start || (a.span.start == b.span.start && a.span.stop ≤ b.span.stop)

/-- Puts an edit before the first one that does not come before it. -/
def insert (e : Edit) : List Edit → List Edit
  | [] => [e]
  | x :: more => if before e x then e :: x :: more else x :: insert e more

/-- Edits in the order of the text.  Edits of one span keep the order they were recorded in. -/
def inOrder (edits : List Edit) : List Edit := edits.foldr insert []

/-- Carries out edits that are in order and do not overlap.  `rest` is the text from place `pos`
on. -/
def apply : List Edit → Nat → List Char → List Char
  | [], _, rest => rest
  | e :: more, pos, rest =>
      rest.take (e.span.start - pos) ++ e.text ++
        apply more e.span.stop (rest.drop (e.span.stop - pos))

def applyAll (edits : List Edit) (text : List Char) : List Char :=
  apply (inOrder edits) 0 text

/-- Edits in order, each beginning where the one before has ended or later. -/
def Disjoint : List Edit → Nat → Prop
  | [], _ => True
  | e :: more, pos => pos ≤ e.span.start ∧ e.span.start ≤ e.span.stop ∧ Disjoint more e.span.stop

end Edit

end ModuleBundler
