/-
ModuleBundler/Syntax/Span.lean

Places in a source text.  A text is a list of characters, and a place in it is
the number of characters before it; a span is the stretch between two places.
Every node of a syntax tree keeps the span it was read from, because a module
is edited by replacing spans of its text.

Nodes made by a later stage were read from nowhere: they carry `Span.nowhere`.
-/

namespace ModuleBundler

/-- A stretch of a source text: the characters from `start` up to, not including, `stop`. -/
structure Span where
  start : Nat
  stop : Nat
deriving DecidableEq, Inhabited, Repr

namespace Span

/-- The span of a node that was not read from a text. -/
def nowhere : Span := ⟨0, 0⟩

/-- One span lies inside another. -/
def Within (a b : Span) : Prop := b.start ≤ a.start ∧ a.stop ≤ b.stop

instance (a b : Span) : Decidable (Within a b) := by unfold Within; infer_instance

theorem Within.refl (a : Span) : Within a a := ⟨Nat.le_refl _, Nat.le_refl _⟩

theorem Within.trans {a b c : Span} (h : Within a b) (k : Within b c) : Within a c :=
  ⟨Nat.le_trans k.1 h.1, Nat.le_trans h.2 k.2⟩

end Span

/-- A name where it stands in the text. -/
structure Ident where
  name : String
  span : Span
deriving DecidableEq, Inhabited, Repr

/-- A name that a later stage makes up. -/
def Ident.made (name : String) : Ident := ⟨name, .nowhere⟩

end ModuleBundler
