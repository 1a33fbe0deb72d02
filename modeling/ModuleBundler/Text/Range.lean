/-
ModuleBundler/Text/Range.lean

Sets of characters given by ranges of code points.  The tables of the character
classes of Unicode are written this way, each in increasing order.
-/

namespace ModuleBundler

/-- The character lies in one of the ranges. -/
def Char.inRanges (table : List (Nat × Nat)) (c : Char) : Bool :=
  table.any fun r => r.1 ≤ c.toNat && c.toNat ≤ r.2

theorem Char.inRanges_iff {table : List (Nat × Nat)} {c : Char} :
    Char.inRanges table c = true ↔ ∃ r ∈ table, r.1 ≤ c.toNat ∧ c.toNat ≤ r.2 := by
  simp [Char.inRanges]

end ModuleBundler
