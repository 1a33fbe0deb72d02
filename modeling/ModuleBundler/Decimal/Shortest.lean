/-
ModuleBundler/Decimal/Shortest.lean

The shortest decimal that reads back as a given binary number.  For one digit,
two digits and so on, the two neighbours of the number on the decimal grid of that
many digits are tried: the first grid with a neighbour that reads back wins, of
two such neighbours the nearer one, and of two equally near the even one.
Seventeen digits always suffice.  The upper neighbour of a grid may be one place
longer than the grid, and then it is a power of ten.
-/
import ModuleBundler.Decimal.Nearest

namespace ModuleBundler

namespace Binary64

/-- How many decimal digits stand before the point of `num / den`; zero or less for a fraction
below one. -/
def pointPlace (num den : Nat) : Int :=
  let digitsOf (n : Nat) : Int := (toString n).length
  let guess := digitsOf num - digitsOf den
  let (a, b) := fraction den 10 guess
  if num * b < a then guess else guess + 1

/-- The decimal of so many digits that reads back as `x`, where `num / den` is the value of `x`. -/
def candidate (x : Binary64) (num den count : Nat) : Option (Nat × Int) :=
  let power : Int := pointPlace num den - count
  let (scale, one) := fraction 1 10 power
  let low := num * one / (den * scale)
  let remainder := 2 * (num * one % (den * scale))
  let lowFits := nearest low power = x
  let highFits := nearest (low + 1) power = x
  let takeLow := remainder < den * scale || (remainder == den * scale && low % 2 == 0)
  if lowFits && (takeLow || !highFits) then some (low, power)
  else if highFits then some (low + 1, power)
  else none

/-- The digits and the power of ten of the shortest decimal of `significand × 2 ^ exponent`. -/
def shortest (significand : Nat) (exponent : Int) : Nat × Int :=
  let (num, den) := fraction significand 2 exponent
  let x := finite significand exponent
  match (List.range 17).findSome? fun n => candidate x num den (n + 1) with
  | some (digits, power) => if digits = 10 then (1, power + 1) else (digits, power)
  | none => (0, 0)

example : shortest (2 ^ 52) (-53) = (5, -1) := by decide +kernel
example : nearest 1 23 = finite 5960464477539062 24 ∧ shortest 5960464477539062 24 = (1, 23) := by
  decide +kernel

end Binary64

end ModuleBundler
