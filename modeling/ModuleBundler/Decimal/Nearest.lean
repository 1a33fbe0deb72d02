/-
ModuleBundler/Decimal/Nearest.lean

Binary numbers of double width.  A number is `significand × 2 ^ exponent` with
at most 53 bits of significand and an exponent of at least -1074, or infinite.
`Binary64.nearest` finds the number nearest to a decimal, a tie going to the even
significand.  All arithmetic is exact.
-/

namespace ModuleBundler

/-- A number that is not negative, in the format of 64 bits. -/
inductive Binary64 where
  | finite (significand : Nat) (exponent : Int)
  | infinite
deriving DecidableEq, Inhabited, Repr

namespace Binary64

/-- `digits × base ^ power` as a fraction. -/
def fraction (digits base : Nat) (power : Int) : Nat × Nat :=
  if power < 0 then (digits, Nat.pow base (-power).toNat)
  else (digits * Nat.pow base power.toNat, 1)

/-- A quotient rounded to the nearest whole number, a tie going to the even one. -/
def roundQuotient (num den : Nat) : Nat :=
  let q := num / den
  let twice := 2 * (num % den)
  if twice < den then q else if den < twice then q + 1 else q + q % 2

/-- The exponent at which `num / den` has a significand of 53 bits, or the least one. -/
def exponentOf (num den : Nat) : Int :=
  let guess : Int := (num.log2 : Int) - (den.log2 : Int) - 52
  -- `num / den` lies between `2 ^ (guess + 51)` and `2 ^ (guess + 53)`.
  let (a, b) := fraction den 2 (guess + 52)
  let exact := if num * b < a then guess - 1 else guess
  max exact (-1074)

/-- The number nearest to a fraction. -/
def ofFraction (num den : Nat) : Binary64 :=
  if num = 0 then finite 0 (-1074)
  else
    let e := exponentOf num den
    let (shift, one) := fraction 1 2 e
    let m := roundQuotient (num * one) (den * shift)
    let (m, e) := if m = Nat.pow 2 53 then (Nat.pow 2 52, e + 1) else (m, e)
    if e > 971 then infinite else finite m e

/-- The number nearest to `digits × 10 ^ power`. -/
def nearest (digits : Nat) (power : Int) : Binary64 :=
  let magnitude : Int := power + (toString digits).length
  if digits = 0 || magnitude < -400 then finite 0 (-1074)
  else if magnitude > 400 then infinite
  else
    let (num, den) := fraction digits 10 power
    ofFraction num den

example : nearest 5 (-1) = finite (2 ^ 52) (-53) := by decide +kernel
example : nearest 1 400 = infinite := by decide +kernel

end Binary64

end ModuleBundler
