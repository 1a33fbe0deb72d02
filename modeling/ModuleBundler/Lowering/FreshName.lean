/-
ModuleBundler/Lowering/FreshName.lean

Names that do not occur in a program.  A fresh name is an underscore, a base and,
from the second name of a base on, a number.  What a program already uses of the
form `_base7` is noted first, and the numbers go on from the highest.

A base has no underscores at its head and no digits at its end, so two bases never
give one name.
-/

namespace ModuleBundler

/-- What is in use of one base: with how many underscores, and up to which number. -/
structure UsedBase where
  base : List Char
  underscores : Nat
  number : Nat
deriving DecidableEq, Inhabited, Repr

/-- The bases in use. -/
structure FreshNames where
  used : List UsedBase
deriving Inhabited, Repr

namespace FreshNames

/-- The base of a name, and what stands after it. -/
def splitName (name : List Char) : List Char × List Char :=
  let inner := name.dropWhile (· == '_')
  let digits := (inner.reverse.takeWhile Char.isDigit).reverse
  (inner.take (inner.length - digits.length), digits)

def numberOf (digits : List Char) : Nat :=
  digits.foldl (fun n d => 10 * n + (d.toNat - 48)) 0

/-- Notes a name of the program, if it begins with an underscore. -/
def note (f : FreshNames) (name : String) : FreshNames :=
  let cs := name.toList
  let underscores := (cs.takeWhile (· == '_')).length
  if underscores = 0 then f
  else
    let (base, digits) := splitName cs
    let entry : UsedBase := ⟨base, underscores, max 1 (numberOf digits)⟩
    match f.used.find? (·.base == base) with
    | none => ⟨entry :: f.used⟩
    | some old =>
        if old.underscores < underscores ∨
            (old.underscores = underscores ∧ old.number < entry.number) then
          ⟨entry :: f.used.filter (·.base != base)⟩
        else f

def ofNames (names : List String) : FreshNames := names.foldl note ⟨[]⟩

/-- A fresh name after a hint. -/
def fresh (f : FreshNames) (hint : String) : String × FreshNames :=
  let (base, _) := splitName hint.toList
  match f.used.find? (·.base == base) with
  | none => (String.ofList ('_' :: base), ⟨⟨base, 1, 1⟩ :: f.used⟩)
  | some old =>
      let next := { old with number := old.number + 1 }
      (String.ofList (List.replicate old.underscores '_' ++ base) ++ toString next.number,
        ⟨next :: f.used.filter (·.base != base)⟩)

example : ((ofNames []).fresh "a").1 = "_a" := by decide +kernel
example : ((ofNames ["_a", "_a4", "b"]).fresh "__a1").1 = "_a5" := by decide +kernel

end FreshNames

end ModuleBundler
