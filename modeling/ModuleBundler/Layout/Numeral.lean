/-
ModuleBundler/Layout/Numeral.lean

The text of a number.  A number is written in as few characters as can be: of
its plain decimal text, its hexadecimal text and its texts with an exponent, the
first of the shortest is taken.  Whole numbers below a thousand keep their
decimal text.
-/
import ModuleBundler.Syntax.Tree
import ModuleBundler.Decimal.Shortest

namespace ModuleBundler

namespace Numeral

def zeros (n : Nat) : String := String.ofList (List.replicate n '0')

/-- A decimal in positions, or with an exponent where it has more than 21 digits before the point
or more than six zeros after it. -/
def positional (digits : Nat) (power : Int) : String :=
  let ds := toString digits
  let k := ds.length
  let point : Int := power + k
  if digits = 0 then "0"
  else if (k : Int) ≤ point ∧ point ≤ 21 then ds ++ zeros power.toNat
  else if 0 < point ∧ point ≤ 21 then
    String.ofList (ds.toList.take point.toNat) ++ "." ++ String.ofList (ds.toList.drop point.toNat)
  else if -6 < point ∧ point ≤ 0 then "0." ++ zeros (-point).toNat ++ ds
  else
    let fractionPart := String.ofList (ds.toList.drop 1)
    String.ofList (ds.toList.take 1) ++ (if fractionPart.isEmpty then "" else "." ++ fractionPart) ++
      "e" ++ (if point > 0 then "+" else "-") ++ toString (point - 1).natAbs

/-- A decimal text without what need not be written: the zero before a point and the sign of a
positive exponent. -/
def trimmed (text : String) : String :=
  let cs := match text.toList with
    | '0' :: '.' :: rest => '.' :: rest
    | cs => cs
  String.ofList (cs.filter (· != '+'))

def hexadecimal (n : Nat) : String := "0x" ++ String.ofList (Nat.toDigits 16 n)

/-- `.00012` as `12e-5`. -/
def smallForm (text : List Char) : Option String :=
  match text with
  | '.' :: '0' :: rest =>
      let digits := rest.dropWhile (· == '0')
      if digits.isEmpty then none
      else some (String.ofList digits ++ "e-" ++ toString (rest.length + 1))
  | _ => none

/-- `1000` as `1e3`. -/
def roundForm (text : List Char) : Option String :=
  let zeroCount := (text.reverse.takeWhile (· == '0')).length
  if zeroCount = 0 then none
  else some (String.ofList (text.take (text.length - zeroCount)) ++ "e" ++ toString zeroCount)

/-- `1.5e300` as `15e299`. -/
def wholeForm (text : List Char) : Option String :=
  let whole := text.takeWhile (· != '.')
  let after := (text.dropWhile (· != '.')).drop 1
  let places := after.takeWhile (· != 'e')
  let power := (after.dropWhile (· != 'e')).drop 1
  if power.isEmpty then none
  else
    (String.ofList power).toInt?.map fun (p : Int) =>
      String.ofList (whole ++ places) ++ "e" ++ toString (p - places.length)

/-- The first of the shortest texts. -/
def shortestOf (first : String) (others : List String) : String :=
  others.foldl (fun best s => if s.length < best.length then s else best) first

/-- The whole number that a binary number is. -/
def whole? (significand : Nat) (exponent : Int) : Option Nat :=
  let (num, den) := Binary64.fraction significand 2 exponent
  if num % den = 0 then some (num / den) else none

def text (n : Numeral) : String :=
  match Binary64.nearest n.digits n.power with
  | .infinite => "Infinity"
  | .finite m e =>
      let (digits, power) := Binary64.shortest m e
      let plain := positional digits power
      let isShort := match whole? m e with
        | some k => decide (k < 1000)
        | none => false
      if isShort then plain
      else
        let base := trimmed plain
        shortestOf base ((whole? m e).toList.map hexadecimal ++ (smallForm base.toList).toList ++
          (roundForm base.toList).toList ++ (wholeForm base.toList).toList)

/-- A text that a point may not follow directly, since it would be read as a part of the number. -/
def takesPoint (text : String) : Bool := text.all Char.isDigit

end Numeral

end ModuleBundler
