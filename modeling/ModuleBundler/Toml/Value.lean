/-
ModuleBundler/Toml/Value.lean

The values of TOML, and what a type error calls them.  A number out of all ranges is a
value like the others; it is at fault only where it is asked for (`Value.mismatch`).
-/
import ModuleBundler.Decimal.Shortest
import ModuleBundler.Toml.Error

namespace ModuleBundler.Toml

/-- A number with a fraction or an exponent, as a decimal. -/
inductive Float where
  | finite (negative : Bool) (digits : Nat) (power : Int)
  | infinite (negative : Bool)
  | notANumber
deriving DecidableEq, Inhabited, Repr

/-- How a table came to be, which decides how it may be added to. -/
inductive Origin where
  /-- By the header of a table inside it. -/
  | path
  | header
  /-- By a key with dots. -/
  | dotted
  | inline
deriving DecidableEq, Inhabited, Repr

mutual

inductive Value where
  | string (s : String)
  /-- An integer, or digits that make none. -/
  | integer (n : Option Int)
  | float (x : Float)
  | boolean (b : Bool)
  | datetime
  | array (items : List Value)
  /-- An array of tables, each with a header. -/
  | tables (items : List (List Entry))
  | table (origin : Origin) (entries : List Entry)

/-- An entry of a table: its name and its value, with the places of both. -/
structure Entry where
  name : String
  keyPlace : Stretch
  place : Stretch
  value : Value

end

instance : Inhabited Value := ⟨.datetime⟩

/-! ### What a type error calls a value -/

namespace Float

/-- The decimal in positions, with a point. -/
def positional (digits : Nat) (power : Int) : String :=
  let ds := (toString digits).toList
  if power ≥ 0 then String.ofList (ds ++ List.replicate power.toNat '0') ++ ".0"
  else
    let places := (-power).toNat
    let padded := List.replicate (places + 1 - ds.length) '0' ++ ds
    String.ofList (padded.take (padded.length - places)) ++ "." ++
      String.ofList (padded.drop (padded.length - places))

def text : Float → String
  | finite negative digits power =>
      let sign := if negative then "-" else ""
      match Binary64.nearest digits power with
      | .infinite => sign ++ "inf"
      | .finite m e =>
          let (ds, p) := if m = 0 then (0, 0) else Binary64.shortest m e
          sign ++ positional ds p
  | infinite negative => if negative then "-inf" else "inf"
  | notANumber => "NaN"

end Float

/-- A character of a text that is shown between quotes. -/
def shown (c : Char) : List Char :=
  match c with
  | '"' => ['\\', '"']
  | '\\' => ['\\', '\\']
  | '\n' => ['\\', 'n']
  | '\r' => ['\\', 'r']
  | '\t' => ['\\', 't']
  | '\x00' => ['\\', '0']
  | c =>
      if c.toNat < 0x20 || (0x7f ≤ c.toNat && c.toNat < 0xa0) then
        ['\\', 'u', '\x7b'] ++ Nat.toDigits 16 c.toNat ++ ['\x7d']
      else [c]

/-- The least number that does not fit into so many bits. -/
def beyond (bits : Nat) : Int := Nat.pow 2 bits

/-- An integer, as a type error calls it, with the width that it takes if that is unusual. -/
def integerText (n : Int) : Option String :=
  let text := "integer \x60" ++ toString n ++ "\x60"
  if -beyond 63 ≤ n ∧ n < beyond 64 then some text
  else if -beyond 127 ≤ n ∧ n < beyond 127 then some (text ++ " as i128")
  else if 0 ≤ n ∧ n < beyond 128 then some (text ++ " as u128")
  else none

/-- A decimal that no floating-point number is near. -/
def Float.overflows : Float → Bool
  | finite _ digits power =>
      match Binary64.nearest digits power with
      | .infinite => true
      | .finite _ _ => false
  | infinite _ | notANumber => false

/-- What is wrong with a value where one of another type is wanted. -/
def Value.mismatch (wanted : String) : Value → Cause
  | integer n =>
      match n.bind integerText with
      | some text => .wrongType text wanted
      | none => .integerOverflow
  | float x =>
      if x.overflows then .floatOverflow
      else .wrongType ("floating point \x60" ++ x.text ++ "\x60") wanted
  | string s => .wrongType ("string \"" ++ String.ofList (s.toList.flatMap shown) ++ "\"") wanted
  | boolean b => .wrongType ("boolean \x60" ++ (if b then "true" else "false") ++ "\x60") wanted
  | array _ | tables _ => .wrongType "sequence" wanted
  | datetime | table _ _ => .wrongType "map" wanted

/-- The type of a value, as another error calls it. -/
def Value.type : Value → String
  | string _ => "string"
  | integer _ => "integer"
  | float _ => "float"
  | boolean _ => "boolean"
  | datetime => "datetime"
  | array _ | tables _ => "array"
  | table _ _ => "table"

end ModuleBundler.Toml
