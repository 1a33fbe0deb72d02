/-
ModuleBundler/Toml/Datetime.lean

Dates and times: `2000-01-31`, `23:59`, and both with `T` or a blank between them, with
an offset from universal time at the end.  Only whether a text is one is told, and what
it lacks; the first thing missing from left to right is told before any number that is
out of its range.
-/
import ModuleBundler.Toml.Error

namespace ModuleBundler.Toml.Datetime

inductive Piece where
  | digits (ds : List Char)
  | dash | colon | dot | letterT | blank | letterZ | plus
  | unknown
deriving DecidableEq, Inhabited, Repr

/-- The piece that begins with a character, digits aside. -/
def sign (c : Char) : Piece :=
  match c with
  | '-' => .dash
  | ':' => .colon
  | '.' => .dot
  | 'T' | 't' => .letterT
  | ' ' => .blank
  | 'Z' | 'z' => .letterZ
  | '+' => .plus
  | _ => .unknown

/-- The pieces of a text. -/
def pieces : List Char → List Piece
  | [] => []
  | c :: rest =>
      match c.isDigit, pieces rest with
      | true, .digits ds :: more => .digits (c :: ds) :: more
      | true, more => .digits [c] :: more
      | false, more => sign c :: more

/-- Digits are never split. -/
example : pieces "07:32".toList = [.digits ['0', '7'], .colon, .digits ['3', '2']] := by decide +kernel

/-! ### Reading -/

abbrev Read := StateT (List Piece) (Except Cause)

def fail {α : Type} (what : String) (wanted : String) : Read α :=
  throw (.date (some what) (some wanted))

def next : Read (Option Piece) := modifyGet fun ps => (ps.head?, ps.drop 1)

def digits (what wanted : String) : Read (List Char) := do
  match ← next with
  | some (.digits ds) => return ds
  | _ => fail what wanted

def separator (p : Piece) (what wanted : String) : Read Unit := do
  if (← next) != some p then fail what wanted

/-- The value of digits, of which there must be so many. -/
def number (width : Nat) (what wanted : String) (ds : List Char) : Read Nat := do
  if ds.length != width then fail what wanted
  return ds.foldl (fun n d => 10 * n + (d.toNat - 48)) 0

def inRange (low high n : Nat) (what wanted : String) : Read Unit := do
  if n < low || high < n then fail what wanted

def isLeapYear (y : Nat) : Bool := y % 4 == 0 && (y % 100 != 0 || y % 400 == 0)

def daysIn (year month : Nat) : Nat :=
  if month == 2 then (if isLeapYear year then 29 else 28)
  else if [4, 6, 9, 11].contains month then 30 else 31

/-- What follows the year of a date. -/
def date (year : List Char) : Read Unit := do
  let month ← digits "date" "month"
  separator .dash "date" "\x60-\x60 (MM-DD)"
  let day ← digits "date" "day"
  let y ← number 4 "date" "a four-digit year (YYYY)" year
  let m ← number 2 "date" "a two-digit month (MM)" month
  let d ← number 2 "date" "a two-digit day (DD)" day
  inRange 1 12 m "date" "month between 01 and 12"
  let last := daysIn y m
  inRange 1 last d "date" s!"day between 01 and {last}"

/-- What follows the hour of a time.  Seconds may be left out. -/
def time (hour : List Char) : Read Unit := do
  separator .colon "time" "\x60:\x60 (HH:MM)"
  let minute ← digits "time" "minute"
  let second ← if (← get).head? = some .colon then do
      let _ ← next
      some <$> digits "time" "second"
    else pure none
  if second.isSome && (← get).head? = some .dot then
    let _ ← next
    let _ ← digits "time" "nanosecond"
  let h ← number 2 "time" "a two-digit hour (HH)" hour
  let m ← number 2 "time" "a two-digit minute (MM)" minute
  let s ← match second with
    | some ds => number 2 "time" "a two-digit second (SS)" ds
    | none => pure 0
  inRange 0 23 h "time" "hour between 00 and 23"
  inRange 0 59 m "time" "minute between 00 and 59"
  inRange 0 60 s "time" "second between 00 and 60"

/-- An offset from universal time, or nothing. -/
def offset : Read Unit := do
  match ← next with
  | none | some .letterZ => return
  | some .plus | some .dash =>
      let hour ← digits "offset" "hour"
      separator .colon "offset" "\x60:\x60 (HH:MM)"
      let minute ← digits "offset" "minute"
      let h ← number 2 "offset" "a two-digit hour (HH)" hour
      let m ← number 2 "offset" "a two-digit minute (MM)" minute
      inRange 0 23 h "offset" "hours between 00 and 23"
      inRange 0 59 m "offset" "minutes between 00 and 59"
  | some _ => fail "offset" "\x60Z\x60, +OFFSET, -OFFSET"

/-- A date, a time, or both. -/
def whole : Read Unit := do
  let first ← match ← next with
    | some (.digits ds) => pure ds
    | _ => throw (.date none (some "year or hour"))
  match (← get).head? with
  | some .dash =>
      let _ ← next
      date first
      match ← next with
      | none => return
      | some .letterT | some .blank =>
          time (← digits "time" "hour")
          offset
      | some _ => fail "date-time" "\x60T\x60 between date and time"
  | some .colon => time first
  | _ => throw (.date none (some "\x60-\x60 (YYYY-MM) or \x60:\x60 (HH:MM)"))
  if !(← get).isEmpty then throw (.date none none)

/-- What a text lacks to be a date or time. -/
def fault? (text : List Char) : Option Cause :=
  match whole.run (pieces text) with
  | .ok _ => none
  | .error c => some c

end ModuleBundler.Toml.Datetime
