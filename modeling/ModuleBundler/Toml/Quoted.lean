/-
ModuleBundler/Toml/Quoted.lean

Quoted texts and what they mean.  In a basic string a backslash begins an escape; in a
literal string every character stands for itself.  A block begins and ends with three
quotes and may hold line ends; the one right after its opening quotes is no part of it.
-/
import ModuleBundler.Toml.Grammar

namespace ModuleBundler.Toml

namespace Decode

def hexValue? (c : Char) : Option Nat :=
  let n := c.toNat
  if 48 ≤ n ∧ n ≤ 57 then some (n - 48)
  else if 97 ≤ n ∧ n ≤ 102 then some (n - 87)
  else if 65 ≤ n ∧ n ≤ 70 then some (n - 55)
  else none

/-- The character of an escape by number, of which so many digits stand at a place. -/
def codePoint (place count : Nat) (rest : List Char) : Except Error Char :=
  let digits := (rest.take count).takeWhile fun d => (hexValue? d).isSome
  let stop := place + digits.length
  if digits.length < count then .error ⟨⟨stop, stop⟩, .fewDigits⟩
  else
    let n := digits.foldl (fun n d => 16 * n + (hexValue? d).getD 0) 0
    if n.isValidChar then .ok (Char.ofNat n) else .error ⟨⟨place, place⟩, .codePoint⟩

/-- The character of a short escape. -/
def shortEscape? : Char → Option Char
  | 'b' => some '\x08'
  | 'e' => some '\x1b'
  | 'f' => some '\x0c'
  | 'n' => some '\n'
  | 'r' => some '\r'
  | 't' => some '\t'
  | '"' => some '"'
  | '\\' => some '\\'
  | _ => none

/-- How many digits follow the letter of an escape by number. -/
def digitCount? : Char → Option Nat
  | 'x' => some 2
  | 'u' => some 4
  | 'U' => some 8
  | _ => none

def isBlank (c : Char) : Bool := c == ' ' || c == '\t'

/-- A backslash at the end of a line, after which blanks and line ends are skipped. -/
def endsLine (rest : List Char) : Bool :=
  match rest.dropWhile isBlank with
  | '\n' :: _ | '\r' :: '\n' :: _ => true
  | _ => false

theorem length_dropWhile_le (p : Char → Bool) (cs : List Char) :
    (cs.dropWhile p).length ≤ cs.length := (List.dropWhile_suffix p).length_le

/-- A character that a string on one line may hold as it is. -/
def isPlain (c : Char) : Bool := c == '\t' || (0x20 ≤ c.toNat && c.toNat != 0x7f)

/-- A character that a basic string of a kind may hold as it is. -/
def isBasicChar (inBlock : Bool) (c : Char) : Bool := isPlain c || (inBlock && c == '\n')

/-- The meaning of the text inside a basic string that begins at a place. -/
def basic (inBlock : Bool) (place : Nat) (text : List Char) : Except Error (List Char) :=
  match text with
  | [] => .ok []
  | '\\' :: c :: rest =>
      match shortEscape? c with
      | some d => do return d :: (← basic inBlock (place + 2) rest)
      | none =>
          match digitCount? c with
          | some n => do
              let d ← codePoint (place + 2) n rest
              return d :: (← basic inBlock (place + 2 + n) (rest.drop n))
          | none =>
              if inBlock && endsLine (c :: rest) then
                let after := rest.dropWhile fun d => isBlank d || d == '\n' || d == '\r'
                basic inBlock (place + 2 + (rest.length - after.length)) after
              else .error ⟨⟨place + 1, place + 1⟩, .escape⟩
  | ['\\'] => .error ⟨⟨place + 1, place + 1⟩, .escape⟩
  | c :: rest =>
      if isBasicChar inBlock c then do return c :: (← basic inBlock (place + 1) rest)
      else if inBlock && c == '\r' then
        match rest with
        | '\n' :: more => do return '\r' :: '\n' :: (← basic inBlock (place + 2) more)
        | _ => .error ⟨⟨place + 1, place + 1⟩, .carriageReturn⟩
      else
        let bad := rest.takeWhile fun d => !(isBasicChar inBlock d || d == '\\' || d == '\r')
        .error ⟨⟨place, place + 1 + bad.length⟩,
          .stringCharacter (if inBlock then .basicBlock else .basic)⟩
termination_by text.length
decreasing_by
  all_goals simp only [List.length_cons, List.length_drop]
  all_goals grind [length_dropWhile_le]

/-- Refuses a literal string, whose text begins at a place, with characters it may not hold. -/
def checkLiteral (inBlock : Bool) (place : Nat) : List Char → Except Error Unit
  | [] => .ok ()
  | c :: rest =>
      if isPlain c || (inBlock && c == '\n') || (inBlock && c == '\r' && rest.head? = some '\n') then
        checkLiteral inBlock (place + 1) rest
      else if inBlock && c == '\r' then .error ⟨⟨place + 1, place + 1⟩, .carriageReturn⟩
      else .error ⟨⟨place, place⟩, .stringCharacter (if inBlock then .literalBlock else .literal)⟩

/-- A text without the line end at its head. -/
def trimFirst : List Char → Nat × List Char
  | '\n' :: rest => (1, rest)
  | '\r' :: '\n' :: rest => (2, rest)
  | text => (0, text)

/-- What stands between the quotes of a text, and where it begins. -/
def inside (w : Written) (q : Quote) : Except Error (Nat × List Char) :=
  let mark : Char := if q = .basic || q = .basicBlock then '"' else '\''
  let count := if q = .basicBlock || q = .literalBlock then 3 else 1
  let body := w.text.drop count
  let marks := List.replicate count mark
  if body.length < count || body.drop (body.length - count) != marks then
    .error ⟨⟨w.place.stop, w.place.stop⟩, .unclosed q⟩
  else
    let text := body.take (body.length - count)
    let (skipped, text) := if count = 3 then trimFirst text else (0, text)
    .ok (w.place.start + count + skipped, text)

/-- The meaning of a quoted text. -/
def quoted (w : Written) (q : Quote) : Except Error String := do
  let (place, text) ← inside w q
  let inBlock := q = .basicBlock || q = .literalBlock
  if q = .basic || q = .basicBlock then return String.ofList (← basic inBlock place text)
  checkLiteral inBlock place text
  return String.ofList text

end Decode

end ModuleBundler.Toml
