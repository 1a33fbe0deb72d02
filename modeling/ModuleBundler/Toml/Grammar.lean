/-
ModuleBundler/Toml/Grammar.lean

The lines of a TOML text: pairs of keys and values, and the headers of tables.  What
keys and values mean is left open here, so that the first fault in the make of the
lines is told before any in their content.

Where a key or a value is missing, an empty one stands at its place.
-/
import ModuleBundler.Toml.Lexeme

namespace ModuleBundler.Toml

/-- A key or a single value, as it is written. -/
structure Written where
  place : Stretch
  quote : Option Quote
  text : List Char
deriving DecidableEq, Inhabited, Repr

inductive WrittenValue where
  | single (w : Written)
  | array (place : Stretch) (items : List WrittenValue)
  | inline (place : Stretch) (members : List (List Written × WrittenValue))
deriving Inhabited, Repr

inductive Line where
  | pair (key : List Written) (value : WrittenValue)
  | header (isArray : Bool) (place : Stretch) (key : List Written)
deriving Inhabited, Repr

namespace Grammar

/-- The tokens that are left, and the place of the end of the text. -/
structure Rest where
  tokens : List Token
  size : Nat
deriving Inhabited, Repr

abbrev Parse (α : Type) := StateT Rest (Except Error) α

def peek : Parse (Option Token) := do return (← get).tokens.head?

def advance : Parse Unit := modify fun r => { r with tokens := r.tokens.drop 1 }

/-- The place of the next token. -/
def here : Parse Nat := do
  match ← peek with
  | some t => return t.start
  | none => return (← get).size

/-- Fails at the place of the next token. -/
def failHere {α : Type} (c : Cause) : Parse α := do
  let p ← here
  throw ⟨⟨p, p⟩, c⟩

/-- Takes the next token if it is of a kind. -/
def accept (k : TokenKind) : Parse Bool := do
  match ← peek with
  | some t =>
      if t.kind = k then
        advance
        return true
      else return false
  | none => return false

def skipBlank : Parse Unit := do
  let _ ← accept .blank
  return

/-- A character that a comment may hold. -/
def isCommentChar (c : Char) : Bool := c == '\t' || (0x20 ≤ c.toNat && c.toNat != 0x7f)

/-- Refuses a comment with a control character and a line end that is half of one. -/
def checkBlank (t : Token) : Parse Unit := do
  match t.kind with
  | .comment =>
      let good := (t.text.takeWhile isCommentChar).length
      if good < t.text.length then throw ⟨⟨t.start + good, t.start + good⟩, .commentCharacter⟩
  | .newline => if t.text = ['\r'] then throw ⟨⟨t.stop, t.stop⟩, .carriageReturn⟩
  | _ => return

/-- Skips blanks, comments and line ends, of which there are so many at most. -/
def skipBlanks : Nat → Parse Unit
  | 0 => return
  | n + 1 => do
      match ← peek with
      | some t =>
          if [.blank, .comment, .newline].contains t.kind then
            checkBlank t
            advance
            skipBlanks n
      | none => return

/-- Skips blanks, comments and line ends. -/
def skipLines : Parse Unit := do skipBlanks (← get).tokens.length

/-- An empty key or value at the place of the next token. -/
def nothing : Parse Written := do
  let p ← here
  return ⟨⟨p, p⟩, none, []⟩

def Written.ofToken (t : Token) : Written :=
  let quote := match t.kind with
    | .quoted q => some q
    | _ => none
  ⟨⟨t.start, t.stop⟩, quote, t.text⟩

/-! ### Keys -/

def simpleKey : Parse Written := do
  match ← peek with
  | some t =>
      match t.kind with
      | .quoted _ | .atom =>
          advance
          return Written.ofToken t
      | _ => nothing
  | none => nothing

/-- What follows a part of a key: a dot and the next part, or nothing. -/
def moreKeys : Nat → Parse (List Written)
  | 0 => return []
  | n + 1 => do
      skipBlank
      if ← accept .dot then
        skipBlank
        let k ← simpleKey
        return k :: (← moreKeys n)
      else return []

def dottedKey : Parse (List Written) := do
  let k ← simpleKey
  return k :: (← moreKeys (← get).tokens.length)

/-! ### Values -/

/-- Adds the tokens to a word that belong to it: atoms, dots, and blanks that an atom follows. -/
def wordFrom (w : Written) : List Token → Written × List Token
  | t :: rest =>
      let extended : Written := ⟨⟨w.place.start, t.stop⟩, none, w.text ++ t.text⟩
      if t.kind = .dot || t.kind = .atom then wordFrom extended rest
      else if t.kind = .blank && rest.head?.any (·.kind = .atom) then wordFrom extended rest
      else (w, t :: rest)
  | [] => (w, [])

def word : Parse Written := do
  match (← get).tokens with
  | t :: rest =>
      let (w, rest) := wordFrom (Written.ofToken t) rest
      modify fun r => { r with tokens := rest }
      return w
  | [] => nothing

/-- The items of an array after its opening bracket, and the place after the closing one.  A comma
is needed before an item unless one stands there already. -/
def items (value : Parse WrittenValue) (needsComma : Bool) : Nat → Parse (List WrittenValue × Nat)
  | 0 => failHere .unclosedArray
  | n + 1 => do
      skipLines
      match ← peek with
      | none => failHere .unclosedArray
      | some t =>
          match t.kind with
          | .closeBracket =>
              advance
              return ([], t.stop)
          | .comma =>
              if !needsComma then failHere .extraArrayComma
              advance
              items value false n
          | .equals => failHere .arrayEquals
          | .closeBrace => failHere (if needsComma then .missingComma else .missingInline)
          | _ =>
              if needsComma then failHere .missingComma
              let v ← value
              let (vs, stop) ← items value true n
              return (v :: vs, stop)

/-- The kind of the next token that is no blank. -/
def nextKind : Parse (Option TokenKind) := do
  skipLines
  return (← peek).map (·.kind)

/-- A value that is missing: an empty text without its quotes, at the place of the next token. -/
def absent : Parse WrittenValue := do
  return .single { (← nothing) with quote := some .literal }

/-- What follows the key of a member: the value, or what stands for it where the table ends. -/
def memberValue (value : Parse WrittenValue) : Parse WrittenValue := do
  match ← nextKind with
  | none => failHere .unclosedInline
  | some .closeBrace => absent
  | some .comma => failHere (.extraInlineComma .equals)
  | some .closeBracket => failHere (.inlineElement .equals)
  | some .equals =>
      advance
      match ← nextKind with
      | none => failHere .unclosedInline
      | some .closeBrace => absent
      | some .comma => failHere (.extraInlineComma .value)
      | some .equals => failHere (.extraInlineEquals .value)
      | some .closeBracket => failHere .missingArray
      | some _ => value
  | some _ => failHere .inlineWithoutEquals

/-- The members of an inline table after its opening brace, and the place after the closing one. -/
def members (value : Parse WrittenValue) : Nat → Parse (List (List Written × WrittenValue) × Nat)
  | 0 => failHere .unclosedInline
  | n + 1 => do
      match ← nextKind with
      | none => failHere .unclosedInline
      | some .closeBrace => close
      | some .comma => failHere (.extraInlineComma .key)
      | some .openBrace | some .openBracket => failHere (.inlineWithoutKey .key)
      | some .closeBracket => failHere (.inlineElement .key)
      | some _ =>
          let k ← dottedKey
          let v ← memberValue value
          match ← nextKind with
          | none => failHere .unclosedInline
          | some .comma =>
              advance
              let (ms, stop) ← members value n
              return ((k, v) :: ms, stop)
          | some .closeBrace =>
              let (_, stop) ← close
              return ([(k, v)], stop)
          | some .equals => failHere (.extraInlineEquals .comma)
          | some .openBrace | some .openBracket => failHere (.inlineWithoutKey .comma)
          | some .closeBracket => failHere (.inlineElement .comma)
          | some _ => failHere .inlineWithoutComma
where
  /-- The closing brace, which is there. -/
  close : Parse (List (List Written × WrittenValue) × Nat) := do
    let p ← here
    advance
    return ([], p + 1)

/-- Arrays and inline tables nest so many levels deep. -/
def depthLimit : Nat := 80

/-- A value, with the values that may stand inside it, if any may. -/
def valueWith (inner : Option (Parse WrittenValue)) : Parse WrittenValue := do
  match ← peek with
  | none => return .single (← nothing)
  | some t =>
      match t.kind, inner with
      | .quoted _, _ =>
          advance
          return .single (Written.ofToken t)
      | .dot, _ | .atom, _ => return .single (← word)
      | .openBracket, none | .openBrace, none => failHere .tooDeep
      | .openBracket, some value =>
          advance
          let (vs, stop) ← items value false (← get).tokens.length.succ
          return .array ⟨t.start, stop⟩ vs
      | .openBrace, some value =>
          advance
          let (ms, stop) ← members value (← get).tokens.length.succ
          return .inline ⟨t.start, stop⟩ ms
      | .equals, _ => failHere .extraEquals
      | .closeBracket, _ => failHere .missingArray
      | .closeBrace, _ => failHere .missingInline
      | _, _ => return .single (← nothing)

/-- A value, nested at most so many levels deep. -/
def value : Nat → Parse WrittenValue
  | 0 => valueWith none
  | n + 1 => valueWith (some (value n))

/-! ### Lines -/

/-- What may follow at the end of a line. -/
def lineEnd : Parse Unit := do
  skipBlank
  match ← peek with
  | some t => if t.kind = .comment then do
      checkBlank t
      advance
  | none => return
  match ← peek with
  | none => return
  | some t =>
      if t.kind = .newline then do
        checkBlank t
        advance
      else failHere .afterValue

def pair : Parse Line := do
  let k ← dottedKey
  if !(← accept .equals) then failHere .missingEquals
  skipBlank
  let v ← value depthLimit
  lineEnd
  return .pair k v

/-- Leaves the rest of a line. -/
def skipLine : Parse Unit :=
  modify fun r => { r with tokens := r.tokens.dropWhile fun t => t.kind != .newline }

/-- The brackets that close a header, and the place after them. -/
def headerClose (isArray : Bool) : Parse Nat := do
  let p ← here
  if !(← accept .closeBracket) then failHere (if isArray then .unclosedTables "]]" else .unclosedTable)
  if !isArray then return p + 1
  if !(← accept .closeBracket) then throw ⟨⟨p + 1, p + 1⟩, .unclosedTables "]"⟩
  return p + 2

/-- The header of a table, whose first bracket comes next.  Where a name is missing, that is what is
wrong with the header, whether or not it is closed. -/
def header : Parse Line := do
  let start ← here
  advance
  let isArray ← accept .openBracket
  skipBlank
  let k ← dottedKey
  let named := k.getLast?.any fun w => w.quote.isSome || !w.text.isEmpty
  if !named && (← peek).all (·.kind != .closeBracket) then
    skipLine
    return .header isArray ⟨start, start⟩ k
  let stop ← headerClose isArray
  lineEnd
  return .header isArray ⟨start, stop⟩ k

/-- So many lines at most. -/
def lines : Nat → Parse (List Line)
  | 0 => return []
  | n + 1 => do
      skipLines
      match ← peek with
      | none => return []
      | some t =>
          let l ← match t.kind with
            | .openBracket => header
            | .closeBracket => failHere .missingTable
            | .quoted _ | .atom | .equals | .dot => pair
            | _ => failHere .missingKey
          return l :: (← lines n)

end Grammar

/-- The lines of a text. -/
def Line.ofText (text : List Char) : Except Error (List Line) := do
  let ts := Lexeme.tokens text
  let (ls, _) ← (Grammar.lines (ts.length + 1)).run ⟨ts, text.length⟩
  return ls

end ModuleBundler.Toml
