/-
ModuleBundler/Syntax/Cursor.lean

Reading a source text token by token.  A `Cursor` stands on a token and knows the
characters after it.  A parser of a `T` is a `Parse T`: a step from cursors to
cursors that gives a `T` or a `Failure`.

Diagnostics.  A parser may note a diagnostic and go on, or fail.  Either way the
text is refused in the end; the report (`Cursor.report`) lists first what was
wrong with the characters, then what was noted, and last the failure.

A failure next to characters that form no token needs care, for the scanner has
complained already:

* where any token would have been wrong, the scanner's complaint is the failure;
* where a token that closes a construct is missing, the complaint stands alone;
* where a token that opens an operand is missing, the failure stands alone.
-/
import ModuleBundler.Syntax.Lexeme.Scan
import ModuleBundler.Syntax.Tree
import ModuleBundler.Syntax.Lexeme.Gap

namespace ModuleBundler

structure Token where
  kind : LexemeKind
  text : String
  raw : List Char
  span : Span
  /-- A line ends between the token before and this one. -/
  newline : Bool
  escaped : Bool := false
  lone : Bool := false
  malformed : Bool := false
  /-- A comment right before it marks the call that begins here as free of effects. -/
  pure : Bool := false
  /-- A comment right before it marks the function that begins here as free of effects. -/
  noSideEffects : Bool := false
deriving Inhabited

/-- What the surroundings of a piece of text allow in it. -/
structure Allow where
  inOperator : Bool := true
  yieldWord : Bool := false
  awaitWord : Bool := false
  returns : Bool := false
  /-- `[` does not continue an expression. -/
  decorator : Bool := false
  /-- A closing token must come after the statements being read. -/
  enclosed : Bool := false
  /-- A type may be chosen by a condition. -/
  conditionalTypes : Bool := true
deriving Inhabited

structure Cursor where
  script : Bool
  rest : List Char
  pos : Nat
  token : Token
  prevStop : Nat
  allow : Allow
  /-- What was wrong with the characters, the last first. -/
  lexical : List Diagnostic
  /-- What was noted, the last first. -/
  noted : List Diagnostic
  /-- Comments with the place of the token that they lead, the last first. -/
  comments : List (Nat × Comment)
  /-- The shorthand properties `a = e` that may yet turn out to be patterns. -/
  shorthands : List Nat
  /-- The parentheses known not to be those of an arrow function. -/
  notArrow : List Nat
  /-- The arrays and objects with a comma before the closing bracket. -/
  trailing : List Nat
  /-- Decorators that the next class takes. -/
  marks : List Expr
deriving Inhabited

structure Failure where
  reason : Diagnostic
  /-- The scanner's complaints, if there are any, replace the failure. -/
  yields : Bool := false
  /-- The failure replaces the scanner's last complaint. -/
  swallows : Bool := false

abbrev Parse := EStateM Failure Cursor

namespace Cursor

/-- Moves to the next token. -/
def advance (c : Cursor) : Cursor :=
  let hugs := c.token.kind == .punctuator && (c.token.text == "=" || c.token.text == "(")
  let atStart := c.pos == 0
  let gap := Gap.scanFrom c.script hugs .blank { sawNewline := atStart, newline := atStart } c.pos c.rest
  if gap.unterminated then
    { c with
      prevStop := c.token.span.stop
      token := { kind := .eof, text := "", raw := [], span := ⟨gap.pos, gap.pos⟩, newline := true }
      rest := [], pos := gap.pos
      lexical := .unterminatedComment :: c.lexical }
  else
    let s := Lexeme.scan gap.rest
    let span : Span := ⟨gap.pos, gap.pos + s.raw.length⟩
    { c with
      prevStop := c.token.span.stop
      token := {
        kind := s.kind, text := s.text, raw := s.raw, span, newline := gap.newline
        escaped := s.escaped, lone := s.lone, malformed := s.malformed
        pure := gap.pure, noSideEffects := gap.noSideEffects }
      rest := s.rest, pos := span.stop
      lexical := s.errors.reverse ++ c.lexical
      comments := gap.leading.map (gap.pos, ·) ++ c.comments }

/-- The cursor on the first token of a text. -/
def start (script : Bool) (skipped : Nat) (text : List Char) : Cursor :=
  let blank : Token :=
    { kind := .unknown, text := "", raw := [], span := ⟨0, 0⟩, newline := true }
  advance {
    script, rest := text, pos := skipped, token := blank, prevStop := 0
    allow := { awaitWord := !script }
    lexical := [], noted := [], comments := [], shorthands := [], notArrow := []
    trailing := [], marks := [] }

/-- Everything wrong with the text, in order, after a failure or none. -/
def report (c : Cursor) (failure : Option Failure) : List Diagnostic :=
  let shorthand := c.shorthands.map fun _ => Diagnostic.shorthandInitializer
  match failure with
  | none => c.lexical.reverse ++ c.noted.reverse ++ shorthand
  | some f =>
      let lexical := if f.swallows then c.lexical.drop 1 else c.lexical
      if f.yields && !lexical.isEmpty then lexical.reverse ++ c.noted.reverse ++ shorthand
      else lexical.reverse ++ c.noted.reverse ++ [f.reason] ++ shorthand

end Cursor

namespace Token

/-- How a token is named in a diagnostic. -/
def shown (t : Token) : String :=
  match t.kind with
  | .eof => "EOF"
  | .unknown => "Unknown"
  | .privateName => "#identifier"
  | .punctuator => t.text
  | .number form => form.text
  | .string => "string"
  | .regex => "/regexp/"
  | .template true true => "$\x7b\x7d"
  | .template true false => "$\x7b"
  | .template false false => "$\x7bexpr\x7d"
  | .template false true => "\x7d"
  | .name => if t.text ∈ words then t.text else "Identifier"
where
  /-- The words with a meaning of their own somewhere in the grammar. -/
  words : List String := [
    "await", "break", "case", "catch", "class", "const", "continue", "debugger", "default",
    "delete", "do", "else", "enum", "export", "extends", "finally", "for", "function", "if",
    "import", "in", "instanceof", "new", "return", "super", "switch", "this", "throw", "try",
    "typeof", "var", "void", "while", "with", "async", "from", "get", "meta", "of", "set",
    "target", "accessor", "source", "defer", "abstract", "as", "asserts", "assert", "any",
    "boolean", "constructor", "declare", "infer", "intrinsic", "is", "keyof", "module",
    "namespace", "never", "out", "readonly", "require", "number", "object", "satisfies",
    "string", "symbol", "type", "undefined", "unique", "using", "unknown", "global", "bigint",
    "override", "implements", "interface", "package", "private", "protected", "public", "static",
    "let", "yield", "true", "false", "null"]

/-- The words that never name a variable. -/
def reservedWords : List String := [
  "break", "case", "catch", "class", "const", "continue", "debugger", "default", "delete", "do",
  "else", "enum", "export", "extends", "finally", "for", "function", "if", "import", "in",
  "instanceof", "new", "return", "super", "switch", "this", "throw", "try", "typeof", "var",
  "void", "while", "with", "true", "false", "null"]

def isReserved (t : Token) : Bool := t.kind == .name && reservedWords.contains t.text

/-- A reserved word that is no value. -/
def isKeyword (t : Token) : Bool :=
  t.isReserved && !(t.text == "true" || t.text == "false" || t.text == "null")

/-- The token can name a variable, `yield` and `await` included. -/
def isBinding (t : Token) : Bool := t.kind == .name && !reservedWords.contains t.text

def is (t : Token) (text : String) : Bool := t.kind == .punctuator && t.text == text

def isWord (t : Token) (text : String) : Bool := t.kind == .name && t.text == text

def isName (t : Token) : Bool := t.kind == .name

def isString (t : Token) : Bool := t.kind == .string

def isNumber (t : Token) : Bool :=
  match t.kind with
  | .number _ => true
  | _ => false

def isTemplateStart (t : Token) : Bool :=
  match t.kind with
  | .template true _ => true
  | _ => false

def isEnd (t : Token) : Bool := t.kind == .eof

/-- No token at all: the text has ended, or the characters form none. -/
def isNothing (t : Token) : Bool := t.kind == .eof || t.kind == .unknown

end Token

namespace Parse

/-! ### Looking -/

def token : Parse Token := return (← get).token

/-- Where the current token begins. -/
def here : Parse Nat := return (← get).token.span.start

/-- Where the token before the current one ended. -/
def prevStop : Parse Nat := return (← get).prevStop

/-- The span from a place to the end of the last token taken. -/
def spanFrom (start : Nat) : Parse Span := return ⟨start, ← prevStop⟩

def sees (text : String) : Parse Bool := return (← token).is text

def seesWord (word : String) : Parse Bool := return (← token).isWord word

/-- The token after the current one. -/
def peek : Parse Token := return (← get).advance.token

/-- Whether a step finds what it looks for; nothing is taken. -/
def foresees (step : Parse Bool) : Parse Bool := fun c =>
  match step c with
  | .ok found _ => .ok found c
  | .error _ _ => .ok false c

/-- A step that goes back to where it began unless it finds something. -/
def attempt {α : Type} (step : Parse (Option α)) : Parse (Option α) := fun c =>
  match step c with
  | .ok (some a) c' => .ok (some a) c'
  | _ => .ok none c

/-! ### Diagnostics -/

/-- Notes a diagnostic and goes on. -/
def note (d : Diagnostic) : Parse Unit := modify fun c => { c with noted := d :: c.noted }

def fail {α : Type} (d : Diagnostic) : Parse α := throw { reason := d }

/-- Fails because no construct goes on with the current token. -/
def unexpected {α : Type} : Parse α := do
  let c ← get
  if c.token.isNothing then
    match c.lexical with
    | d :: ds =>
        set { c with lexical := ds }
        throw { reason := d }
    | [] => throw { reason := .unexpectedToken }
  else throw { reason := .unexpectedToken }

/-- Fails because another token is needed here.  The tokens that open an operand are told from
those that close a construct. -/
def missing {α : Type} (wanted : String) : Parse α := do
  let opens := wanted ∈ ["(", "from", ":", "in", "as", "while"]
  throw { reason := .expected wanted (← token).shown, yields := !opens, swallows := opens }

/-! ### Taking -/

/-- Takes the current token. -/
def take : Parse Token := modifyGet fun c => (c.token, c.advance)

/-- Takes the current token, a word of the grammar, which must be written without escapes. -/
def takeWord : Parse Token := do
  let t ← take
  if t.escaped then note .escapedKeyword
  return t

/-- Takes the punctuator if it is there. -/
def eat (text : String) : Parse Bool := do
  if ← sees text then
    let _ ← take
    return true
  else return false

def eatWord (word : String) : Parse Bool := do
  if ← seesWord word then
    let _ ← takeWord
    return true
  else return false

/-- Takes the punctuator, which must be there. -/
def expect (text : String) : Parse Unit := do
  unless ← eat text do missing text

def expectWord (word : String) : Parse Unit := do
  unless ← eatWord word do missing word

/-! ### Semicolons -/

/-- A statement may end before the current token. -/
def canEndStatement : Parse Bool := do
  let t ← token
  return t.is ";" || t.is "\x7d" || t.isEnd || t.newline

/-- Ends a statement, with a semicolon or where none is needed. -/
def semicolon : Parse Unit := do
  if ← canEndStatement then
    let _ ← eat ";"
  else
    throw { reason := .missingSemicolon, yields := (← get).allow.enclosed }

/-! ### Surroundings -/

/-- Runs a parser in changed surroundings. -/
def within {α : Type} (change : Allow → Allow) (p : Parse α) : Parse α := do
  let before := (← get).allow
  modify fun c => { c with allow := change before }
  let a ← p
  modify fun c => { c with allow := before }
  return a

def allowed : Parse Allow := return (← get).allow

/-- Runs a parser inside brackets, where `in` is an operator and `[` continues an expression. -/
def withIn {α : Type} (p : Parse α) : Parse α :=
  within ({ · with inOperator := true, decorator := false }) p

/-! ### Repetition -/

/-- Repeats a step until it gives an answer.  Each round takes at least one token, so the characters
left bound the number of rounds. -/
def rounds {σ α : Type} (step : σ → Parse (σ ⊕ α)) : Nat → σ → Parse α
  | 0, _ => unexpected
  | n + 1, s => do
      match ← step s with
      | .inl s' => rounds step n s'
      | .inr a => return a

def repeating {σ α : Type} (init : σ) (step : σ → Parse (σ ⊕ α)) : Parse α := do
  rounds step ((← get).rest.length + 3) init

/-- Items separated by commas, up to but without the closing token.  Also tells where a comma
before the closing token stands. -/
def separated {α : Type} (close : String) (item : Parse α) : Parse (List α × Option Nat) := do
  let t ← token
  if t.is close || t.isNothing then return ([], none)
  let first ← item
  repeating [first] fun taken => do
    let t ← token
    if t.is close || t.isNothing then return .inr (taken.reverse, none)
    unless t.is "," do throw { reason := .expected "," t.shown, yields := true }
    let comma ← here
    let _ ← take
    if ← sees close then return .inr (taken.reverse, some comma)
    return .inl ((← item) :: taken)

end Parse

end ModuleBundler
