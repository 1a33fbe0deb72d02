/-
ModuleBundler/Syntax/Lexeme/Gap.lean

The gap before a token: blanks, line ends and comments.  A gap tells whether the
token stands on a new line, and which comments belong to it.

A comment on the line of the token before it, with nothing but a line end after
it, is a remark on that token and is dropped by the printer.  All others lead the
token that comes next.  A line comment right after `=` or `(` leads as well.
-/
import ModuleBundler.Syntax.Lexeme.Basic
import ModuleBundler.Syntax.Span

namespace ModuleBundler

structure Comment where
  span : Span
  isBlock : Bool
  /-- The comment with its delimiters. -/
  text : String
  newlineBefore : Bool
  newlineAfter : Bool
deriving DecidableEq, Inhabited, Repr

namespace Comment

/-- The text between the delimiters. -/
def content (c : Comment) : List Char :=
  let inner := c.text.toList.drop 2
  if c.isBlock then inner.take (inner.length - 2) else inner

/-- Marks the call after it as free of effects. -/
def isPure (c : Comment) : Bool :=
  let words := c.content.dropWhile fun ch => ch == ' ' || isLineEnd ch || ch == '\t'
  match words with
  | '#' :: rest | '@' :: rest => "__PURE__".toList.isPrefixOf rest
  | _ => false

/-- Marks the function after it as free of effects. -/
def isNoSideEffects (c : Comment) : Bool :=
  let words := c.content.dropWhile fun ch => ch == ' ' || isLineEnd ch || ch == '\t'
  match words with
  | '#' :: rest | '@' :: rest => "__NO_SIDE_EFFECTS__".toList.isPrefixOf rest
  | _ => false

/-- The text holds a word. -/
def mentions (word : List Char) : List Char → Bool
  | [] => word.isEmpty
  | c :: rest => word.isPrefixOf (c :: rest) || mentions word rest

/-- States terms of use, which stand on lines of their own. -/
def isLegal (c : Comment) : Bool :=
  c.content.head? == some '!' || mentions "@license".toList c.content ||
    mentions "@preserve".toList c.content

end Comment

/-- What lies between two tokens. -/
structure Gap where
  /-- A line ends in the gap, or inside one of its comments. -/
  newline : Bool := false
  /-- Comments that lead the next token, the last one first. -/
  leading : List Comment := []
  /-- A line has ended since the token before the gap, comments with line ends inside aside. -/
  sawNewline : Bool := false
  pure : Bool := false
  noSideEffects : Bool := false
  /-- Where the gap ends. -/
  pos : Nat := 0
  rest : List Char := []
  unterminated : Bool := false
deriving Inhabited

namespace Gap

/-- Notes the end of a line. -/
def endLine (g : Gap) : Gap :=
  { g with
    newline := true
    sawNewline := true
    leading := if !g.sawNewline then [] else
      match g.leading with
      | c :: cs => { c with newlineAfter := true } :: cs
      | [] => [] }

/-- Notes a comment.  `hugs` says that the token before the gap is `=` or `(`. -/
def addComment (hugs : Bool) (g : Gap) (c : Comment) : Gap :=
  let c := { c with newlineBefore := g.sawNewline, newlineAfter := !c.isBlock }
  let dropped := !c.isBlock && !g.sawNewline && !hugs
  { g with
    leading := if dropped then [] else c :: g.leading
    sawNewline := g.sawNewline || !c.isBlock
    newline := g.newline || c.text.any isLineEnd
    pure := g.pure || c.isPure
    noSideEffects := g.noSideEffects || c.isNoSideEffects }

/-- What the scanner of gaps is in the middle of. -/
inductive Mode where
  | blank
  | line (start : Nat) (taken : List Char)
  | block (start : Nat) (taken : List Char)

/-- Scans a gap.  In scripts, `<!--` opens a line comment, and so does `-->` at the head of a
line. -/
def scanFrom (script hugs : Bool) : Mode → Gap → Nat → List Char → Gap
  | .blank, g, pos, [] => { g with pos, rest := [] }
  | .line start taken, g, pos, [] =>
      let c := ⟨⟨start, pos⟩, false, String.ofList taken.reverse, false, false⟩
      { addComment hugs g c with pos, rest := [] }
  | .block _ _, g, pos, [] => { g with pos, rest := [], unterminated := true }
  | .blank, g, pos, '/' :: '/' :: rest =>
      scanFrom script hugs (.line pos ['/', '/']) g (pos + 2) rest
  | .blank, g, pos, '/' :: '*' :: rest =>
      scanFrom script hugs (.block pos ['*', '/']) g (pos + 2) rest
  | .block start taken, g, pos, '*' :: '/' :: rest =>
      let c := ⟨⟨start, pos + 2⟩, true, String.ofList ('/' :: '*' :: taken).reverse, false, false⟩
      scanFrom script hugs .blank (addComment hugs g c) (pos + 2) rest
  | .block start taken, g, pos, c :: rest =>
      scanFrom script hugs (.block start (c :: taken)) g (pos + 1) rest
  | .line start taken, g, pos, c :: rest =>
      if isLineEnd c then
        let comment := ⟨⟨start, pos⟩, false, String.ofList taken.reverse, false, false⟩
        scanFrom script hugs .blank (addComment hugs g comment).endLine (pos + 1) rest
      else scanFrom script hugs (.line start (c :: taken)) g (pos + 1) rest
  | .blank, g, pos, c :: rest =>
      if isLineEnd c then scanFrom script hugs .blank g.endLine (pos + 1) rest
      else if isBlank c then scanFrom script hugs .blank g (pos + 1) rest
      else if script && "<!--".toList.isPrefixOf (c :: rest) then
        scanFrom script hugs (.line pos [c]) g (pos + 1) rest
      else if script && g.newline && "-->".toList.isPrefixOf (c :: rest) then
        scanFrom script hugs (.line pos [c]) g (pos + 1) rest
      else { g with pos, rest := c :: rest }

end Gap

end ModuleBundler
