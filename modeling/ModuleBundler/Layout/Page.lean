/-
ModuleBundler/Layout/Page.lean

The page that a program is laid out on.  A page knows how deep the next line is
indented, which comments are still to be written, and what has just been begun or
written on it: some constructs need parentheses at the beginning of a statement,
and some signs may not touch.

Writing anything on a page clears its mark, so a mark tells about the very place
where the page ends.
-/
import ModuleBundler.Syntax.Lexeme.Gap

namespace ModuleBundler

/-- What is known of the place where a page ends. -/
inductive Mark where
  | plain
  /-- An expression statement begins here. -/
  | statement
  /-- The expression of a concise arrow function begins here. -/
  | arrowBody
  /-- The expression of a default export begins here. -/
  | standardExport
  /-- A whole number without point or exponent ends here. -/
  | integer
  /-- A sign that stands before its operand ends here. -/
  | sign (text : String)
deriving DecidableEq, Inhabited, Repr

structure Page where
  text : String := ""
  depth : Nat := 0
  /-- The next indentation is one blank instead. -/
  joins : Bool := false
  mark : Mark := .plain
  /-- The comments to be written, each with the place of the token that it leads. -/
  comments : List (Nat × Comment) := []
deriving Inhabited

/-- A step of laying out. -/
abbrev Layout := StateM Page Unit

namespace Layout

def put (s : String) : Layout :=
  modify fun p => if s.isEmpty then p else { p with text := p.text ++ s, mark := .plain }

def setMark (m : Mark) : Layout := modify fun p => { p with mark := m }

def newline : Layout := put "\n"

/-- The blanks at the head of a line. -/
def indent : Layout := do
  if (← get).joins then
    put " "
    modify fun p => { p with joins := false }
  else
    put (String.ofList (List.replicate (← get).depth '\t'))

/-- The next indentation is one blank. -/
def join : Layout := modify fun p => { p with joins := true }

def deeper (step : Layout) : Layout := do
  modify fun p => { p with depth := p.depth + 1 }
  step
  modify fun p => { p with depth := p.depth - 1 }

/-- A step, with parentheses around it if they are needed. -/
def wrap (needed : Bool) (step : Layout) : Layout := do
  if needed then
    put "("
    step
    put ")"
  else step

/-- Steps with a step between each two. -/
def separated (between : Layout) : List Layout → Layout
  | [] => pure ()
  | [step] => step
  | step :: rest => do
      step
      between
      separated between rest

def all : List Layout → Layout
  | [] => pure ()
  | step :: rest => do
      step
      all rest

/-- Something in braces, over several lines unless it is to stand on one. -/
def braces (oneLine : Bool) (step : Layout) : Layout := do
  put "\x7b"
  if oneLine then step
  else
    newline
    deeper step
    indent
  put "\x7d"

/-- A sign before its operand, kept apart from an equal sign before it. -/
def prefixSign (s : String) : Layout := do
  let apart := match (← get).mark with
    | .sign before => before.endsWith "+" && s.startsWith "+" || before.endsWith "-" && s.startsWith "-"
    | _ => false
  if apart then put " "
  put s
  setMark (.sign s)

/-! ### Comments -/

def hasComments (place : Nat) : StateM Page Bool := do
  return (← get).comments.any fun c => c.1 == place

/-- Takes the comments that lead the token at a place. -/
def takeComments (place : Nat) : StateM Page (List Comment) := do
  let (here, others) := (← get).comments.partition fun c => c.1 == place
  unless here.isEmpty do
    modify fun p => { p with comments := others }
  return here.map (·.2)

/-- The lines of a text. -/
def linesOf : List Char → List (List Char)
  | [] => [[]]
  | c :: rest =>
      if isLineEnd c then [] :: linesOf rest
      else
        match linesOf rest with
        | line :: lines => (c :: line) :: lines
        | [] => [[c]]

/-- The lines of a block comment after the first, each with the indentation of the page. -/
def continued : List (List Char) → Layout
  | [] => pure ()
  | line :: rest => do
      newline
      indent
      put (String.ofList (line.dropWhile isBlank))
      continued rest

def comment (c : Comment) : Layout := do
  if c.isBlock then
    match linesOf c.text.toList with
    | first :: rest => do
        put (String.ofList first)
        continued rest
    | [] => pure ()
  else put c.text

def endsLine : StateM Page Bool := do
  return (← get).text.endsWith "\n"

/-- The comments before a statement, the first of which is about to be written.  Comments that
stood on one line stay together. -/
def commentLines : List Comment → Layout
  | [] => pure ()
  | [c] => do
      comment c
      if !c.isBlock || c.newlineAfter then newline else join
  | c :: rest => do
      comment c
      if rest.head?.any (·.newlineBefore) then
        newline
        indent
      else if rest.head?.any (·.isLegal) then newline
      commentLines rest

/-- The comments that lead a statement or the end of a body. -/
def comments (cs : List Comment) : Layout := do
  match cs with
  | [] => pure ()
  | c :: _ =>
      if c.newlineBefore && !(← endsLine) then newline
      indent
      commentLines cs

def commentsAt (place : Nat) : Layout := do
  comments (← takeComments place)

/-- Comments before an expression in a list, each on a line of its own. -/
def ownLines : List Comment → Layout
  | [] => pure ()
  | c :: rest => do
      newline
      indent
      comment c
      ownLines rest

end Layout

end ModuleBundler
