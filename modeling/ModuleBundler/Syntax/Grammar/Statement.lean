/-
ModuleBundler/Syntax/Grammar/Statement.lean

Statements and declarations, import and export declarations aside.
-/
import ModuleBundler.Syntax.Grammar.Expression

namespace ModuleBundler.Grammar

open Parse

/-! ### Variables -/

/-- Notes a variable that needs a value and has none: a constant or a pattern. -/
def checkInitializer (kind : Declare) (d : Declarator) : Parse Unit := do
  if d.value.isSome then return
  match d.target, kind with
  | .name _, .constant => note .missingConstInitializer
  | .name _, .disposed | .name _, .awaitDisposed => note .missingResourceInitializer
  | .name _, _ => pure ()
  | _, _ => note .missingPatternInitializer

/-- A variable and its value. -/
def declarator (g : Grammar) (kind : Declare) (inHead : Bool) : Parse Declarator := do
  let start ← here
  let target ← g.pattern
  let value ← if ← eat "=" then some <$> g.assignment else pure none
  let d : Declarator := ⟨← spanFrom start, target, value⟩
  unless inHead do checkInitializer kind d
  match target, kind with
  | .name _, _ => pure ()
  | _, .disposed | _, .awaitDisposed => note .resourcePattern
  | _, _ => pure ()
  return d

/-- The variables after the word that declares them. -/
def declarators (g : Grammar) (kind : Declare) (inHead : Bool) : Parse (List Declarator) := do
  let first ← declarator g kind inHead
  repeating [first] fun taken => do
    if ← eat "," then return .inl ((← declarator g kind inHead) :: taken)
    else return .inr taken.reverse

/-- The word or words that open a variable declaration, if they stand here. -/
def declareWord? : Parse (Option Declare) := do
  let t ← token
  let next ← peek
  let bindsNext := next.isBinding && !next.newline && !next.isWord "of" && !next.isWord "in"
  match t.kind, t.text with
  | .name, "var" => return some .hoisted
  | .name, "const" => return some .constant
  | .name, "let" => return some .mutable
  | .name, "using" => return if bindsNext && !t.escaped then some .disposed else none
  | .name, "await" =>
      if next.isWord "using" && !next.newline then
        let after := (← get).advance.advance.token
        return if after.isBinding && !after.newline then some .awaitDisposed else none
      else return none
  | _, _ => return none

/-- Takes the words of a declaration. -/
def takeDeclareWord (kind : Declare) : Parse Unit := do
  let _ ← takeWord
  if kind = .awaitDisposed then
    let _ ← takeWord

def variableStatement (g : Grammar) (kind : Declare) (position : Position) : Parse Stmt := do
  let start ← here
  takeDeclareWord kind
  let restricted := kind = .mutable || kind = .constant
  if restricted && position ≠ .listed then note .lexicalInSingleStatement
  let items ← declarators g kind false
  semicolon
  return .declare (← spanFrom start) kind items

/-- Whether `let` begins a declaration: nothing else can follow a variable of that name there. -/
def letDeclares (position : Position) : Parse Bool := do
  let next ← peek
  let op := next.kind == .punctuator &&
    ((AssignOp.ofText? next.text).isSome || (BinaryOp.ofText? next.text).isSome)
  if op || next.isWord "in" || next.isWord "instanceof" then return false
  if next.is "." || next.is "(" then return false
  if (position ≠ .listed && !next.is "[") || next.is ";" then return false
  return true

/-! ### Simple statements -/

def expressionOrLabel (g : Grammar) : Parse Stmt := do
  let start ← here
  let e ← g.expr
  match e with
  | .name id =>
      if ← eat ":" then
        let body ← g.stmt .alone
        return .labeled (← spanFrom start) id body
  | _ => pure ()
  semicolon
  return .expr (← spanFrom start) e

def blockStmts (g : Grammar) : Parse (Span × List Stmt) := do
  let start ← here
  expect "\x7b"
  let stmts ← within ({ · with enclosed := true }) <| repeating [] fun taken => do
    let t ← token
    if t.is "\x7d" || t.isEnd then return .inr taken.reverse
    return .inl ((← g.stmt .listed) :: taken)
  expect "\x7d"
  return (← spanFrom start, stmts)

/-- An expression in parentheses that belongs to a statement. -/
def condition (g : Grammar) : Parse Expr := do
  expect "("
  let e ← withIn g.expr
  expect ")"
  return e

def ifStatement (g : Grammar) : Parse Stmt := do
  let start ← here
  let _ ← takeWord
  let test ← condition g
  let yes ← g.stmt .alone
  let no ← if ← eatWord "else" then some <$> g.stmt .alone else pure none
  return .cond (← spanFrom start) test yes no

def doStatement (g : Grammar) : Parse Stmt := do
  let start ← here
  let _ ← takeWord
  let body ← g.stmt .alone
  expectWord "while"
  let test ← condition g
  let _ ← eat ";"
  return .doWhile (← spanFrom start) body test

def whileStatement (g : Grammar) : Parse Stmt := do
  let start ← here
  let _ ← takeWord
  let test ← condition g
  let body ← g.stmt .alone
  return .whileLoop (← spanFrom start) test body

/-! ### `for` -/

/-- A `for` statement after its head and first separator. -/
def countingLoop (g : Grammar) (start : Nat) (head : Option ForHead) : Parse Stmt := do
  expect ";"
  let test ← if (← sees ";") || (← sees ")") then pure none else some <$> withIn g.expr
  expect ";"
  let step ← if ← sees ")" then pure none else some <$> withIn g.expr
  expect ")"
  let body ← g.stmt .alone
  return .forLoop (← spanFrom start) head test step body

/-- A `for` statement after its head, which is complete. -/
def loopOver (g : Grammar) (start : Nat) (isAwait : Bool) (head : ForHead) : Parse Stmt := do
  if ← eatWord "in" then
    let object ← withIn g.expr
    expect ")"
    let body ← g.stmt .alone
    return .forIn (← spanFrom start) head object body
  else
    expectWord "of"
    let items ← withIn g.assignment
    expect ")"
    let body ← g.stmt .alone
    return .forOf (← spanFrom start) isAwait head items body

/-- The word or words that declare the variable of a loop, if they stand here. -/
def loopWord? : Parse (Option Declare) := do
  let t ← token
  let next ← peek
  let plain (t : Token) : Bool := t.kind == .name && t.shown == "Identifier" && !t.newline
  match t.kind, t.text with
  | .name, "var" => return some .hoisted
  | .name, "const" => return some .constant
  | .name, "let" =>
      let binds := next.is "[" || next.is "\x7b" || (next.isName && !next.isWord "in")
      return if binds then some .mutable else none
  | .name, "using" => return if plain next then some .disposed else none
  | .name, "await" => return if next.isWord "using" then some .awaitDisposed else none
  | _, _ => return none

/-- Notes what a complete head may not be, given whether it is `async` and what comes next. -/
def checkHead (isAwait bareAsync : Bool) (head : Option ForHead) : Parse Unit := do
  let overItems ← seesWord "of"
  if isAwait && !overItems then note .awaitOverItems
  if overItems && bareAsync && !isAwait then
    match head with
    | some (.target (.name _)) => note .asyncOverItems
    | _ => pure ()
  if ← seesWord "in" then
    match head with
    | some (.declare _ .disposed _) => note (.resourceOverKeys "using")
    | some (.declare _ .awaitDisposed _) => note (.resourceOverKeys "await using")
    | _ => pure ()

def forStatement (g : Grammar) : Parse Stmt := do
  let start ← here
  let _ ← takeWord
  let isAwait ← if ← seesWord "await" then
      unless (← allowed).awaitWord do note .awaitOutsideAsync
      let _ ← takeWord
      pure true
    else pure false
  expect "("
  if ← sees ";" then
    checkHead isAwait false none
    return ← countingLoop g start none
  if ← sees ")" then unexpected
  let headStart ← here
  let overItems : Parse Bool := return (← seesWord "in") || (← seesWord "of")
  match ← loopWord? with
  | some kind =>
      takeDeclareWord kind
      let items ← within ({ · with inOperator := false }) (declarators g kind true)
      let head := ForHead.declare (← spanFrom headStart) kind items
      if ← overItems then
        checkHead isAwait false head
        loopOver g start isAwait head
      else
        for d in items do checkInitializer kind d
        checkHead isAwait false head
        countingLoop g start (some head)
  | none =>
      let t ← token
      let e ← within ({ · with inOperator := false }) g.expr
      if ← overItems then
        let head := ForHead.target (← toTarget g e)
        checkHead isAwait (t.isWord "async" && !t.escaped) head
        loopOver g start isAwait head
      else
        checkHead isAwait false none
        countingLoop g start (some (.expr e))

/-! ### `switch` and `try` -/

/-- What is compared with the value: nothing after `default`, an expression after `case`. -/
def caseTest (g : Grammar) : Parse (Option Expr) := do
  if ← eatWord "default" then return none
  if ← eatWord "case" then return some (← withIn g.expr)
  unexpected

def caseClause (g : Grammar) : Parse Case := do
  let start ← here
  let test ← caseTest g
  expect ":"
  let stmts ← repeating [] fun taken => do
    let t ← token
    if t.is "\x7d" || t.isEnd || t.isWord "case" || t.isWord "default" then return .inr taken.reverse
    return .inl ((← g.stmt .listed) :: taken)
  return ⟨← spanFrom start, test, stmts⟩

def switchStatement (g : Grammar) : Parse Stmt := do
  let start ← here
  let _ ← takeWord
  let value ← condition g
  expect "\x7b"
  let cases ← within ({ · with enclosed := true }) <| repeating [] fun taken => do
    let t ← token
    if t.is "\x7d" || t.isEnd then return .inr taken.reverse
    return .inl ((← caseClause g) :: taken)
  expect "\x7d"
  return .switch (← spanFrom start) value cases

def catchClause (g : Grammar) : Parse Catch := do
  let start ← here
  let _ ← takeWord
  let param ← if ← eat "(" then
      let p ← g.pattern
      expect ")"
      pure (some p)
    else pure none
  let (bodySpan, stmts) ← blockStmts g
  return ⟨← spanFrom start, param, bodySpan, stmts⟩

def tryStatement (g : Grammar) : Parse Stmt := do
  let start ← here
  let _ ← takeWord
  let (bodySpan, body) ← blockStmts g
  let handler ← if ← seesWord "catch" then some <$> catchClause g else pure none
  let final ← if ← eatWord "finally" then some <$> blockStmts g else pure none
  if handler.isNone && final.isNone then note .missingCatch
  return .tryCatch (← spanFrom start) bodySpan body handler ((final.map (·.1)).getD .nowhere)
    (final.map (·.2))

/-! ### Jumps -/

def returnStatement (g : Grammar) : Parse Stmt := do
  let start ← here
  unless (← allowed).returns do note .returnOutsideFunction
  let _ ← takeWord
  let value ← if ← canEndStatement then pure none else some <$> withIn g.expr
  semicolon
  return .ret (← spanFrom start) value

def throwStatement (g : Grammar) : Parse Stmt := do
  let start ← here
  let _ ← takeWord
  if (← token).newline then note .newlineAfterThrow
  let value ← withIn g.expr
  semicolon
  return .throw (← spanFrom start) value

def jumpStatement (make : Span → Option Ident → Stmt) : Parse Stmt := do
  let start ← here
  let _ ← takeWord
  let label ← label?
  semicolon
  return make (← spanFrom start) label

/-! ### Declarations -/

/-- The declaration of a function, noted where it stands alone. -/
def functionStatement (g : Grammar) (position : Position) : Parse Stmt := do
  let f ← function g .declaration
  if position ≠ .listed then
    if f.isAsync then note .asyncInSingleStatement
    else if f.isGenerator then note .generatorInSingleStatement
  return .funcDecl f

def classStatement (g : Grammar) (position : Position) (start : Nat) (marks : List Expr) :
    Parse Stmt := do
  if position ≠ .listed then note .classInSingleStatement
  return .classDecl (← classRest g start marks)

/-- The head of a `with` statement and its body. -/
def withStatement (g : Grammar) : Parse Stmt := do
  let start ← here
  let _ ← takeWord
  let object ← condition g
  let body ← g.stmt .alone
  return .withObject (← spanFrom start) object body

end ModuleBundler.Grammar
