/-
ModuleBundler/Syntax/Grammar/Module.lean

Import and export declarations, and the choice among all statements.
-/
import ModuleBundler.Syntax.Grammar.Statement

namespace ModuleBundler.Grammar

open Parse

/-! ### Names of modules and of their members -/

/-- A name that is imported or exported: an identifier name or a string. -/
def moduleName : Parse ModuleName := do
  let t ← token
  if t.isString then
    let v ← stringLiteral
    if v.lone then note .loneSurrogateExport
    return ⟨v.text, true, v.lone, v.span⟩
  else
    let id ← identifierName
    return ⟨id.name, false, false, id.span⟩

/-- An attribute, of which the name is given. -/
def importAttribute : Parse String := do
  let name ← if (← token).isString then (·.text) <$> stringLiteral else (·.name) <$> identifierName
  expect ":"
  let _ ← stringLiteral
  return name

/-- The members of a list that stand in it before. -/
def repeated (seen : List String) : List String → List String
  | [] => []
  | n :: rest => if seen.contains n then n :: repeated seen rest else repeated (n :: seen) rest

/-- The attributes after `with`, which have no meaning here. -/
def attributes : Parse Unit := do
  let t ← token
  if t.isWord "with" || (t.isWord "assert" && !t.newline) then
    let _ ← takeWord
    expect "\x7b"
    let (names, _) ← separated "\x7d" importAttribute
    expect "\x7d"
    for name in repeated [] names do note (.redeclared name)

/-! ### Imports -/

def namedImport : Parse ImportSpec := do
  let t ← token
  let imported ← moduleName
  if ← eatWord "as" then return .named imported (← bindingIdentifier)
  else if t.isReserved || t.isWord "await" then fail (.reservedIdentifier t.text)
  else if !t.isBinding then fail .identifierExpected
  else
    checkOperatorName t
    return .named imported ⟨imported.text, imported.span⟩

/-- The module under one name, or some of its members. -/
def importMembers : Parse (Option (List ImportSpec)) := do
  if ← eat "*" then
    expectWord "as"
    return some [.all (← bindingIdentifier)]
  if ← eat "\x7b" then
    let (specs, _) ← separated "\x7d" namedImport
    expect "\x7d"
    return some specs
  return none

/-- What stands between `import` and `from`. -/
def importSpecs : Parse (List ImportSpec) := do
  if (← token).isBinding then
    let id ← bindingIdentifier
    if ← eat "," then
      match ← importMembers with
      | some specs => return .standard id :: specs
      | none => unexpected
    else return [.standard id]
  else return (← importMembers).getD []

def importDeclaration : Parse Stmt := do
  let start ← here
  let _ ← takeWord
  let t ← token
  let next ← peek
  if t.isBinding && next.is "=" then
    let _ ← take
    let _ ← take
    if (← seesWord "require") && (← peek).is "(" then
      let _ ← take
      let _ ← take
      let _ ← stringLiteral
      expect ")"
    else entityName
    semicolon
    note .importEquals
    return .typeDecl (← spanFrom start)
  if t.isString then
    let source ← stringLiteral
    attributes
    semicolon
    return .importDecl (← spanFrom start) none source
  -- `defer` and `source` are phases where a binding comes after them, and names otherwise
  let phase := (t.isWord "source" && next.isBinding && !next.isWord "from") ||
    (t.isWord "defer" && next.is "*")
  let phase ← if t.isWord "source" && next.isWord "from" then
      pure ((← get).advance.advance.token.isWord "from")
    else pure phase
  if phase then
    let _ ← takeWord
  let specs ← importSpecs
  expectWord "from"
  let source ← stringLiteral
  attributes
  semicolon
  return .importDecl (← spanFrom start) (some specs) source

/-! ### Exports -/

def exportSpec : Parse (ExportSpec × Token) := do
  let t ← token
  let localName ← moduleName
  if ← eatWord "as" then return (⟨localName, ← moduleName⟩, t)
  else return (⟨localName, localName⟩, t)

/-- The words that no local binding of a module has as its name. -/
def isUnbound (t : Token) : Bool :=
  t.isReserved || t.kind == .name && [
    "await", "implements", "interface", "let", "package", "private", "protected", "public",
    "static"].contains t.text

def exportList (start : Nat) : Parse Stmt := do
  expect "\x7b"
  let (specs, _) ← separated "\x7d" exportSpec
  expect "\x7d"
  let source ← if ← eatWord "from" then
      let source ← stringLiteral
      attributes
      pure (some source)
    else pure none
  if source.isNone then
    for (spec, t) in specs do
      if spec.localName.quoted then note .stringExport
      else if isUnbound t then note .reservedExport
  semicolon
  return .exportList (← spanFrom start) (specs.map (·.1)) source

def exportAll (start : Nat) : Parse Stmt := do
  expect "*"
  let exported ← if ← eatWord "as" then some <$> moduleName else pure none
  expectWord "from"
  let source ← stringLiteral
  attributes
  semicolon
  return .exportAll (← spanFrom start) exported source

/-- Notes decorators on both sides of `export`. -/
def checkSides (after : List Expr) : Parse Unit := do
  unless (← get).marks.isEmpty || after.isEmpty do note .decoratorOnBothSides

/-- The value of a default export, without the semicolon after an expression. -/
def exportValue (g : Grammar) : Parse DefaultExport := do
  let start ← here
  let marks ← decorators g
  if ← seesWord "class" then
    checkSides marks
    return .classDecl (← classRest g start marks)
  misplaced marks
  if ← seesFunction then return .funcDecl (← function g .standard)
  return .expr (← withIn g.assignment)

/-- A default export from the word `default` on. -/
def exportDefault (start : Nat) (g : Grammar) : Parse Stmt := do
  let _ ← takeWord
  let value ← exportValue g
  if let .expr _ := value then semicolon
  return .exportDefault (← spanFrom start) value

/-! ### Declarations of the typed dialect -/

def typeAlias (g : Grammar) : Parse Stmt := do
  let start ← here
  let _ ← takeWord
  let _ ← bindingIdentifier
  expect "="
  let _ ← g.type
  semicolon
  return .typeDecl (← spanFrom start)

def interface (g : Grammar) : Parse Stmt := do
  let start ← here
  let _ ← takeWord
  let _ ← bindingIdentifier
  let _ ← heritage g
  let _ ← typeMembers g
  return .typeDecl (← spanFrom start)

/-- A member of an enumeration: its name and its value. -/
def enumMember (g : Grammar) : Parse (String × Option Expr) := do
  let name ← match ← g.key with
    | .name id | .privateName id => pure id.name
    | .literal (.string v) | .computed (.string v) => pure v.text
    | .literal _ | .computed (.number _ _ _) => do
        note .numericEnumMember
        pure ""
    | .computed _ => do
        note .computedEnumMember
        pure ""
  let value ← if ← eat "=" then some <$> withIn g.assignment else pure none
  return (name, value)

def enumeration (g : Grammar) : Parse Stmt := do
  let start ← here
  let _ ← eatWord "const"
  let _ ← takeWord
  let id ← bindingIdentifier
  expect "\x7b"
  let (members, _) ← separated "\x7d" (enumMember g)
  expect "\x7d"
  return .enumDecl (← spanFrom start) id (members.map (·.1)) (members.filterMap (·.2))

def namespaceDeclaration (g : Grammar) : Parse Stmt := do
  let start ← here
  let _ ← takeWord
  if (← token).isString then
    let _ ← stringLiteral
  else entityName
  let (_, stmts) ← blockStmts g
  return .namespaceDecl (← spanFrom start) stmts

/-! ### Exported declarations -/

/-- The declaration after `export`. -/
def exportedDeclaration (g : Grammar) : Parse Stmt := do
  let start ← here
  let marks ← decorators g
  if ← seesWord "class" then
    checkSides marks
    return .classDecl (← classRest g start marks)
  misplaced marks
  if ← seesFunction then return .funcDecl (← function g .declaration)
  let t ← token
  if t.isWord "type" then return ← typeAlias g
  if t.isWord "interface" then return ← interface g
  if t.isWord "enum" || (t.isWord "const" && (← peek).isWord "enum") then return ← enumeration g
  if t.isWord "namespace" || t.isWord "module" then return ← namespaceDeclaration g
  match ← declareWord? with
  | some kind =>
      if kind = .disposed || kind = .awaitDisposed then unexpected
      variableStatement g kind .listed
  | none => unexpected

/-- A declaration from the word `export` on. -/
def exportDeclaration (g : Grammar) : Parse Stmt := do
  let start ← here
  let _ ← takeWord
  let t ← token
  if t.isWord "default" then exportDefault start g
  else if t.is "*" then exportAll start
  else if t.is "\x7b" then exportList start
  else if t.isWord "import" then
    let _ ← importDeclaration
    return .exportDecl (← spanFrom start) (.typeDecl (← spanFrom start))
  else
    let d ← exportedDeclaration g
    return .exportDecl (← spanFrom start) d

/-! ### Statements -/

/-- A statement with decorators before it.  The first class in it takes them; if there is none,
they are out of place. -/
def decorated (g : Grammar) (position : Position) : Parse Stmt := do
  let start ← here
  let marks ← decorators g
  if ← seesWord "class" then classStatement g position start marks
  else
    modify fun c => { c with marks }
    let s ← g.stmt position
    misplaced (← takeMarks)
    return s

/-- Marks the function that a statement declares, or the first that it gives to a constant, as free
of effects. -/
def markPureDeclaration : Stmt → Stmt
  | .funcDecl f => .funcDecl { f with isPure := true }
  | .declare s .constant (d :: more) =>
      .declare s .constant ({ d with value := d.value.map markPureFunction } :: more)
  | s => s

/-- A statement, by its first token. -/
def stmtOf (g : Grammar) (position : Position) : Parse Stmt := do
  let t ← token
  let start ← here
  match t.kind with
  | .punctuator =>
      match t.text with
      | "\x7b" =>
          let (span, stmts) ← blockStmts g
          return .block span stmts
      | ";" =>
          let _ ← take
          return .empty (← spanFrom start)
      | "@" => decorated g position
      | _ => expressionOrLabel g
  | .name =>
      match t.text with
      | "if" => ifStatement g
      | "do" => doStatement g
      | "while" => whileStatement g
      | "for" => forStatement g
      | "continue" => jumpStatement .continueTo
      | "break" => jumpStatement .breakTo
      | "with" => withStatement g
      | "switch" => switchStatement g
      | "throw" => throwStatement g
      | "try" => tryStatement g
      | "debugger" =>
          let _ ← takeWord
          semicolon
          return .debugger (← spanFrom start)
      | "class" => classStatement g position start []
      | "function" => functionStatement g position
      | "async" => if ← seesFunction then functionStatement g position else expressionOrLabel g
      | "return" => returnStatement g
      | "import" =>
          let next ← peek
          if next.is "." || next.is "(" then expressionOrLabel g else importDeclaration
      | "export" => exportDeclaration g
      | "let" =>
          if !t.escaped && (← letDeclares position) then variableStatement g .mutable position
          else expressionOrLabel g
      | _ =>
          match ← declareWord? with
          | some kind => variableStatement g kind position
          | none => expressionOrLabel g
  | _ => expressionOrLabel g

def stmtRule (g : Grammar) (position : Position) : Parse Stmt := do
  let t ← token
  let s ← stmtOf g position
  return if t.noSideEffects then markPureDeclaration s else s

end ModuleBundler.Grammar
