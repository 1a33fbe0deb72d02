/-
ModuleBundler/Syntax/Grammar/Class.lean

Classes.  The words before a member and the signs after its name are read first,
and what the member is shows only then.  What its name forbids is noted.
-/
import ModuleBundler.Syntax.Grammar.Type

namespace ModuleBundler.Grammar

open Parse

/-! ### Names of members -/

/-- The name of a class member. -/
def memberKey (g : Grammar) : Parse Key := do
  if (← token).kind == .privateName then
    let id ← privateIdentifier
    if id.name = "constructor" then note .constructorPrivate
    return .privateName id
  else g.key

/-- The name of a member, if it is written out. -/
def writtenName? : Key → Option String
  | .name id => some id.name
  | .literal (.string v) => some v.text
  | _ => none

/-- Notes a static member that would stand in the way of the class's own property. -/
def checkStatic (isStatic : Bool) (k : Key) : Parse Unit := do
  if isStatic && writtenName? k = some "prototype" then note .staticPrototype

/-! ### Members -/

/-- The statements of a static block. -/
def staticBlock (g : Grammar) (start : Nat) : Parse Member := do
  let _ ← takeWord
  expect "\x7b"
  let (directives, stmts) ← within
    (fun a => { inFunction false false a with returns := false, awaitWord := true })
    (statements g true)
  expect "\x7d"
  let heads := directives.map fun d => Stmt.expr d.span (.string ⟨d.raw, false, d.span⟩)
  return .block (← spanFrom start) (heads ++ stmts)

/-- The constructor begins here. -/
def seesConstructor : Parse Bool := do
  let t ← token
  if t.isWord "constructor" then return true
  return t.isString && t.text == "constructor" && (← peek).is "("

/-- A field after its name. -/
def fieldRest (g : Grammar) (start : Nat) (marks : List Expr) (traits : Traits) (accessor : Bool)
    (k : Key) : Parse Member := do
  if writtenName? k = some "constructor" then note .constructorField
  checkStatic traits.isStatic k
  let value ← if ← eat "=" then
      some <$> within (fun a => { a with inOperator := true, awaitWord := false, yieldWord := false })
        g.expr
    else pure none
  let t ← token
  unless ← canEndStatement do throw { reason := .expected ";" t.shown, yields := true }
  let _ ← eat ";"
  return .field (← spanFrom start) marks traits accessor k value

/-- A member after its decorators and modifiers. -/
def modifiedMember (g : Grammar) (start : Nat) (marks : List Expr) (words : List String) :
    Parse Member := do
  let traits : Traits := {
    isStatic := words.contains "static", isDeclared := words.contains "declare"
    isAbstract := words.contains "abstract", isReadonly := words.contains "readonly"
    access := words.find? isAccess }
  let isAsync := words.contains "async"
  if let some kind ← accessorWord? then
    let k ← memberKey g
    if isAsync then note (.modifierMisplaced "async")
    if !traits.isStatic && writtenName? k = some "constructor" then note .constructorAccessor
    checkStatic traits.isStatic k
    let f ← method g false false
    return .method (← spanFrom start) marks traits kind k f
  if !traits.isStatic && (← seesConstructor) then
    if isAsync then note .constructorAsync
    let k ← g.key
    let f ← method g isAsync false
    return .method (← spanFrom start) marks traits .method k f
  let isGenerator ← eat "*"
  let k ← memberKey g
  let traits := { traits with isOptional := ← eat "?" }
  if isGenerator || (← sees "(") || (← sees "<") then
    if isGenerator && !traits.isStatic && writtenName? k = some "constructor" then
      note .constructorGenerator
    checkStatic traits.isStatic k
    let f ← method g isAsync isGenerator
    return .method (← spanFrom start) marks traits .method k f
  let _ ← eat "!"
  if isAsync then note (.modifierMisplaced "async")
  fieldRest g start marks traits (words.contains "accessor") k

def classMember (g : Grammar) : Parse Member := do
  let start ← here
  let marks ← decorators g
  let words ← modifiers true
  if (← seesWord "static") && (← peek).is "\x7b" then
    misplaced marks
    staticBlock g start
  else modifiedMember g start marks words

/-- The members of a class, with the braces. -/
def classBody (g : Grammar) : Parse (Span × List Member) := do
  let start ← here
  expect "\x7b"
  let members ← within ({ · with decorator := false, enclosed := true }) <|
    repeating [] fun taken => do
      let t ← token
      if t.is "\x7d" || t.isNothing then return .inr taken.reverse
      if ← eat ";" then return .inl taken
      return .inl ((← classMember g) :: taken)
  expect "\x7d"
  return (← spanFrom start, members)

/-! ### The head of a class -/

/-- What a class inherits from and what it implements. -/
structure Heritage where
  parent : Option (Expr × Pieces) := none
  interfaces : List Pieces := []

/-- One or more items, separated by commas. -/
def listed {α : Type} (item : Parse α) : Parse (List α) := do
  repeating [← item] fun taken => do
    if ← eat "," then return .inl ((← item) :: taken) else return .inr taken.reverse

/-- The clauses of a head, in any order.  Of several classes inherited from the first one counts,
and of several clauses the last. -/
def heritage (g : Grammar) : Parse Heritage :=
  repeating ({} : Heritage) fun h => do
    if ← seesWord "extends" then
      if h.parent.isSome then note .heritageRepeated
      else if !h.interfaces.isEmpty then note .heritageAfterInterfaces
      let _ ← takeWord
      let parents ← listed do return (← g.leftHand, ← typeArguments? g)
      return .inl { h with parent := parents.head? }
    else if ← seesWord "implements" then
      if !h.interfaces.isEmpty then note .interfacesRepeated
      let _ ← takeWord
      return .inl { h with interfaces := ← listed do return (← typeName) ++ (← typeArguments? g) }
    else return .inr h

/-- Gives the decorators that wait for a class. -/
def takeMarks : Parse (List Expr) := modifyGet fun c => (c.marks, { c with marks := [] })

/-- A class from the word `class` on, with the decorators read before it. -/
def classRest (g : Grammar) (start : Nat) (marks : List Expr) : Parse Class := do
  expectWord "class"
  let marks := (← takeMarks) ++ marks
  let id ← if (← token).isBinding && !(← seesWord "implements") then some <$> bindingIdentifier
    else pure none
  let h ← heritage g
  let (membersSpan, members) ← classBody g
  let parent := h.parent.map (·.1)
  let typeArgs := (h.parent.map (·.2)).getD []
  return ⟨← spanFrom start, marks, id, parent, typeArgs, joined ", " h.interfaces,
    membersSpan, members⟩

end ModuleBundler.Grammar
