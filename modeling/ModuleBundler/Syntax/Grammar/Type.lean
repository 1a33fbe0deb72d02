/-
ModuleBundler/Syntax/Grammar/Type.lean

Types of the typed dialect, behind `as`, in type declarations and at the head of
a class.  They have no meaning here.  A type is read into the pieces of its text,
with the names used in it apart, for those are references; most types leave
nothing in the tree.

No type has parameters of its own, and neither parameters nor members have
annotations.
-/
import ModuleBundler.Syntax.Grammar.Function

namespace ModuleBundler.Grammar

open Parse

/-- A type as it is written out. -/
abbrev Pieces := List TypePiece

def word (s : String) : Pieces := [.text s]

/-- Pieces with a text between each two. -/
def joined (between : String) (ps : List Pieces) : Pieces :=
  (ps.intersperse (word between)).flatten

/-- The current token as it is written, taken. -/
def rawPiece : Parse Pieces := do return word (String.ofList (← take).raw)

/-! ### Angle brackets -/

/-- Takes the first `>` of a punctuator for itself. -/
def splitAngle : Parse Unit := modify fun c =>
  match c.token.kind, c.token.raw with
  | .punctuator, '>' :: d :: more =>
      if d = '=' then c
      else
        let span : Span := ⟨c.token.span.start, c.token.span.start + 1⟩
        { c with
          token := { c.token with text := ">", raw := ['>'], span }
          rest := d :: more ++ c.rest, pos := span.stop }
  | _, _ => c

/-- Types in angle brackets. -/
def typeArguments (g : Grammar) : Parse Pieces := do
  expect "<"
  splitAngle
  let (items, _) ← separated ">" (do
    let t ← g.type
    splitAngle
    return t)
  if ← sees ">=" then unexpected
  expect ">"
  return word "<" ++ joined ", " items ++ word ">"

def typeArguments? (g : Grammar) : Parse Pieces := do
  if ← sees "<" then typeArguments g else return []

/-! ### Names -/

/-- A name with dots, of which the first is a reference. -/
def typeName : Parse Pieces := do
  let first ← identifierName
  repeating [TypePiece.name first] fun taken => do
    if ← eat "." then
      let id ← identifierName
      return .inl (taken ++ word ("." ++ id.name))
    else return .inr taken

/-- A name with dots that is declared. -/
def entityName : Parse Unit := do
  let _ ← bindingIdentifier
  repeating () fun () => do
    if ← eat "." then
      let _ ← identifierName
      return .inl ()
    else return .inr ()

def typeReference (g : Grammar) : Parse Pieces := do
  let name ← typeName
  if (← token).newline then return name
  return name ++ (← typeArguments? g)

/-! ### Functions -/

/-- A parameter, of which only a name is written out. -/
def parameterPiece : Pattern → Pieces
  | .name id => word id.name
  | .object _ _ _ => word "\x7b\x7d"
  | .array _ _ _ => word "[]"
  | _ => []

def parameterPieces (items : List Pattern) (rest : Option Pattern) : Pieces :=
  word "(" ++ joined ", " (items.map parameterPiece ++
    rest.toList.map fun p => word "..." ++ parameterPiece p) ++ word ")"

/-- Skips what can be a parameter, and tells whether it was one. -/
def skipParameter (g : Grammar) : Parse Bool := do
  let _ ← modifiers false
  let t ← token
  if t.isBinding || t.isWord "this" then
    let _ ← take
    return true
  if t.is "[" || t.is "\x7b" then
    let before := (← get).noted.length
    let _ ← g.pattern
    return (← get).noted.length = before
  return false

/-- The parentheses here are those of a function's parameters. -/
def seesParameters (g : Grammar) : Parse Bool := foresees do
  let _ ← take
  let t ← token
  if t.is ")" || t.is "..." then return true
  unless ← skipParameter g do return false
  let t ← token
  if t.is ":" || t.is "," || t.is "?" || t.is "=" then return true
  return t.is ")" && (← peek).is "=>"

def seesFunctionType (g : Grammar) : Parse Bool := do
  let t ← token
  if t.is "<" || t.isWord "new" then return true
  else if t.isWord "abstract" then return (← peek).isWord "new"
  else if t.is "(" then seesParameters g
  else return false

/-- The result of a function: a type, or `x is T`. -/
def resultType (g : Grammar) : Parse Pieces := do
  let t ← token
  let next ← peek
  if t.isBinding && next.isWord "is" && !next.newline then
    let id ← takeIdent
    let _ ← take
    return .name id :: word " is " ++ (← g.type)
  else g.type

def functionType (g : Grammar) : Parse Pieces := do
  let isAbstract ← eatWord "abstract"
  let isNew ← eatWord "new"
  let (_, items, rest) ← params g false false
  expect "=>"
  let head := (if isAbstract then "abstract " else "") ++ (if isNew then "new " else "")
  return word head ++ parameterPieces items rest ++ word " => " ++ (← resultType g)

/-! ### Members -/

/-- A member of an object type, and a separator if there is one. -/
def typeMember (g : Grammar) : Parse Pieces := do
  let signature : Parse Pieces := do
    let (_, items, rest) ← params g false false
    return parameterPieces items rest
  let member : Parse Pieces := do
    let t ← token
    if t.is "(" || t.is "<" then return ← signature
    let next ← peek
    if t.isWord "new" && (next.is "(" || next.is "<") then
      let _ ← take
      return word "new " ++ (← signature)
    for w in ← modifiers false do
      unless w == "readonly" do note (.modifierMisplaced w)
    let accessor ← accessorWord?
    let k ← g.key
    let name := match k with
      | .name id => word id.name
      | _ => []
    let optional ← eat "?"
    let mark := word (if optional then "?" else "")
    if accessor.isSome || (← sees "(") || (← sees "<") then
      return name ++ mark ++ (← signature)
    return name ++ mark
  let m ← member
  unless ← eat "," do
    let _ ← eat ";"
  return m

/-- The members of an object type or interface, with the braces. -/
def typeMembers (g : Grammar) : Parse Pieces := do
  expect "\x7b"
  let members ← repeating [] fun taken => do
    let t ← token
    if t.is "\x7d" || t.isNothing then return .inr taken.reverse
    return .inl ((← typeMember g) :: taken)
  expect "\x7d"
  return word "\x7b " ++ joined "; " members ++ word " \x7d"

/-- The brace here is that of a type with a member for each of some keys. -/
def seesMapped : Parse Bool := foresees do
  let _ ← take
  if (← eat "+") || (← eat "-") then return ← seesWord "readonly"
  let _ ← eatWord "readonly"
  unless ← eat "[" do return false
  unless (← take).isBinding do return false
  seesWord "in"

/-- `{ [k in T] }` -/
def mappedType (g : Grammar) : Parse Pieces := do
  let _ ← take
  let sign : Parse Unit := do
    unless ← eat "+" do
      let _ ← eat "-"
  sign
  let _ ← eatWord "readonly"
  expect "["
  let k ← takeIdent
  expectWord "in"
  let keys ← g.type
  let renamed ← if ← eatWord "as" then (word " as " ++ ·) <$> g.type else pure []
  expect "]"
  sign
  let _ ← eat "?"
  let _ ← eat ";"
  expect "\x7d"
  return word ("\x7b [" ++ k.name ++ " in ") ++ keys ++ renamed ++ word "] \x7d"

/-! ### Tuples and templates -/

/-- An element of a tuple, with its name if it has one. -/
def tupleElement (g : Grammar) : Parse Pieces := do
  let named ← foresees do
    let _ ← eat "..."
    unless (← take).isName do return false
    return (← sees ":") || ((← sees "?") && (← peek).is ":")
  let spread ← eat "..."
  let dots := word (if spread then "..." else "")
  if named then
    let id ← identifierName
    let optional ← eat "?"
    expect ":"
    return dots ++ word (id.name ++ (if optional then "?: " else ": ")) ++ (← g.type)
  return dots ++ (← g.type)

def tupleType (g : Grammar) : Parse Pieces := do
  expect "["
  let (items, _) ← separated "]" (tupleElement g)
  expect "]"
  return word "[" ++ joined ", " items ++ word "]"

/-- A template with types in its braces. -/
def templateType (g : Grammar) : Parse Pieces := do
  let head ← rawPiece
  repeating head fun taken => do
    let t ← g.type
    continueTemplate
    match (← token).kind with
    | .template false true => return .inr (taken ++ t ++ (← rawPiece))
    | .template false false => return .inl (taken ++ t ++ (← rawPiece))
    | _ => unexpected

/-- `import("x").T` -/
def importType (g : Grammar) : Parse Pieces := do
  let _ ← takeWord
  expect "("
  let source ← g.type
  if ← eat "," then
    unless ← sees ")" do
      let _ ← withIn g.assignment
    let _ ← eat ","
  expect ")"
  let name ← repeating [] fun taken => do
    if ← eat "." then return .inl (taken ++ word ("." ++ (← identifierName).name))
    else return .inr taken
  return word "import(" ++ source ++ word ")" ++ name ++ (← typeArguments? g)

/-! ### Types without operators -/

/-- The names of the types that are there without a declaration. -/
def builtinTypes : List String := [
  "any", "unknown", "string", "bigint", "number", "symbol", "boolean", "undefined", "never",
  "object", "intrinsic"]

/-- A type that begins with a word. -/
def wordType (g : Grammar) : Parse Pieces := do
  let t ← token
  let next ← peek
  if builtinTypes.contains t.text && !next.is "." then rawPiece
  else match t.text with
    | "void" | "null" | "true" | "false" => rawPiece
    | "this" => do
        let self ← rawPiece
        if (← seesWord "is") && !(← token).newline then
          let _ ← take
          return self ++ word " is " ++ (← g.type)
        else return self
    | "typeof" => do
        let _ ← take
        if ← seesWord "import" then return word "typeof " ++ (← importType g)
        else return word "typeof " ++ (← typeReference g)
    | "import" => importType g
    | "asserts" => do
        if (next.isBinding || next.isWord "this") && !next.newline then
          let _ ← take
          let subject ← if ← seesWord "this" then rawPiece else typeName
          if ← eatWord "is" then return word "asserts " ++ subject ++ word " is " ++ (← g.type)
          else return word "asserts " ++ subject
        else typeReference g
    | _ => typeReference g

def primaryType (g : Grammar) : Parse Pieces := do
  let t ← token
  match t.kind with
  | .string | .number _ | .template true true => rawPiece
  | .template true false => templateType g
  | .name => wordType g
  | .punctuator =>
      match t.text with
      | "-" => do
          if (← peek).isNumber then
            let sign ← rawPiece
            return sign ++ (← rawPiece)
          else unexpected
      | "\x7b" => do if ← seesMapped then mappedType g else typeMembers g
      | "[" => tupleType g
      | "(" => do
          let _ ← take
          let inner ← within ({ · with conditionalTypes := true }) g.type
          expect ")"
          return word "(" ++ inner ++ word ")"
      | "?" => do
          let _ ← take
          let t ← token
          if ["," , "\x7d", ")", ">", "=", "|"].any t.is then return word "?"
          return word "?" ++ (← g.type)
      | "!" => do
          let _ ← take
          return word "!" ++ (← g.type)
      | _ => unexpected
  | _ => unexpected

/-! ### Operators -/

/-- The token can begin a type. -/
def beginsType (t : Token) : Bool :=
  t.isName || t.isString || t.isNumber || t.isTemplateStart ||
    ["\x7b", "[", "(", "<", "|", "&", "-", "!", "?", "*", "..."].any t.is

/-- A type with what follows it: brackets, `!` and `?`. -/
def postfixType (g : Grammar) : Parse Pieces := do
  repeating (← primaryType g) fun taken => do
    let t ← token
    if t.newline then return .inr taken
    else if t.is "!" then return .inl (taken ++ (← rawPiece))
    else if t.is "?" then
      if beginsType (← peek) then return .inr taken
      return .inl (taken ++ (← rawPiece))
    else if t.is "[" then
      let _ ← take
      if ← eat "]" then return .inl (taken ++ word "[]")
      let key ← g.type
      expect "]"
      return .inl (taken ++ word "[" ++ key ++ word "]")
    else return .inr taken

/-- The bound of an inferred type, unless it turns out to be the head of a condition. -/
def inferredBound (g : Grammar) : Parse (Option Pieces) := attempt do
  unless ← eatWord "extends" do return none
  let bound ← within ({ · with conditionalTypes := false }) g.type
  if !(← allowed).conditionalTypes || !(← sees "?") then return some bound else return none

/-- A type with the words before it. -/
def operatorType (g : Grammar) : Parse Pieces :=
  repeating [] fun taken => do
    let t ← token
    if t.isWord "keyof" || t.isWord "unique" || t.isWord "readonly" then
      let _ ← takeWord
      return .inl (taken ++ word (t.text ++ " "))
    else if t.isWord "infer" then
      let _ ← takeWord
      let id ← bindingIdentifier
      let bound := (← inferredBound g).map (word " extends " ++ ·)
      return .inr (taken ++ word ("infer " ++ id.name) ++ bound.getD [])
    else return .inr (taken ++ (← within ({ · with conditionalTypes := true }) (postfixType g)))

/-- Types joined by an operator, which may stand before the first of them as well. -/
def joinedTypes (op : String) (item : Parse Pieces) : Parse Pieces := do
  let _ ← eat op
  let items ← repeating [← item] fun taken => do
    if ← eat op then return .inl ((← item) :: taken) else return .inr taken.reverse
  return joined (" " ++ op ++ " ") items

/-- A type. -/
def typeRule (g : Grammar) : Parse Pieces := do
  if ← seesFunctionType g then return ← functionType g
  let t ← joinedTypes "|" (joinedTypes "&" (operatorType g))
  let next ← token
  if (← allowed).conditionalTypes && next.isWord "extends" && !next.newline then
    let _ ← takeWord
    let bound ← within ({ · with conditionalTypes := false }) g.type
    expect "?"
    let yes ← within ({ · with conditionalTypes := true }) g.type
    expect ":"
    let no ← within ({ · with conditionalTypes := true }) g.type
    return t ++ word " extends " ++ bound ++ word " ? " ++ yes ++ word " : " ++ no
  return t

end ModuleBundler.Grammar
