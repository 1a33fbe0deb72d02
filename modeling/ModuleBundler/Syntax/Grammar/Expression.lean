/-
ModuleBundler/Syntax/Grammar/Expression.lean

Expressions, from the tightest construct to the loosest: primary expressions,
members and calls, unary operators, binary operators by binding strength, and
assignments with conditionals and arrow functions.
-/
import ModuleBundler.Syntax.Grammar.Class

namespace ModuleBundler.Grammar

open Parse

/-! ### Primary expressions -/

/-- An expression in parentheses.  Several, separated by commas, are one sequence. -/
def parenthesized (g : Grammar) : Parse Expr := do
  let start ← here
  expect "("
  let inner ← here
  let (items, _) ← withIn (separated ")" g.assignment)
  let innerSpan ← spanFrom inner
  expect ")"
  match items with
  | [] => fail .emptyParentheses
  | [e] => return .paren (← spanFrom start) e
  | es => return .paren (← spanFrom start) (.sequence innerSpan es)

/-- An element of an argument list or array. -/
def element (g : Grammar) : Parse Element := do
  let start ← here
  if ← eat "..." then
    let e ← withIn g.assignment
    return .spread (← spanFrom start) e
  else return .item (← withIn g.assignment)

def arrayElement (g : Grammar) : Parse Element := do
  if ← sees "," then return .hole ⟨← here, ← here⟩ else element g

/-- Remembers an array or object that ends in a comma. -/
def noteTrailing (start : Nat) (comma : Option Nat) : Parse Unit := do
  if comma.isSome then modify fun c => { c with trailing := start :: c.trailing }

def array (g : Grammar) : Parse Expr := do
  let start ← here
  expect "["
  let (items, comma) ← withIn (separated "]" (arrayElement g))
  expect "]"
  noteTrailing start comma
  return .array (← spanFrom start) items

/-- A property of an object.  A name without a colon is a shorthand. -/
def property (g : Grammar) : Parse Property := do
  let start ← here
  if ← eat "..." then
    let e ← g.assignment
    return .spread (← spanFrom start) e
  misplaced (← decorators g)
  let words ← modifiers false
  if let some kind ← accessorWord? then
    let k ← g.key
    let f ← method g false false
    return .method (← spanFrom start) kind k f
  let isGenerator ← eat "*"
  let t ← token
  let k ← g.key
  if isGenerator || (← sees "(") || (← sees "<") then
    for w in words do
      unless w == "async" do note (.modifierMisplaced w)
    let f ← method g (words.contains "async") isGenerator
    return .method (← spanFrom start) .method k f
  if t.isBinding && !(← sees ":") && !(← sees ".") then
    checkOperatorName t
    let id : Ident := ⟨t.text, t.span⟩
    if ← eat "=" then
      let value ← withIn g.assignment
      let span ← spanFrom start
      modify fun c => { c with shorthands := span.start :: c.shorthands }
      return .keyed span (.name id) (.assign span .store (.name id) value) true
    else return .keyed (← spanFrom start) (.name id) (.name id) true
  else
    expect ":"
    let value ← withIn g.assignment
    return .keyed (← spanFrom start) k value false

def object (g : Grammar) : Parse Expr := do
  let start ← here
  expect "\x7b"
  let (members, comma) ← withIn (separated "\x7d" (property g))
  expect "\x7d"
  noteTrailing start comma
  return .object (← spanFrom start) members

/-- The text of a piece, whose line ends are all written the same way. -/
def pieceText (t : Token) : String :=
  String.ofList (go t.text.toList)
where
  go : List Char → List Char
    | '\r' :: '\n' :: rest => '\n' :: go rest
    | '\r' :: rest => '\n' :: go rest
    | c :: rest => c :: go rest
    | [] => []

/-- A template.  In one that a function receives, malformed escapes are allowed.  Expressions may
stand side by side in one pair of braces. -/
def template (g : Grammar) (isTagged : Bool) : Parse Template := do
  let start ← here
  let piece : Parse (String × Bool) := do
    let t ← take
    if t.malformed && !isTagged then note .templateEscape
    return (pieceText t, t.kind == .template true true || t.kind == .template false true)
  let substitution : Parse Expr := do
    let e ← withIn g.expr
    continueTemplate
    return e
  let (first, ended) ← piece
  if ended then return ⟨← spanFrom start, [first], []⟩
  let e ← substitution
  repeating (([first], [e]) : List String × List Expr) fun (quasis, exprs) => do
    let t ← token
    match t.kind with
    | .template false _ =>
        let (text, ended) ← piece
        if ended then return .inr ⟨← spanFrom start, (text :: quasis).reverse, exprs.reverse⟩
        else return .inl (text :: quasis, exprs)
    | .eof => throw { reason := .expected "\x7d" t.shown, yields := true }
    | _ => return .inl (quasis, (← substitution) :: exprs)

/-- A regular expression; the current token begins with its slash. -/
def regex : Parse Expr := do
  let c ← get
  let s := Lexeme.regex (c.token.raw ++ c.rest)
  let span : Span := ⟨c.token.span.start, c.token.span.start + s.raw.length⟩
  if s.errors.isEmpty then
    let pattern := (s.raw.drop 1).take (s.raw.length - s.text.length - 2)
    set { c with
      token := { c.token with kind := .regex, text := s.text, raw := s.raw, span }
      rest := s.rest, pos := span.stop }
    let _ ← take
    let flags := Lexeme.regexFlags.filter fun f => s.text.toList.contains f
    return .regex span (String.ofList pattern) (String.ofList flags)
  else
    set { c with lexical := s.errors.reverse ++ c.lexical }
    throw { reason := .unexpectedToken }

/-- The word `import` as the head of an expression. -/
def importExpr (g : Grammar) : Parse Expr := do
  let start ← here
  let _ ← takeWord
  let call (phase : Option String) : Parse Expr := do
    expect "("
    if ← sees ")" then fail .importSpecifierRequired
    let source ← withIn g.assignment
    let options ← if ← eat "," then
        if ← sees ")" then pure none else some <$> withIn g.assignment
      else pure none
    let _ ← eat ","
    unless ← eat ")" do fail .importArguments
    return .importCall (← spanFrom start) phase source options
  if ← eat "." then
    let t ← token
    if t.isWord "meta" then
      let _ ← takeWord
      return .metaProperty (← spanFrom start) "import" "meta"
    else if t.isWord "source" || t.isWord "defer" then
      let _ ← takeWord
      call (some t.text)
    else fail .importMeta
  else if ← sees "(" then call none
  else unexpected

/-- The word `new`, what it constructs, and arguments if there are any. -/
def newExpr (g : Grammar) : Parse Expr := do
  let start ← here
  let _ ← takeWord
  if ← eat "." then
    if ← eatWord "target" then return .metaProperty (← spanFrom start) "new" "target"
    else fail .newTarget
  let callee ← g.callee
  match callee with
  | .importCall _ _ _ _ => note .newWithImport
  | _ => pure ()
  let chained := (hasChain callee) || (← sees "?.")
  let _ ← eat "?."
  let args ← if ← eat "(" then
      let (args, _) ← withIn (separated ")" (element g))
      expect ")"
      pure args
    else pure []
  if chained then note .newWithOptionalChain
  return .new (← spanFrom start) callee args false
where
  /-- An optional chain ends the expression. -/
  hasChain : Expr → Bool
    | .member _ e _ opt | .privateMember _ e _ opt | .index _ e _ opt => opt || hasChain e
    | _ => false

def superExpr : Parse Expr := do
  let t ← takeWord
  unless (← sees ".") || (← sees "[") || (← sees "(") do note .unexpectedSuper
  return .super t.span

/-- A class with decorators before it. -/
def classExpr (g : Grammar) : Parse Expr := do
  let start ← here
  let marks ← decorators g
  return .classExpr (← classRest g start marks)

/-- An expression that no operator holds together. -/
def primary (g : Grammar) : Parse Expr := do
  let t ← token
  match t.kind with
  | .string => return .string (← stringLiteral)
  | .number _ => numberLiteral
  | .template true _ => return .template (← template g false)
  | .punctuator =>
      if t.is "(" then parenthesized g
      else if t.is "[" then array g
      else if t.is "\x7b" then object g
      else if t.is "/" || t.is "/=" then regex
      else if t.is "@" then classExpr g
      else unexpected
  | .name =>
      match t.text with
      | "this" => return .this (← takeWord).span
      | "null" => return .null (← takeWord).span
      | "true" => return .bool (← takeWord).span true
      | "false" => return .bool (← takeWord).span false
      | "function" => return .function (← function g .expression)
      | "class" => classExpr g
      | "new" => newExpr g
      | "super" => superExpr
      | "import" => importExpr g
      | "async" =>
          if ← seesFunction then return .function (← function g .expression)
          else return .name (← identifierReference)
      | _ => return .name (← identifierReference)
  | _ => unexpected

/-! ### Members and calls -/

/-- The member accesses that follow an expression, and whether one of them is optional.  An
optional call is left to `callRest`. -/
def memberRest (g : Grammar) (start : Nat) (e : Expr) (chained : Bool) : Parse (Expr × Bool) :=
  repeating (e, chained) fun (e, chained) => do
    let t ← token
    let field (optional : Bool) : Parse Expr := do
      let t ← token
      if t.kind == .privateName then
        let id ← privateIdentifier
        return .privateMember (← spanFrom start) e id optional
      else
        let id ← identifierName
        return .member (← spanFrom start) e id optional
    let keyed (optional : Bool) : Parse Expr := do
      expect "["
      let k ← withIn g.expr
      expect "]"
      return .index (← spanFrom start) e k optional
    if t.is "." then
      let _ ← take
      return .inl (← field false, chained)
    else if t.is "[" && !(← allowed).decorator then return .inl (← keyed false, chained)
    else if t.is "?." then
      let next ← peek
      if next.is "(" then return .inr (e, chained)
      let _ ← take
      if next.is "[" then return .inl (← keyed true, true)
      else if next.isTemplateStart then
        note .templateInOptionalChain
        let quasi ← template g true
        return .inl (.tagged (← spanFrom start) e quasi, true)
      else return .inl (← field true, true)
    else if t.isTemplateStart then
      if chained then note .templateInOptionalChain
      let quasi ← template g true
      return .inl (.tagged (← spanFrom start) e quasi, chained)
    else return .inr (e, chained)

/-- The calls and members that follow an expression. -/
def callRest (g : Grammar) (start : Nat) (e : Expr) (chained : Bool) : Parse (Expr × Bool) :=
  repeating (e, chained) fun (e, chained) => do
    let (e, chained) ← memberRest g start e chained
    let optional ← eat "?."
    if ← eat "(" then
      let (args, _) ← within ({ · with inOperator := true, decorator := false })
        (separated ")" (element g))
      expect ")"
      return .inl (.call (← spanFrom start) e args optional false, chained || optional)
    else if optional then unexpected
    else return .inr (e, chained)

/-- A primary expression with members, but no calls. -/
def calleeRule (g : Grammar) : Parse Expr := do
  let start ← here
  let e ← primary g
  return (← memberRest g start e false).1

/-- A primary expression with members and calls. -/
def leftHandRule (g : Grammar) : Parse Expr := do
  let start ← here
  let (e, chained) ← callRest g start (← primary g) false
  if chained then return .chain (← spanFrom start) e else return e

/-! ### Unary operators -/

/-- The word `await` begins an operator, not a name. -/
def seesAwait : Parse Bool := do
  let t ← token
  unless t.isWord "await" do return false
  if (← allowed).awaitWord then return true
  let next ← peek
  return !next.newline && (next.isName || next.isNumber || next.isString)

/-- Marks the call that an expression begins with as free of effects. -/
def markPure : Expr → Expr
  | .call s c as o _ => .call s c as o true
  | .new s c as _ => .new s c as true
  | .binary s op l r => .binary s op (markPure l) r
  | .conditional s t a b => .conditional s (markPure t) a b
  | .chain s (.call s' c as o _) => .chain s (.call s' c as o true)
  | .paren s e => .paren s (markPure e)
  | e => e

/-- An expression with at most one `++` or `--`. -/
def updateExpr (g : Grammar) : Parse Expr := do
  let start ← here
  let t ← token
  let op? : Token → Option UpdateOp := fun t =>
    if t.is "++" then some .increment else if t.is "--" then some .decrement else none
  match op? t with
  | some op =>
      let _ ← take
      let e ← g.unary
      let target ← simpleTarget e
      return .update (← spanFrom start) op true target
  | none =>
      let e ← leftHandRule g
      let t ← token
      match op? t with
      | some op =>
          if t.newline then return e
          let target ← simpleTarget e
          let _ ← take
          return .update (← spanFrom start) op false target
      | none => return e

def unaryRule (g : Grammar) : Parse Expr := do
  let start ← here
  let t ← token
  let e ←
    if ← seesAwait then
      let _ ← takeWord
      unless (← allowed).awaitWord do note .awaitOutsideAsync
      let arg ← g.unary
      pure (.await (← spanFrom start) arg)
    else match (if t.kind == .punctuator || t.kind == .name then UnaryOp.ofText? t.text else none) with
      | some op =>
          let _ ← takeWord
          let arg ← g.unary
          pure (.unary (← spanFrom start) op arg)
      | none => updateExpr g
  return if t.pure then markPure e else e

/-! ### Binary operators -/

/-- The binary operator that the current token is. -/
def binaryOp? (t : Token) (a : Allow) : Option BinaryOp :=
  match t.kind with
  | .punctuator => BinaryOp.ofText? t.text
  | .name =>
      match t.text with
      | "in" => if a.inOperator then some .memberOf else none
      | "instanceof" => some .instanceOf
      | _ => none
  | _ => none

/-- An `and` or `or` directly beside `??`. -/
def mixesCoalesce (l r : Expr) : Bool :=
  let shortCircuit : Expr → Option Bool := fun e =>
    match e with
    | .binary _ .and _ _ | .binary _ .or _ _ => some true
    | .binary _ .coalesce _ _ => some false
    | _ => none
  (shortCircuit r).getD ((shortCircuit l).getD false)

/-- The operators that follow an operand and bind more tightly than `min`.  Equal strength goes to
the left, except for the power operator. -/
def binaryRest (g : Grammar) (start : Nat) (e : Expr) (opened : Bool) (min : Nat) : Parse Expr :=
  repeating (e, opened) fun (e, opened) => do
    let t ← token
    if (t.isWord "as" || t.isWord "satisfies") && min < Precedence.compare.level && !t.newline then
      let _ ← takeWord
      let _ ← g.type
      note (if t.text == "as" then .typeAssertion else .typeSatisfaction)
      return .inl (e, false)
    match binaryOp? t (← allowed) with
    | none => return .inr e
    | some op =>
        let level := op.precedence.level
        if (if op == .exp then level < min else level ≤ min) then return .inr e
        let _ ← takeWord
        let right ← g.binary level
        if op == .coalesce && mixesCoalesce e right then note .mixedCoalesce
        match op, e with
        | .exp, .unary _ _ _ => unless opened do note .exponentOfUnary
        | .exp, .await _ _ => unless opened do note .exponentOfUnary
        | _, _ => pure ()
        return .inl (.binary (← spanFrom start) op e right, false)

def binaryRule (g : Grammar) (min : Nat) : Parse Expr := do
  let start ← here
  let t ← token
  if t.kind == .privateName && (← allowed).inOperator then
    let id ← privateIdentifier
    expectWord "in"
    let right ← g.binary Precedence.compare.level
    match right with
    | .privateIn _ _ _ => fail .privateInPrivate
    | _ => pure ()
    let e := Expr.privateIn (← spanFrom start) id right
    binaryRest g start e false min
  else
    let opened := t.is "("
    let e ← unaryRule g
    binaryRest g start e opened min

/-! ### Assignments -/

def seesYield : Parse Bool := do
  let t ← token
  unless t.isWord "yield" do return false
  if (← allowed).yieldWord then return true
  let next ← peek
  return !next.newline && (next.isName || next.isNumber || next.isString)

def yieldExpr (g : Grammar) : Parse Expr := do
  let start ← here
  unless (← allowed).yieldWord do note .yieldOutsideGenerator
  let _ ← takeWord
  let t ← token
  if t.newline then return .yield (← spanFrom start) false none
  let delegate ← eat "*"
  let ends := t.is ")" || t.is "]" || t.is "\x7d" || t.is "," || t.is ";" || t.is ":" ||
    t.isWord "in" || t.isEnd
  if !delegate && ends then return .yield (← spanFrom start) false none
  let arg ← g.assignment
  return .yield (← spanFrom start) delegate (some arg)

/-- The two branches after a condition. -/
def conditionalRest (g : Grammar) (start : Nat) (e : Expr) : Parse Expr := do
  if ← eat "?" then
    let yes ← withIn g.assignment
    expect ":"
    let no ← g.assignment
    return .conditional (← spanFrom start) e yes no
  else return e

/-- Marks the function that an expression is as free of effects. -/
def markPureFunction : Expr → Expr
  | .function f => .function { f with isPure := true }
  | .arrow f concise => .arrow { f with isPure := true } concise
  | e => e

def assignmentRule (g : Grammar) : Parse Expr := do
  let first ← token
  let plain : Parse Expr := do
    if ← seesYield then return ← yieldExpr g
    if let some e ← tryArrow g then return e
    if let some e ← tryAsyncArrow g then return e
    let start ← here
    let left ← binaryRule g Precedence.comma.level
    let t ← token
    match left with
    | .name id => if t.is "=>" then return ← simpleArrow g start false id
    | _ => pure ()
    match (if t.kind == .punctuator then AssignOp.ofText? t.text else none) with
    | some op =>
        let target ← if op = .store then toTarget g left else simpleTarget left
        let _ ← take
        let value ← g.assignment
        return .assign (← spanFrom start) op target value
    | none => conditionalRest g start left
  let e ← plain
  let e := if first.noSideEffects then markPureFunction e else e
  return if first.pure then markPure e else e

/-- An expression, with commas. -/
def exprRule (g : Grammar) : Parse Expr := do
  let start ← here
  let first ← within ({ · with decorator := false }) g.assignment
  if ← sees "," then
    let items ← repeating [first] fun taken => do
      if ← eat "," then return .inl ((← g.assignment) :: taken)
      else return .inr taken.reverse
    return .sequence (← spanFrom start) items
  else return first

end ModuleBundler.Grammar
