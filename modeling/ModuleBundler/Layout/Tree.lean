/-
ModuleBundler/Layout/Tree.lean

The layout of expressions, patterns and statements.

An expression is laid out under the strength with which its surroundings hold it
(`Precedence`), and under two prohibitions: where a bare `in` would end the head of
a `for` statement, and where a bare call would be taken for the arguments of `new`.
Parentheses of the source are dropped; these three decide where parentheses stand.

Each function of a list gives the layouts of its members, so the functions below
recur on the tree alone.
-/
import ModuleBundler.Syntax.Tree
import ModuleBundler.Layout.Page
import ModuleBundler.Layout.Numeral
import ModuleBundler.Layout.Literal
import ModuleBundler.Layout.Module

namespace ModuleBundler

/-- The next looser strength. -/
def Precedence.looser : Precedence → Precedence
  | lowest | comma => lowest
  | spread => comma | yield => spread | assign => yield | conditional => assign
  | coalesce => conditional | or => coalesce | and => or | bitOr => and | bitXor => bitOr
  | bitAnd => bitXor | equals => bitAnd | compare => equals | shift => compare | add => shift
  | multiply => add | exponent => multiply | unary => exponent | postfixed => unary
  | new => postfixed | call => new | member => call

/-- What the surroundings forbid to stand bare. -/
structure Bare where
  noIn : Bool := false
  noCall : Bool := false
deriving DecidableEq, Inhabited, Repr

namespace Layout

def numeral (n : Numeral) : Layout := do
  put n.text
  if Numeral.takesPoint n.text then setMark .integer

/-- Whether a mark tells that a statement or the expression of an arrow function begins. -/
def isOpening : Mark → Bool
  | .statement | .arrowBody => true
  | _ => false

/-- Whether a mark tells that a function or class here would be taken for a declaration. -/
def opensDeclaration : Mark → Bool
  | .statement | .standardExport => true
  | _ => false

/-- `&&` and `||` may not meet `??` without parentheses. -/
def mixes : Expr → Bool
  | .binary _ .and _ _ | .binary _ .or _ _ => true
  | _ => false

/-- The strengths with which a binary operator holds its operands. -/
def operandStrengths (op : BinaryOp) (left right : Expr) : Precedence × Precedence :=
  let own := op.precedence
  match op with
  | .exp =>
      let signed := match left.strip with
        | .unary _ _ _ => true
        | _ => false
      (if signed then .call else own, own.looser)
  | .coalesce =>
      (if mixes left.strip then .unary else own.looser, if mixes right.strip then .unary else own)
  | _ => (own.looser, own)

/-- Decorators that need no parentheses: names, members of them, and calls of those. -/
def plainDecorator : Expr → Bool
  | .name _ => true
  | .member _ o _ _ => plainDecorator o
  | .call _ f _ _ _ => plainDecorator f
  | _ => false

/-- A `let` that an index follows would open a declaration. -/
def isLet : Expr → Bool
  | .name id => id.name == "let"
  | _ => false

/-- A name `async` before `of` or `in` would be taken for the word. -/
def isAsync : Pattern → Bool
  | .name id => id.name == "async"
  | _ => false

/-- The name of a key and its value are one name, which is then written once. -/
def sameName (key : Key) (value : Option Ident) : Bool :=
  match key, value with
  | .name k, some v => k.name == v.name
  | _, _ => false

def patternName? : Pattern → Option Ident
  | .name id | .withDefault _ (.name id) _ => some id
  | _ => none

def inBrackets (step : Layout) : Layout := do
  put "["
  step
  put "]"

/-- Members of an array, the last of which may be a hole.  More than two stand on lines of
their own. -/
def arrayLines (items : List Layout) (holeLast : Bool) : Layout := do
  let long := items.length > 2
  let steps := fun (between : Layout) => do
    separated between items
    if holeLast then put ","
  inBrackets do
    if long then
      newline
      deeper do
        indent
        steps (do put ","; newline; indent)
      newline
      indent
    else steps (put ", ")

/-- Members of an object.  More than one stand on lines of their own. -/
def objectLines (members : List Layout) : Layout := do
  put "\x7b"
  match members with
  | [] => pure ()
  | [m] => do
      put " "
      m
      put " "
  | ms => do
      deeper do
        newline
        indent
        separated (do put ","; newline; indent) ms
      newline
      indent
  put "\x7d"

/-- Members of an array pattern. -/
def patternList (items : List (Option Layout)) (rest : Option Layout) : Layout := do
  inBrackets do
    separated (put ", ") (items.map (·.getD (pure ())))
    if items.getLast?.any (·.isNone) || (rest.isSome && !items.isEmpty) then put ","
    match rest with
    | some r => do
        unless items.isEmpty do put " "
        put "..."
        r
    | none => pure ()

/-- Properties of an object pattern; the rest follows without a blank. -/
def fieldList (fields : List Layout) (rest : Option Layout) : Layout := do
  separated (put ", ") fields
  match rest with
  | some r => do
      unless fields.isEmpty do put ","
      put "..."
      r
  | none => pure ()

/-- The pieces of a template and the expressions between them. -/
def templateParts : List String → List Layout → Layout
  | q :: qs, e :: es => do
      put q
      put "$\x7b"
      e
      put "\x7d"
      templateParts qs es
  | q :: _, [] => put q
  | [], _ => pure ()

/-- Arguments of a call.  If a comment stands before one of them or before the closing parenthesis,
each stands on a line of its own. -/
def arguments (span : Span) (args : List (Span × Layout)) : Layout := do
  let last := span.stop - 1
  let atEnd ← if span.stop > 0 then hasComments last else pure false
  let places := args.map (·.1.start)
  let page ← get
  put "("
  if atEnd || places.any fun n => page.comments.any fun c => c.1 == n then
    deeper do
      separated (put ",") (args.map fun (s, step) => do
        ownLines (← takeComments s.start)
        newline
        indent
        step)
      ownLines (← if atEnd then takeComments last else pure [])
      newline
    indent
  else separated (put ", ") (args.map (·.2))
  put ")"

/-- The words and the name before the parameters of a function. -/
def functionHead (isAsync isGenerator : Bool) (id : Option Ident) : Layout := do
  if isAsync then put "async "
  put (if isGenerator then "function* " else "function")
  match id with
  | some i => do
      unless isGenerator do put " "
      put i.name
  | none => pure ()

def parameters (params : List Layout) (rest : Option Layout) : Layout := do
  put "("
  separated (put ", ") params
  match rest with
  | some r => do
      unless params.isEmpty do put ", "
      put "..."
      r
  | none => pure ()
  put ")"

/-- Words before the name of a method that belong to its function. -/
def methodHead (kind : MethodKind) (isAsync isGenerator : Bool) : Layout := do
  match kind with
  | .method => pure ()
  | .getter => put "get "
  | .setter => put "set "
  if isAsync then put "async "
  if isGenerator then put "*"

/-- Words before the name of a method that belong to the class. -/
def methodTraits (t : Traits) : Layout := do
  match t.access with
  | some a => put (a ++ " ")
  | none => pure ()
  if t.isAbstract then put "abstract "
  if t.isStatic then put "static "

/-- Words before the name of a field. -/
def fieldTraits (t : Traits) (accessor : Bool) : Layout := do
  if t.isDeclared then put "declare "
  match t.access with
  | some a => put (a ++ " ")
  | none => pure ()
  if t.isAbstract then put "abstract "
  if t.isStatic then put "static "
  if t.isReadonly then put "readonly "
  if accessor then put "accessor "

/-- A type in pieces. -/
def typePieces (ps : List TypePiece) : Layout :=
  all (ps.map fun
    | .text t => put t
    | .name id => put id.name)

/-- A comment tells that calls of a function have no effects. -/
def pureFunction : String := "/* @__NO_SIDE_EFFECTS__ */"

/-- A statement without `else` at the end of the branch before an `else`. -/
def endsInOpenIf : Stmt → Bool
  | .cond _ _ _ none => true
  | .cond _ _ _ (some no) => endsInOpenIf no
  | .forLoop _ _ _ _ body | .forIn _ _ _ body | .forOf _ _ _ _ body | .whileLoop _ _ body
  | .labeled _ _ body | .withObject _ _ body => endsInOpenIf body
  | _ => false

/-- How a statement joins what stands around it. -/
inductive FormKind where
  | block | empty | conditional | other
deriving DecidableEq

/-- A statement laid out, without the comments before it and the indentation of its line. -/
structure Form where
  place : Nat
  kind : FormKind
  step : Layout

namespace Form

/-- A statement on lines of its own. -/
def line (f : Form) : Layout := do
  commentsAt f.place
  indent
  f.step
  if f.kind = .block then newline

def lines (fs : List Form) : Layout := all (fs.map line)

/-- A statement after the head of a loop or a label. -/
def branch (f : Form) : Layout :=
  match f.kind with
  | .block => do
      put " "
      f.step
      newline
  | .empty => f.step
  | .conditional | .other => do
      join
      f.line

/-- The statements of a block. -/
def block (fs : List Form) : Layout := braces fs.isEmpty (lines fs)

/-- The statement after the condition of an `if`, and then what follows it. -/
def consequent (f : Form) (dangling : Bool) (alternative : Option Form) : Layout := do
  if f.kind = .block || dangling then
    put " "
    if f.kind = .block then f.step else block [f]
    put (if alternative.isSome then " " else "\n")
  else
    f.branch
    if alternative.isSome then indent
  match alternative with
  | none => pure ()
  | some g => do
      put "else"
      if g.kind = .conditional then
        put " "
        g.step
      else g.branch

/-- The body of a `do` statement. -/
def doBody (f : Form) : Layout :=
  match f.kind with
  | .block => do
      put " "
      f.step
      put " "
  | _ => do
      newline
      deeper f.line
      indent

end Form

/-- The directives at the head of a body. -/
def directiveLines (ds : List Directive) : Layout :=
  all (ds.map fun d => do
    indent
    put d.layout
    newline)

/-- The comments at the end of a body let it stand on one line. -/
def fitsOneLine (cs : List Comment) : Bool :=
  cs.all fun c => c.isBlock && !c.newlineBefore && !c.newlineAfter

/-- The string that a statement consists of. -/
def stringOf? : Stmt → Option Literal
  | .expr _ e =>
      match e.strip with
      | .string v => some v
      | _ => none
  | _ => none

/-- The statements of a body.  A string that opens it without being a directive stands in
parentheses, at the head of its line. -/
def bodyLines (directives : List Directive) (stmts : List Stmt) (forms : List Form) : Layout := do
  directiveLines directives
  match (if directives.isEmpty then stmts.head?.bind stringOf? else none) with
  | some v => do
      put ("(" ++ v.layout ++ ");\n")
      Form.lines (forms.drop 1)
  | none => Form.lines forms

/-- A function body: its directives, its statements and the comments at its end. -/
def functionBody (span : Span) (directives : List Directive) (stmts : List Stmt)
    (forms : List Form) : Layout := do
  let cs ← if span.stop > 0 then takeComments (span.stop - 1) else pure []
  braces (directives.isEmpty && stmts.isEmpty && fitsOneLine cs) do
    bodyLines directives stmts forms
    comments cs

end Layout

open Layout

mutual

def Expr.layout (p : Precedence) (b : Bare) : Expr → Layout
  | .name id => put id.name
  | .this _ => put "this"
  | .super _ => put "super"
  | .null _ => put "null"
  | .bool _ v => put (if v then "true" else "false")
  | .number _ n _ => numeral n
  | .bigint _ raw => put (String.ofList (raw.toList.filter (· != '_')))
  | .string v => put v.layout
  | .regex _ pattern flags => put ("/" ++ pattern ++ "/" ++ flags)
  | .template t => t.layout
  | .array _ items => arrayLines ((Element.layouts items).map (·.2.2))
      ((Element.layouts items).getLast?.any (·.1))
  | .object _ members => do
      wrap (isOpening (← get).mark) (objectLines (Property.layouts members))
  | .function f => do
      wrap (opensDeclaration (← get).mark) do
        if f.isPure then put (pureFunction ++ " ")
        f.layout { b with noCall := false }
  | .arrow f concise => wrap (p ≥ .assign) do
      if f.isPure then put (pureFunction ++ " ")
      if f.isAsync then put "async "
      f.layoutParams
      put " => "
      if concise then f.layoutConcise b else f.layoutBody b
  | .classExpr c => do
      wrap (opensDeclaration (← get).mark) (c.layout { b with noCall := false })
  | .unary _ op e => wrap (p ≥ .unary) do
      if op.isWord then put (op.text ++ " ") else prefixSign op.text
      e.layout .exponent b
  | .update _ op before t =>
      if before then wrap (p ≥ .unary) do
        prefixSign op.text
        t.layoutTarget
      else wrap (p ≥ .postfixed) do
        t.layoutTarget
        put op.text
  | .binary _ op l r =>
      let wrapped := decide (p ≥ op.precedence) || (op == .memberOf && b.noIn)
      let inner : Bare := if wrapped then { b with noIn := false } else b
      let strengths := operandStrengths op l r
      wrap wrapped do
        l.layout strengths.1 inner
        put (" " ++ op.text ++ " ")
        r.layout strengths.2 { inner with noCall := false }
  | .privateIn _ field e => wrap (p ≥ .compare) do
      put ("#" ++ field.name ++ " in ")
      e.layout .equals { noIn := true }
  | .conditional _ t y n =>
      let wrapped := decide (p ≥ .conditional)
      let inner : Bare := { noIn := b.noIn && !wrapped }
      wrap wrapped do
        t.layout .conditional inner
        put " ? "
        y.layout .yield {}
        put " : "
        n.layout .yield inner
  | .assign _ op t v => do
      let isObject := match t with
        | .object _ _ _ => true
        | _ => false
      let opening := isOpening (← get).mark
      wrap ((isObject && opening) || p ≥ .assign) do
        t.layoutTarget
        put (" " ++ op.text ++ " ")
        v.layout .comma b
  | .sequence _ items => wrap (p ≥ .comma)
      (separated (put ", ") (Expr.layouts .lowest { b with noCall := false } items))
  | .call span f args optional pure => do
      let mark := (← get).mark
      wrap (p ≥ .new || b.noCall || (pure && p ≥ .postfixed)) do
        if pure then
          put "/* @__PURE__ */ "
          setMark mark
        f.layout .postfixed {}
        if optional then put "?."
        arguments span ((Element.layouts args).map (·.2))
  | .new span f args pure => wrap (pure && p ≥ .postfixed) do
      if pure then put "/* @__PURE__ */ "
      put "new "
      f.layout .new { noCall := true }
      arguments span ((Element.layouts args).map (·.2))
  | .member _ o field optional => do
      o.layout .postfixed { noCall := b.noCall }
      if !optional && (← get).mark == .integer then put " "
      put ((if optional then "?." else ".") ++ field.name)
  | .index _ o k optional => do
      wrap (isLet o) (o.layout .postfixed { noCall := b.noCall })
      if optional then put "?."
      inBrackets (k.layout .lowest {})
  | .privateMember _ o field optional => do
      o.layout .postfixed { noCall := b.noCall }
      put ((if optional then "?.#" else ".#") ++ field.name)
  | .chain _ e => wrap (p ≥ .postfixed) (e.layout p b)
  | .tagged _ f t => do
      f.layout .postfixed {}
      t.layout
  | .paren _ e => e.layout p b
  | .yield _ delegate e => wrap (p ≥ .assign) do
      put (if delegate then "yield*" else "yield")
      match e with
      | some e => do
          put " "
          e.layout .yield {}
      | none => pure ()
  | .await _ e => wrap (p ≥ .unary) do
      put "await "
      e.layout .exponent b
  | .importCall span phase source options =>
      wrap (p ≥ .new || b.noCall) do
        put ("import" ++ phase.getD "")
        let others : List (Span × Layout) := match options with
          | some o => [(o.span, o.layout .comma {})]
          | none => []
        arguments span ((source.span, source.layout .comma {}) :: others)
  | .metaProperty _ object field => put (object ++ "." ++ field)

def Expr.layouts (p : Precedence) (b : Bare) : List Expr → List Layout
  | [] => []
  | e :: rest => e.layout p b :: Expr.layouts p b rest

/-- The members of an array or argument list: whether one is a hole, its span and its layout. -/
def Element.layouts : List Element → List (Bool × Span × Layout)
  | [] => []
  | .hole s :: rest => (true, s, pure ()) :: Element.layouts rest
  | .item e :: rest => (false, e.span, e.layout .comma {}) :: Element.layouts rest
  | .spread s e :: rest =>
      (false, s, do put "..."; e.layout .comma {}) :: Element.layouts rest

def Key.layout : Key → Layout
  | .name id => put id.name
  | .privateName id => put ("#" ++ id.name)
  | .literal e => e.layout .comma {}
  | .computed e => inBrackets (e.layout .comma {})

def Property.layouts : List Property → List Layout
  | [] => []
  | .keyed _ k v shorthand :: rest =>
      (do
        let isProto := match k with
          | .name id => id.name == "__proto__"
          | _ => false
        unless (if isProto then shorthand else sameName k v.strip.name?) do
          k.layout
          put ": "
        v.layout .comma {}) :: Property.layouts rest
  | .method _ kind k f :: rest =>
      (do
        methodHead kind f.isAsync f.isGenerator
        k.layout
        f.layoutParams
        put " "
        f.layoutBody {}) :: Property.layouts rest
  | .spread _ e :: rest => (do put "..."; e.layout .comma {}) :: Property.layouts rest

def Template.layout : Template → Layout
  | ⟨_, quasis, exprs⟩ => do
      put "\x60"
      templateParts quasis (Expr.layouts .lowest {} exprs)
      put "\x60"

/-- A pattern that binds names. -/
def Pattern.layout : Pattern → Layout
  | .name id => put id.name
  | .place e => e.layout .comma {}
  | .object _ fields rest =>
      if fields.isEmpty && rest.isNone then put "\x7b\x7d"
      else do
        put "\x7b "
        match rest with
        | some r => fieldList (Field.layouts fields) (some r.layout)
        | none => fieldList (Field.layouts fields) none
        put " \x7d"
  | .array _ items rest =>
      match rest with
      | some r => patternList (Pattern.layouts items) (some r.layout)
      | none => patternList (Pattern.layouts items) none
  | .withDefault _ t e => do
      t.layout
      put " = "
      e.layout .comma {}
  | .decorated _ marks t => do
      all (Expr.decoratorLayouts marks)
      t.layout

def Pattern.layouts : List (Option Pattern) → List (Option Layout)
  | [] => []
  | none :: rest => none :: Pattern.layouts rest
  | some p :: rest => some p.layout :: Pattern.layouts rest

def Pattern.layoutParams : List Pattern → List Layout
  | [] => []
  | p :: rest => p.layout :: Pattern.layoutParams rest

def Field.layouts : List Field → List Layout
  | [] => []
  | ⟨_, k, v, _⟩ :: rest =>
      (do
        unless sameName k (patternName? v) do
          k.layout
          put ": "
        v.layout) :: Field.layouts rest

/-- A pattern that is assigned to. -/
def Pattern.layoutTarget : Pattern → Layout
  | .name id => put id.name
  | .place e => e.layout .comma {}
  | .object _ fields rest => do
      put "\x7b"
      match rest with
      | some r => fieldList (Field.layoutTargets fields) (some r.layoutTarget)
      | none => fieldList (Field.layoutTargets fields) none
      put "\x7d"
  | .array _ items rest =>
      match rest with
      | some r => patternList (Pattern.layoutTargets items) (some r.layoutTarget)
      | none => patternList (Pattern.layoutTargets items) none
  | .withDefault _ t e => do
      t.layoutTarget
      put " = "
      e.layout .comma {}
  | .decorated _ _ t => t.layoutTarget

def Pattern.layoutTargets : List (Option Pattern) → List (Option Layout)
  | [] => []
  | none :: rest => none :: Pattern.layoutTargets rest
  | some p :: rest => some p.layoutTarget :: Pattern.layoutTargets rest

def Field.layoutTargets : List Field → List Layout
  | [] => []
  | ⟨_, k, v, shorthand⟩ :: rest =>
      (do
        unless shorthand do
          k.layout
          put ": "
        v.layoutTarget) :: Field.layoutTargets rest

def Func.layoutParams : Func → Layout
  | ⟨_, _, _, _, _, params, rest, _, _⟩ =>
      match rest with
      | some r => parameters (Pattern.layoutParams params) (some r.layout)
      | none => parameters (Pattern.layoutParams params) none

def Func.layoutBody (b : Bare) : Func → Layout
  | ⟨_, _, _, _, _, _, _, body, _⟩ => body.layout b

/-- The expression of a concise arrow function. -/
def Func.layoutConcise (b : Bare) : Func → Layout
  | ⟨_, _, _, _, _, _, _, ⟨_, _, stmts⟩, _⟩ =>
      match stmts with
      | [.expr _ e] => do
          setMark .arrowBody
          e.layout .comma b
      | _ => pure ()

def Func.layout (b : Bare) : Func → Layout
  | ⟨_, id, isAsync, isGenerator, _, params, rest, body, _⟩ => do
      functionHead isAsync isGenerator id
      match rest with
      | some r => parameters (Pattern.layoutParams params) (some r.layout)
      | none => parameters (Pattern.layoutParams params) none
      put " "
      body.layout b

def Body.layout (b : Bare) : Body → Layout
  | ⟨span, directives, stmts⟩ => functionBody span directives stmts (Stmt.forms b stmts)

def Class.layout (b : Bare) : Class → Layout
  | ⟨_, decorators, id, heritage, typeArgs, interfaces, _, members⟩ => do
      all (Expr.decoratorLayouts decorators)
      put "class"
      match id with
      | some i => put (" " ++ i.name)
      | none => pure ()
      match heritage with
      | some e => do
          put " extends "
          e.layout .postfixed {}
      | none => pure ()
      typePieces typeArgs
      unless interfaces.isEmpty do
        put " implements "
        typePieces interfaces
      put " "
      braces members.isEmpty (all (Member.layouts b members))

def Expr.decoratorLayouts : List Expr → List Layout
  | [] => []
  | e :: rest =>
      (do
        put "@"
        wrap (!plainDecorator e) (e.layout .lowest {})
        put " ") :: Expr.decoratorLayouts rest

def Member.layouts (b : Bare) : List Member → List Layout
  | [] => []
  | .method span decorators traits kind k f :: rest =>
      (do
        commentsAt span.start
        indent
        all (Expr.decoratorLayouts decorators)
        methodTraits traits
        methodHead kind f.isAsync f.isGenerator
        k.layout
        if traits.isOptional then put "?"
        f.layoutParams
        put " "
        f.layoutBody b
        newline) :: Member.layouts b rest
  | .field span decorators traits accessor k v :: rest =>
      (do
        commentsAt span.start
        indent
        all (Expr.decoratorLayouts decorators)
        fieldTraits traits accessor
        k.layout
        if traits.isOptional then put "?"
        match v with
        | some e => do
            put " = "
            e.layout .comma {}
        | none => pure ()
        put ";\n") :: Member.layouts b rest
  | .block span stmts :: rest =>
      (do
        commentsAt span.start
        indent
        put "static "
        braces stmts.isEmpty (Form.lines (Stmt.forms b stmts))
        newline) :: Member.layouts b rest

def Declarator.layouts (b : Bare) : List Declarator → List Layout
  | [] => []
  | ⟨_, t, v⟩ :: rest =>
      (do
        t.layout
        match v with
        | some e => do
            put " = "
            e.layout .comma b
        | none => pure ()) :: Declarator.layouts b rest

def ForHead.layout (b : Bare) : ForHead → Layout
  | .declare _ kind items => do
      put (kind.text ++ " ")
      separated (put ", ") (Declarator.layouts b items)
  | .expr e => e.layout .lowest b
  | .target t => wrap (isAsync t) t.layoutTarget

def Case.layouts (b : Bare) : List Case → List Layout
  | [] => []
  | ⟨_, test, stmts⟩ :: rest =>
      (do
        indent
        match test with
        | some e => do
            put "case "
            e.layout .lowest {}
        | none => put "default"
        put ":"
        match Stmt.forms b stmts with
        | [f] => f.branch
        | fs => do
            newline
            deeper (Form.lines fs)) :: Case.layouts b rest

def Catch.layout (b : Bare) : Catch → Layout
  | ⟨_, param, _, stmts⟩ => do
      put " catch "
      match param with
      | some t => do
          put "("
          t.layout
          put ") "
      | none => pure ()
      braces stmts.isEmpty (Form.lines (Stmt.forms b stmts))

def Stmt.forms (b : Bare) : List Stmt → List Form
  | [] => []
  | s :: rest => s.form b :: Stmt.forms b rest

/-- A statement.  Only the values of declarations heed what is forbidden around it. -/
def Stmt.form (b : Bare) : Stmt → Form
  | .expr span e => ⟨span.start, .other, do
      setMark .statement
      e.layout .lowest {}
      put ";\n"⟩
  | .block span stmts => ⟨span.start, .block, Form.block (Stmt.forms b stmts)⟩
  | .empty span => ⟨span.start, .empty, put ";\n"⟩
  | .declare span kind items => ⟨span.start, .other, do
      put (kind.text ++ " ")
      separated (put ", ") (Declarator.layouts b items)
      put ";\n"⟩
  | .funcDecl f => ⟨f.span.start, .other, do
      if f.isPure then
        put (pureFunction ++ "\n")
        indent
      f.layout b
      newline⟩
  | .classDecl c => ⟨c.span.start, .other, do
      c.layout b
      newline⟩
  | .ret span value => ⟨span.start, .other, do
      put "return"
      match value with
      | some e => do
          put " "
          e.layout .lowest {}
      | none => pure ()
      put ";\n"⟩
  | .cond span test yes no => ⟨span.start, .conditional, do
      put "if ("
      test.layout .lowest {}
      put ")"
      match no with
      | some s => (yes.form b).consequent (endsInOpenIf yes) (some (s.form b))
      | none => (yes.form b).consequent (endsInOpenIf yes) none⟩
  | .forLoop span head test step body => ⟨span.start, .other, do
      put "for ("
      match head with
      | some h => h.layout { noIn := true }
      | none => pure ()
      put ";"
      match test with
      | some e => do
          put " "
          e.layout .lowest {}
      | none => pure ()
      put ";"
      match step with
      | some e => do
          put " "
          e.layout .lowest {}
      | none => pure ()
      put ")"
      (body.form b).branch⟩
  | .forIn span head object body => ⟨span.start, .other, do
      put "for ("
      head.layout { noIn := true }
      put " in "
      object.layout .lowest {}
      put ")"
      (body.form b).branch⟩
  | .forOf span isAwait head items body => ⟨span.start, .other, do
      put (if isAwait then "for await (" else "for (")
      head.layout {}
      put " of "
      items.layout .comma {}
      put ")"
      (body.form b).branch⟩
  | .whileLoop span test body => ⟨span.start, .other, do
      put "while ("
      test.layout .lowest {}
      put ")"
      (body.form b).branch⟩
  | .doWhile span body test => ⟨span.start, .other, do
      put "do"
      (body.form b).doBody
      put "while ("
      test.layout .lowest {}
      put ");\n"⟩
  | .switch span value cases => ⟨span.start, .other, do
      put "switch ("
      value.layout .lowest {}
      put ") "
      braces cases.isEmpty (all (Case.layouts b cases))
      newline⟩
  | .tryCatch span _ stmts handler _ final => ⟨span.start, .other, do
      put "try "
      Form.block (Stmt.forms b stmts)
      match handler with
      | some c => c.layout b
      | none => pure ()
      match final with
      | some ss => do
          put " finally "
          Form.block (Stmt.forms b ss)
      | none => pure ()
      newline⟩
  | .throw span e => ⟨span.start, .other, do
      put "throw "
      e.layout .lowest {}
      put ";\n"⟩
  | .breakTo span label => ⟨span.start, .other,
      put ("break" ++ (label.map (" " ++ ·.name)).getD "" ++ ";\n")⟩
  | .continueTo span label => ⟨span.start, .other,
      put ("continue" ++ (label.map (" " ++ ·.name)).getD "" ++ ";\n")⟩
  | .labeled span label body => ⟨span.start, .other, do
      put (label.name ++ ":")
      (body.form b).branch⟩
  | .withObject span object body => ⟨span.start, .other, do
      put "with("
      object.layout .lowest {}
      put ")"
      (body.form b).branch⟩
  | .debugger span => ⟨span.start, .other, put "debugger;\n"⟩
  | .importDecl span specs source => ⟨span.start, .other, importOf specs source⟩
  | .exportDecl span d => ⟨span.start, .other, do
      put "export "
      (d.form b).step⟩
  | .exportList span specs source => ⟨span.start, .other, exportOf specs source⟩
  | .exportAll span exported source => ⟨span.start, .other, exportAllOf exported source⟩
  | .exportDefault span value => ⟨span.start, .other, do
      put "export default "
      value.layout⟩
  | s => ⟨s.span.start, .empty, pure ()⟩

def DefaultExport.layout : DefaultExport → Layout
  | .funcDecl f => do
      f.layout {}
      newline
  | .classDecl c => do
      c.layout {}
      newline
  | .expr e => do
      setMark .standardExport
      e.layout .comma {}
      put ";\n"

end

end ModuleBundler
