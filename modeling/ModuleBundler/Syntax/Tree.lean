/-
ModuleBundler/Syntax/Tree.lean

The syntax tree of a module or of a script.  One family of types serves both:
declarations of imports and exports are statements among the others.

Conventions.

* Parentheses are nodes (`Expr.paren`), so `(f)()` is not a call whose callee is
  a name.  The printer drops them and puts back what binding strength needs.
* Binding patterns and assignment targets are one type, `Pattern`.  A leaf is a
  name, or, in targets only, an arbitrary place (`Pattern.place`).
* A shorthand `{ x }` has its name both as key and as value, at one span.
* An optional chain `a?.b.c` is one `Expr.chain` around members and calls, of
  which those written with `?.` are marked optional.
* The body of `x => e` is a function body holding the one expression statement
  `e`, marked by `concise`.
-/
import ModuleBundler.Syntax.Span
import ModuleBundler.Syntax.Operator

namespace ModuleBundler

/-! ### Leaves -/

/-- The value of a string literal.  A surrogate without its partner cannot be
part of a text: it is written as U+FFFD and four digits, and then `lone` is set
and U+FFFD itself is written the same way. -/
structure Literal where
  text : String
  lone : Bool
  span : Span
deriving DecidableEq, Inhabited, Repr

/-- A number as it is written, exactly: `digits × 10 ^ power`. -/
structure Numeral where
  digits : Nat
  power : Int
deriving DecidableEq, Inhabited, Repr

/-- A string statement at the head of a body, kept as it is written between its quotes. -/
structure Directive where
  raw : String
  span : Span
deriving DecidableEq, Inhabited, Repr

/-- The name of an import or export: an identifier name or a string. -/
structure ModuleName where
  text : String
  quoted : Bool
  lone : Bool
  span : Span
deriving DecidableEq, Inhabited, Repr

/-- The words that open a variable declaration. -/
inductive Declare where
  | hoisted | mutable | constant | disposed | awaitDisposed
deriving DecidableEq, Inhabited, Repr

def Declare.text : Declare → String
  | hoisted => "var" | mutable => "let" | constant => "const" | disposed => "using"
  | awaitDisposed => "await using"

/-- The binding is seen in the block that declares it only. -/
def Declare.isLexical : Declare → Bool
  | hoisted => false
  | _ => true

/-- A piece of a type as it is written out: a name that is used in it, or text between names. -/
inductive TypePiece where
  | text (s : String)
  | name (id : Ident)
deriving DecidableEq, Inhabited, Repr

/-- What the words before a class member and the sign after its name say of it. -/
structure Traits where
  isStatic : Bool := false
  isDeclared : Bool := false
  isAbstract : Bool := false
  isReadonly : Bool := false
  /-- Who may use the member. -/
  access : Option String := none
  isOptional : Bool := false
deriving DecidableEq, Inhabited, Repr

/-- The roles of a method. -/
inductive MethodKind where
  | method | getter | setter
deriving DecidableEq, Inhabited, Repr

/-- One name that an import declaration binds, and what it names in the other module. -/
inductive ImportSpec where
  | named (imported : ModuleName) (localName : Ident)
  | standard (localName : Ident)
  | all (localName : Ident)
deriving DecidableEq, Inhabited, Repr

def ImportSpec.localName : ImportSpec → Ident
  | named _ l | standard l | all l => l

/-- One entry of an export list. -/
structure ExportSpec where
  localName : ModuleName
  exported : ModuleName
deriving DecidableEq, Inhabited, Repr

/-! ### The tree -/

mutual

inductive Expr where
  | name (id : Ident)
  | this (span : Span)
  | super (span : Span)
  | null (span : Span)
  | bool (span : Span) (value : Bool)
  /-- A number, and how it was written. -/
  | number (span : Span) (value : Numeral) (raw : String)
  | bigint (span : Span) (raw : String)
  | string (value : Literal)
  | regex (span : Span) (pattern flags : String)
  | template (t : Template)
  | array (span : Span) (items : List Element)
  | object (span : Span) (members : List Property)
  | function (f : Func)
  | arrow (f : Func) (concise : Bool)
  | classExpr (c : Class)
  | unary (span : Span) (op : UnaryOp) (arg : Expr)
  | update (span : Span) (op : UpdateOp) (before : Bool) (target : Pattern)
  | binary (span : Span) (op : BinaryOp) (left right : Expr)
  | privateIn (span : Span) (field : Ident) (object : Expr)
  | conditional (span : Span) (test yes no : Expr)
  | assign (span : Span) (op : AssignOp) (target : Pattern) (value : Expr)
  | sequence (span : Span) (items : List Expr)
  | call (span : Span) (callee : Expr) (args : List Element) (optional pure : Bool)
  | new (span : Span) (callee : Expr) (args : List Element) (pure : Bool)
  | member (span : Span) (object : Expr) (field : Ident) (optional : Bool)
  | index (span : Span) (object key : Expr) (optional : Bool)
  | privateMember (span : Span) (object : Expr) (field : Ident) (optional : Bool)
  | chain (span : Span) (inner : Expr)
  | tagged (span : Span) (tag : Expr) (quasi : Template)
  | paren (span : Span) (inner : Expr)
  | yield (span : Span) (delegate : Bool) (arg : Option Expr)
  | await (span : Span) (arg : Expr)
  | importCall (span : Span) (phase : Option String) (source : Expr) (options : Option Expr)
  | metaProperty (span : Span) (object field : String)

/-- A place in an argument list or array: a hole, an expression, or a spread. -/
inductive Element where
  | hole (span : Span)
  | item (e : Expr)
  | spread (span : Span) (e : Expr)

/-- The name of a property, class member or pattern property. -/
inductive Key where
  | name (id : Ident)
  | privateName (id : Ident)
  | literal (e : Expr)
  | computed (e : Expr)

inductive Property where
  | keyed (span : Span) (key : Key) (value : Expr) (shorthand : Bool)
  | method (span : Span) (kind : MethodKind) (key : Key) (f : Func)
  | spread (span : Span) (e : Expr)

/-- The pieces of text of a template, as they are written, and the expressions between them. -/
structure Template where
  span : Span
  quasis : List String
  exprs : List Expr

inductive Pattern where
  | name (id : Ident)
  | place (e : Expr)
  | object (span : Span) (fields : List Field) (rest : Option Pattern)
  | array (span : Span) (items : List (Option Pattern)) (rest : Option Pattern)
  | withDefault (span : Span) (target : Pattern) (value : Expr)
  /-- A parameter with decorators. -/
  | decorated (span : Span) (decorators : List Expr) (target : Pattern)

/-- A property of an object pattern. -/
structure Field where
  span : Span
  key : Key
  value : Pattern
  shorthand : Bool

structure Func where
  span : Span
  id : Option Ident
  isAsync : Bool
  isGenerator : Bool
  paramsSpan : Span
  params : List Pattern
  rest : Option Pattern
  body : Body
  /-- A comment marks the calls of the function as free of effects. -/
  isPure : Bool

structure Body where
  span : Span
  directives : List Directive
  stmts : List Stmt

structure Class where
  span : Span
  decorators : List Expr
  id : Option Ident
  heritage : Option Expr
  /-- The arguments of the heritage and the types implemented, each with its brackets or commas. -/
  typeArgs : List TypePiece
  interfaces : List TypePiece
  membersSpan : Span
  members : List Member

inductive Member where
  | method (span : Span) (decorators : List Expr) (traits : Traits) (kind : MethodKind)
      (key : Key) (f : Func)
  | field (span : Span) (decorators : List Expr) (traits : Traits) (accessor : Bool) (key : Key)
      (value : Option Expr)
  | block (span : Span) (stmts : List Stmt)

structure Declarator where
  span : Span
  target : Pattern
  value : Option Expr

structure Case where
  span : Span
  test : Option Expr
  stmts : List Stmt

structure Catch where
  span : Span
  param : Option Pattern
  bodySpan : Span
  stmts : List Stmt

/-- What stands before the first `;`, `in` or `of` of a `for` statement. -/
inductive ForHead where
  | declare (span : Span) (kind : Declare) (items : List Declarator)
  | expr (e : Expr)
  | target (p : Pattern)

inductive Stmt where
  | expr (span : Span) (e : Expr)
  | block (span : Span) (stmts : List Stmt)
  | empty (span : Span)
  | declare (span : Span) (kind : Declare) (items : List Declarator)
  | funcDecl (f : Func)
  | classDecl (c : Class)
  | ret (span : Span) (value : Option Expr)
  | cond (span : Span) (test : Expr) (yes : Stmt) (no : Option Stmt)
  | forLoop (span : Span) (head : Option ForHead) (test step : Option Expr) (body : Stmt)
  | forIn (span : Span) (head : ForHead) (object : Expr) (body : Stmt)
  | forOf (span : Span) (isAwait : Bool) (head : ForHead) (items : Expr) (body : Stmt)
  | whileLoop (span : Span) (test : Expr) (body : Stmt)
  | doWhile (span : Span) (body : Stmt) (test : Expr)
  | switch (span : Span) (value : Expr) (cases : List Case)
  | tryCatch (span : Span) (bodySpan : Span) (body : List Stmt) (handler : Option Catch)
      (finalSpan : Span) (final : Option (List Stmt))
  | throw (span : Span) (value : Expr)
  | breakTo (span : Span) (label : Option Ident)
  | continueTo (span : Span) (label : Option Ident)
  | labeled (span : Span) (label : Ident) (body : Stmt)
  | withObject (span : Span) (object : Expr) (body : Stmt)
  | debugger (span : Span)
  | importDecl (span : Span) (specs : Option (List ImportSpec)) (source : Literal)
  | exportDecl (span : Span) (declaration : Stmt)
  | exportList (span : Span) (specs : List ExportSpec) (source : Option Literal)
  | exportAll (span : Span) (exported : Option ModuleName) (source : Literal)
  | exportDefault (span : Span) (value : DefaultExport)
  /-- A type declaration, which has no value. -/
  | typeDecl (span : Span)
  | enumDecl (span : Span) (id : Ident) (names : List String) (values : List Expr)
  | namespaceDecl (span : Span) (stmts : List Stmt)

inductive DefaultExport where
  | funcDecl (f : Func)
  | classDecl (c : Class)
  | expr (e : Expr)

end

instance : Inhabited Expr := ⟨.this .nowhere⟩
instance : Inhabited Stmt := ⟨.empty .nowhere⟩
instance : Inhabited Pattern := ⟨.name default⟩
instance : Inhabited Element := ⟨.hole .nowhere⟩
instance : Inhabited Key := ⟨.name default⟩
instance : Inhabited Template := ⟨⟨.nowhere, [], []⟩⟩
instance : Inhabited Body := ⟨⟨.nowhere, [], []⟩⟩
instance : Inhabited Func := ⟨⟨.nowhere, none, false, false, .nowhere, [], none, default, false⟩⟩
instance : Inhabited Class := ⟨⟨.nowhere, [], none, none, [], [], .nowhere, []⟩⟩
instance : Inhabited Property := ⟨.spread .nowhere default⟩
instance : Inhabited Member := ⟨.block .nowhere []⟩
instance : Inhabited ForHead := ⟨.expr default⟩

/-- A whole source text, read as a module or as a script. -/
structure Program where
  span : Span
  hashbang : Option Span
  directives : List Directive
  stmts : List Stmt
deriving Inhabited

/-! ### Spans of nodes -/

def Element.spanOf (exprSpan : Expr → Span) : Element → Span
  | .hole s | .spread s _ => s
  | .item e => exprSpan e

namespace Expr

def span : Expr → Span
  | name id => id.span
  | string v => v.span
  | template t => t.span
  | function f | arrow f _ => f.span
  | classExpr c => c.span
  | this s | super s | null s | bool s _ | number s _ _ | bigint s _ | regex s _ _
  | array s _ | object s _ | unary s _ _ | update s _ _ _ | binary s _ _ _ | privateIn s _ _
  | conditional s _ _ _ | assign s _ _ _ | sequence s _ | call s _ _ _ _ | new s _ _ _
  | member s _ _ _ | index s _ _ _ | privateMember s _ _ _ | chain s _ | tagged s _ _
  | paren s _ | yield s _ _ | await s _ | importCall s _ _ _ | metaProperty s _ _ => s

/-- The expression without the parentheses around it. -/
def strip : Expr → Expr
  | paren _ e => e.strip
  | e => e

/-- The name that an expression consists of. -/
def name? : Expr → Option Ident
  | name id => some id
  | _ => none

end Expr

def Element.span : Element → Span := Element.spanOf Expr.span

namespace Pattern

def span : Pattern → Span
  | name id => id.span
  | place e => e.span
  | object s _ _ | array s _ _ | withDefault s _ _ | decorated s _ _ => s

end Pattern

namespace Key

def span : Key → Span
  | name id | privateName id => id.span
  | literal e | computed e => e.span

end Key

namespace Property

def span : Property → Span
  | keyed s _ _ _ | method s _ _ _ | spread s _ => s

end Property

namespace Member

def span : Member → Span
  | method s _ _ _ _ _ | field s _ _ _ _ _ | block s _ => s

end Member

namespace DefaultExport

def span : DefaultExport → Span
  | funcDecl f => f.span
  | classDecl c => c.span
  | expr e => e.span

end DefaultExport

namespace Stmt

def span : Stmt → Span
  | funcDecl f => f.span
  | classDecl c => c.span
  | expr s _ | block s _ | empty s | declare s _ _ | ret s _ | cond s _ _ _ | forLoop s _ _ _ _
  | forIn s _ _ _ | forOf s _ _ _ _ | whileLoop s _ _ | doWhile s _ _ | switch s _ _
  | tryCatch s _ _ _ _ _ | throw s _ | breakTo s _ | continueTo s _ | labeled s _ _ | withObject s _ _
  | debugger s | importDecl s _ _ | exportDecl s _ | exportList s _ _ | exportAll s _ _
  | exportDefault s _ | typeDecl s | enumDecl s _ _ _ | namespaceDecl s _ => s

end Stmt

end ModuleBundler
