/-
ModuleBundler/Lowering/Build.lean

Nodes that the lowering makes.  They were read from nowhere.
-/
import ModuleBundler.Syntax.Tree
import ModuleBundler.Layout.Literal

namespace ModuleBundler.Build

def name (s : String) : Expr := .name (.made s)

def string (s : String) : Expr := .string (.ofText s)

def null : Expr := .null .nowhere

def number (n : Nat) : Expr := .number .nowhere ⟨n, 0⟩ (toString n)

/-- `void 0` -/
def undefined : Expr := .unary .nowhere .void (number 0)

def this : Expr := .this .nowhere

def member (o : Expr) (field : String) : Expr := .member .nowhere o (.made field) false

def call (f : Expr) (args : List Expr) : Expr :=
  .call .nowhere f (args.map .item) false false

/-- A call that is marked as free of effects. -/
def pureCall (f : Expr) (args : List Expr) : Expr :=
  .call .nowhere f (args.map .item) false true

/-- A call of a helper. -/
def helper (h : String) (args : List Expr) : Expr := call (member (name "babelHelpers") h) args

def assignTo (t : Pattern) (e : Expr) : Expr := .assign .nowhere .store t e

def assign (id : Ident) (e : Expr) : Expr := assignTo (.name id) e

def binary (op : BinaryOp) (l r : Expr) : Expr := .binary .nowhere op l r

def sequence (es : List Expr) : Expr := .sequence .nowhere es

def object (members : List Property) : Expr := .object .nowhere members

/-- A property with a fixed name. -/
def property (key : String) (e : Expr) : Property := .keyed .nowhere (.name (.made key)) e false

def array (es : List Expr) : Expr := .array .nowhere (es.map .item)

/-- `first === null || second === void 0` -/
def isNullish (before : Option Expr) (first second : Expr) : Expr :=
  let a := binary .same first null
  let b := binary .same second undefined
  binary .or (match before with
    | some e => binary .or e a
    | none => a) b

/-! ### Statements -/

def expr (e : Expr) : Stmt := .expr .nowhere e

def declareAs (kind : Declare) (t : Pattern) (e : Expr) : Stmt :=
  .declare .nowhere kind [⟨.nowhere, t, some e⟩]

def var (id : Ident) (e : Expr) : Stmt := declareAs .hoisted (.name id) e

/-- The declaration of some names, if there are any. -/
def declareAll (kind : Declare) (items : List (Ident × Option Expr)) : List Stmt :=
  if items.isEmpty then []
  else [.declare .nowhere kind (items.map fun (id, e) => ⟨.nowhere, .name id, e⟩)]

def ret (e : Expr) : Stmt := .ret .nowhere (some e)

def block (stmts : List Stmt) : Stmt := .block .nowhere stmts

def body (stmts : List Stmt) : Body := ⟨.nowhere, [], stmts⟩

/-! ### Functions -/

def function (id : Option Ident) (params : List Pattern) (rest : Option Pattern) (b : Body) : Func :=
  ⟨.nowhere, id, false, false, .nowhere, params, rest, b, false⟩

def generator (params : List Pattern) (rest : Option Pattern) (b : Body) : Expr :=
  .function ⟨.nowhere, none, false, true, .nowhere, params, rest, b, false⟩

/-- An arrow function of one expression. -/
def arrow (params : List Pattern) (e : Expr) : Expr :=
  .arrow (function none params none (body [expr e])) true

end ModuleBundler.Build
