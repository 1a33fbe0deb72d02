/-
ModuleBundler/Syntax/Operator.lean

The operators of the language, their spelling, and how tightly they bind.
Short-circuiting operators stand among the binary ones; `BinaryOp.isLogical`
tells them apart.  An assignment either stores a value or combines the old one
with a binary operator (`AssignOp.compound`).
-/

namespace ModuleBundler

inductive UnaryOp where
  | minus | plus | not | complement | typeof | void | delete
deriving DecidableEq, Inhabited, Repr

def UnaryOp.text : UnaryOp → String
  | minus => "-" | plus => "+" | not => "!" | complement => "~"
  | typeof => "typeof" | void => "void" | delete => "delete"

/-- Whether the operator is spelled as a word, so that a blank follows it. -/
def UnaryOp.isWord : UnaryOp → Bool
  | typeof | void | delete => true
  | _ => false

def UnaryOp.ofText? : String → Option UnaryOp
  | "-" => some minus | "+" => some plus | "!" => some not | "~" => some complement
  | "typeof" => some typeof | "void" => some void | "delete" => some delete
  | _ => none

theorem UnaryOp.ofText?_text (op : UnaryOp) : ofText? op.text = some op := by
  cases op <;> rfl

inductive UpdateOp where
  | increment | decrement
deriving DecidableEq, Inhabited, Repr

def UpdateOp.text : UpdateOp → String
  | increment => "++" | decrement => "--"

inductive BinaryOp where
  | add | sub | mul | div | rem | exp
  | shiftLeft | shiftRight | shiftRightZero
  | less | greater | lessEqual | greaterEqual | equal | notEqual | same | notSame
  | bitAnd | bitOr | bitXor
  | memberOf | instanceOf
  | and | or | coalesce
deriving DecidableEq, Inhabited, Repr

namespace BinaryOp

def text : BinaryOp → String
  | add => "+" | sub => "-" | mul => "*" | div => "/" | rem => "%" | exp => "**"
  | shiftLeft => "<<" | shiftRight => ">>" | shiftRightZero => ">>>"
  | less => "<" | greater => ">" | lessEqual => "<=" | greaterEqual => ">="
  | equal => "==" | notEqual => "!=" | same => "===" | notSame => "!=="
  | bitAnd => "&" | bitOr => "|" | bitXor => "^"
  | memberOf => "in" | instanceOf => "instanceof"
  | and => "&&" | or => "||" | coalesce => "??"

def ofText? : String → Option BinaryOp
  | "+" => some add | "-" => some sub | "*" => some mul | "/" => some div
  | "%" => some rem | "**" => some exp
  | "<<" => some shiftLeft | ">>" => some shiftRight | ">>>" => some shiftRightZero
  | "<" => some less | ">" => some greater | "<=" => some lessEqual | ">=" => some greaterEqual
  | "==" => some equal | "!=" => some notEqual | "===" => some same | "!==" => some notSame
  | "&" => some bitAnd | "|" => some bitOr | "^" => some bitXor
  | "in" => some memberOf | "instanceof" => some instanceOf
  | "&&" => some and | "||" => some or | "??" => some coalesce
  | _ => none

theorem ofText?_text (op : BinaryOp) : ofText? op.text = some op := by
  cases op <;> rfl

/-- The right operand may never be evaluated. -/
def isLogical : BinaryOp → Bool
  | and | or | coalesce => true
  | _ => false

end BinaryOp

inductive AssignOp where
  | store
  | compound (op : BinaryOp)
deriving DecidableEq, Inhabited, Repr

namespace AssignOp

def text : AssignOp → String
  | store => "="
  | compound op => op.text ++ "="

def ofText? : String → Option AssignOp
  | "=" => some store
  | "+=" => some (.compound .add) | "-=" => some (.compound .sub)
  | "*=" => some (.compound .mul) | "/=" => some (.compound .div)
  | "%=" => some (.compound .rem) | "**=" => some (.compound .exp)
  | "<<=" => some (.compound .shiftLeft) | ">>=" => some (.compound .shiftRight)
  | ">>>=" => some (.compound .shiftRightZero)
  | "&=" => some (.compound .bitAnd) | "|=" => some (.compound .bitOr)
  | "^=" => some (.compound .bitXor)
  | "&&=" => some (.compound .and) | "||=" => some (.compound .or)
  | "??=" => some (.compound .coalesce)
  | _ => none

end AssignOp

/-! ### Binding strength -/

/-- How tightly a construct holds its operands, from the loosest to the tightest. -/
inductive Precedence where
  | lowest | comma | spread | yield | assign | conditional
  | coalesce | or | and | bitOr | bitXor | bitAnd
  | equals | compare | shift | add | multiply | exponent
  | unary | postfixed | new | call | member
deriving DecidableEq, Inhabited, Repr

namespace Precedence

def level : Precedence → Nat
  | lowest => 0 | comma => 1 | spread => 2 | yield => 3 | assign => 4 | conditional => 5
  | coalesce => 6 | or => 7 | and => 8 | bitOr => 9 | bitXor => 10 | bitAnd => 11
  | equals => 12 | compare => 13 | shift => 14 | add => 15 | multiply => 16 | exponent => 17
  | unary => 18 | postfixed => 19 | new => 20 | call => 21 | member => 22

instance : LT Precedence := ⟨fun a b => a.level < b.level⟩
instance : LE Precedence := ⟨fun a b => a.level ≤ b.level⟩
instance (a b : Precedence) : Decidable (a < b) := inferInstanceAs (Decidable (a.level < b.level))
instance (a b : Precedence) : Decidable (a ≤ b) := inferInstanceAs (Decidable (a.level ≤ b.level))

end Precedence

def BinaryOp.precedence : BinaryOp → Precedence
  | coalesce => .coalesce | or => .or | and => .and
  | bitOr => .bitOr | bitXor => .bitXor | bitAnd => .bitAnd
  | equal | notEqual | same | notSame => .equals
  | less | greater | lessEqual | greaterEqual | memberOf | instanceOf => .compare
  | shiftLeft | shiftRight | shiftRightZero => .shift
  | add | sub => .add
  | mul | div | rem => .multiply
  | exp => .exponent

end ModuleBundler
