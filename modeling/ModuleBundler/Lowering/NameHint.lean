/-
ModuleBundler/Lowering/NameHint.lean

Hints for the names of temporaries.  A temporary is named after the expression
whose value it holds: the names that the expression is built of, joined by `$`,
twenty bytes at most.  An expression without names gives the hint `ref`.
-/
import ModuleBundler.Syntax.Tree
import ModuleBundler.Text.Identifier

namespace ModuleBundler

mutual

/-- The names that an expression is built of. -/
def Expr.nameParts : Expr → List String
  | .name id => [id.name]
  | .this _ => ["this"]
  | .super _ => ["super"]
  | .bool _ v => [if v then "true" else "false"]
  | .string v => [v.text]
  | .number _ _ raw => [raw]
  | .bigint _ raw => [raw]
  | .member _ o f _ => o.nameParts ++ [f.name]
  | .privateMember _ o f _ => o.nameParts ++ [f.name]
  | .index _ o k _ => o.nameParts ++ k.nameParts
  | .call _ f _ _ _ => f.nameParts
  | .new _ f _ _ => f.nameParts
  | .assign _ _ t _ => t.nameParts
  | .update _ _ _ t => t.nameParts
  | .unary _ _ e => e.nameParts
  | .paren _ e => e.nameParts
  | .chain _ e => e.nameParts
  | .await _ e => "await" :: e.nameParts
  | .yield _ _ (some e) => "yield" :: e.nameParts
  | .yield _ _ none => ["yield"]
  | .importCall _ _ _ _ => ["import"]
  | .metaProperty _ o f => [o, f]
  | .object _ members => Property.nameParts members
  | .function ⟨_, some id, _, _, _, _, _, _, _⟩ => [id.name]
  | .classExpr ⟨_, _, some id, _, _, _, _, _⟩ => [id.name]
  | _ => []

def Pattern.nameParts : Pattern → List String
  | .name id => [id.name]
  | .place e => e.nameParts
  | _ => []

def Property.nameParts : List Property → List String
  | [] => []
  | .keyed _ k _ _ :: rest => k.nameParts ++ Property.nameParts rest
  | .method _ _ k _ :: rest => k.nameParts ++ Property.nameParts rest
  | .spread _ e :: rest => e.nameParts ++ Property.nameParts rest

def Key.nameParts : Key → List String
  | .name id => [id.name]
  | .privateName id => [id.name]
  | .literal e => e.nameParts
  | .computed e => e.nameParts

end

namespace NameHint

/-- The parts joined, the first without its leading underscores. -/
def join (parts : List String) : List Char :=
  parts.foldl (fun name part =>
    if name.isEmpty then part.toList.dropWhile (· == '_') else name ++ '$' :: part.toList) []

/-- The text as a name: what cannot stand in a name goes, and the letter after it is a capital. -/
def camel (capital : Bool) : List Char → List Char
  | [] => []
  | c :: rest =>
      if Identifier.isPart c then (if capital then c.toUpper else c) :: camel false rest
      else camel true rest

def toName (cs : List Char) : List Char :=
  camel false (cs.dropWhile fun c => !Identifier.isPart c || c.isDigit)

/-- The characters that fit into a number of bytes. -/
def fitting : Nat → List Char → List Char
  | _, [] => []
  | n, c :: rest => if c.utf8Size ≤ n then c :: fitting (n - c.utf8Size) rest else []

/-- The hint that the parts of an expression give. -/
def ofParts (parts : List String) : String :=
  let name := join parts
  if name.isEmpty then "ref" else String.ofList (toName (fitting 20 name))

end NameHint

/-- The hint for a temporary that holds the value of an expression. -/
def Expr.hint (e : Expr) : String := NameHint.ofParts e.nameParts

end ModuleBundler
