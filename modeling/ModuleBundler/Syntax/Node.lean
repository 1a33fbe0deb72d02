/-
ModuleBundler/Syntax/Node.lean

Walking a syntax tree.  A `Node` is a part of a tree of any type, `Node.parts`
gives the parts of a part, each with the scope it stands in, in the order of the
text.  Parts are smaller (`Node.size_parts`), so a function of trees can be
defined, and a statement about trees proved, by recursion on `Node.parts` alone.

Scopes.  A scope is a list of frames, the innermost first.  A frame is opened by
a function for its parameters, by a body, a block, a `for` statement, a `switch`,
a `catch` and a class; it holds the names declared there, as
`ModuleBundler.Syntax.Binding` tells.
-/
import ModuleBundler.Syntax.Binding

namespace ModuleBundler

/-! ### Scopes -/

/-- What opens a frame. -/
inductive FrameKind where
  | program | params | body | block | loop | switch | handler | classBody | enumBody
deriving DecidableEq, Inhabited, Repr

/-- The names declared in one place.  Kind and place tell frames of one tree apart. -/
structure Frame where
  kind : FrameKind
  place : Nat
  names : List String
deriving DecidableEq, Inhabited, Repr

abbrev Scope := List Frame

/-- The innermost frame that declares a name. -/
def Scope.home? (s : Scope) (name : String) : Option Frame :=
  s.find? fun f => f.names.contains name

/-- The frame that some bindings stand in. -/
def frameOf (kind : FrameKind) (place : Nat) (bs : List Binding) : Frame :=
  ⟨kind, place, (Passage.through bs).own⟩

/-- The frame of a block. -/
def blockFrame (kind : FrameKind) (place : Nat) (stmts : List Stmt) : Frame :=
  frameOf kind place (Stmt.allBindings stmts)

/-- The frame of a body, to which the names declared by `var` inside it belong. -/
def bodyFrame (kind : FrameKind) (place : Nat) (stmts : List Stmt) : Frame :=
  ⟨kind, place, bodyNames stmts⟩

def Program.scope (p : Program) : Scope := [bodyFrame .program 0 p.stmts]

/-! ### Parts -/

/-- A part of a tree.  Patterns are told apart by whether they bind names or assign to places, and
functions and classes by whether their own name is bound inside them. -/
inductive Node where
  | expr (e : Expr)
  | element (e : Element)
  | key (k : Key)
  | property (p : Property)
  | template (t : Template)
  | pattern (binds : Bool) (p : Pattern)
  | field (binds : Bool) (f : Field)
  | func (bindsSelf : Bool) (f : Func)
  | body (b : Body)
  | classNode (bindsSelf : Bool) (c : Class)
  | member (m : Member)
  | declarator (d : Declarator)
  | case (c : Case)
  | handler (c : Catch)
  | head (h : ForHead)
  | stmt (s : Stmt)
  | value (d : DefaultExport)

namespace Node

/-- The size of a part, which is larger than the size of each of its parts. -/
noncomputable def size : Node → Nat
  | expr e => sizeOf e
  | element e => sizeOf e
  | key k => sizeOf k
  | property p => sizeOf p
  | template t => sizeOf t
  | pattern _ p => sizeOf p
  | field _ f => sizeOf f
  | func _ f => sizeOf f
  | body b => sizeOf b
  | classNode _ c => sizeOf c
  | member m => sizeOf m
  | declarator d => sizeOf d
  | case c => sizeOf c
  | handler c => sizeOf c
  | head h => sizeOf h
  | stmt s => sizeOf s
  | value d => sizeOf d

/-! The parts of each type of node.  A name that is used directly as a callee or tag, or as a
shorthand property, is no part: it belongs to its node (`Node.own`). -/

/-- The expression, unless it is a bare name. -/
def unlessName (e : Expr) : List Node :=
  match e with
  | .name _ => []
  | e => [.expr e]

def exprParts : Expr → List Node
  | .name _ | .this _ | .super _ | .null _ | .bool _ _ | .number _ _ _ | .bigint _ _ | .string _
  | .regex _ _ _ | .metaProperty _ _ _ => []
  | .template t => [.template t]
  | .array _ items => items.map .element
  | .object _ members => members.map .property
  | .function f => [.func true f]
  | .arrow f _ => [.func false f]
  | .classExpr c => [.classNode true c]
  | .unary _ _ e | .chain _ e | .paren _ e | .await _ e | .privateIn _ _ e => [.expr e]
  | .update _ _ _ p => [.pattern false p]
  | .binary _ _ l r => [.expr l, .expr r]
  | .conditional _ t a b => [.expr t, .expr a, .expr b]
  | .assign _ _ p e => [.pattern false p, .expr e]
  | .sequence _ es => es.map .expr
  | .call _ callee args _ _ => unlessName callee ++ args.map .element
  | .new _ callee args _ => .expr callee :: args.map .element
  | .member _ o _ _ | .privateMember _ o _ _ => [.expr o]
  | .index _ o k _ => [.expr o, .expr k]
  | .tagged _ tag t => unlessName tag ++ [.template t]
  | .yield _ _ e => e.toList.map .expr
  | .importCall _ _ e o => .expr e :: o.toList.map .expr

def elementParts : Element → List Node
  | .hole _ => []
  | .item e | .spread _ e => [.expr e]

def keyParts : Key → List Node
  | .name _ | .privateName _ | .literal _ => []
  | .computed e => [.expr e]

def propertyParts : Property → List Node
  | .keyed _ k v shorthand => if shorthand then unlessName v else [.key k, .expr v]
  | .method _ _ k f => [.key k, .func false f]
  | .spread _ e => [.expr e]

def patternParts (binds : Bool) : Pattern → List Node
  | .name _ => []
  | .place e => [.expr e]
  | .object _ fields rest => fields.map (.field binds) ++ rest.toList.map (.pattern binds)
  | .array _ items rest =>
      items.flatMap (fun i => i.toList.map (.pattern binds)) ++ rest.toList.map (.pattern binds)
  | .withDefault _ p e => [.pattern binds p, .expr e]
  | .decorated _ marks p => marks.map .expr ++ [.pattern binds p]

/-- The default of a shorthand, and what stands in its place otherwise. -/
def shorthandParts (binds : Bool) : Pattern → List Node
  | .name _ => []
  | .withDefault _ (.name _) e => [.expr e]
  | p => [.pattern binds p]

def fieldParts (binds : Bool) (f : Field) : List Node :=
  if f.shorthand then shorthandParts binds f.value else [.key f.key, .pattern binds f.value]

/-- Nodes that stand inside the frames. -/
def under (frames : List Frame) (nodes : List Node) : List (List Frame × Node) :=
  nodes.map (frames, ·)

def funcParts (bindsSelf : Bool) (f : Func) : List (List Frame × Node) :=
  let self := if bindsSelf then f.id.toList.map (·.name) else []
  let all := f.params ++ f.rest.toList
  under [⟨.params, f.span.start, self ++ all.flatMap (·.names)⟩]
    (all.map (.pattern true) ++ [.body f.body])

/-- The frame of a class, which holds its own name if that is bound inside. -/
def classFrame (bindsSelf : Bool) (c : Class) : Frame :=
  ⟨.classBody, c.span.start, if bindsSelf then c.id.toList.map (·.name) else []⟩

def classParts (bindsSelf : Bool) (c : Class) : List (List Frame × Node) :=
  under [] (c.decorators.map .expr) ++
    under [classFrame bindsSelf c] (c.heritage.toList.map .expr ++ c.members.map .member)

def memberParts : Member → List (List Frame × Node)
  | .method _ marks _ _ k f => under [] (marks.map .expr ++ [.key k, .func false f])
  | .field _ marks _ _ k v => under [] (marks.map .expr ++ .key k :: v.toList.map .expr)
  | .block span stmts => under [bodyFrame .body span.start stmts] (stmts.map .stmt)

def catchParts (c : Catch) : List (List Frame × Node) :=
  let frame := frameOf .handler c.span.start (c.bindings (Stmt.allBindings c.stmts))
  under [frame] (c.param.toList.map (.pattern true)) ++
    under [blockFrame .block c.bodySpan.start c.stmts, frame] (c.stmts.map .stmt)

def headParts : ForHead → List Node
  | .declare _ _ items => items.map .declarator
  | .expr e => [.expr e]
  | .target p => [.pattern false p]

def stmtParts : Stmt → List (List Frame × Node)
  | .expr _ e | .throw _ e => under [] [.expr e]
  | .block span stmts => under [blockFrame .block span.start stmts] (stmts.map .stmt)
  | .declare _ _ items => under [] (items.map .declarator)
  | .funcDecl f => under [] [.func false f]
  | .classDecl c => under [] [.classNode false c]
  | .ret _ e => under [] (e.toList.map .expr)
  | .cond _ t a b => under [] (.expr t :: .stmt a :: b.toList.map .stmt)
  | .forLoop span h t u b =>
      under [frameOf .loop span.start (h.toList.flatMap (·.bindings) ++ b.bindings)]
        (h.toList.map .head ++ t.toList.map .expr ++ u.toList.map .expr ++ [.stmt b])
  | .forIn span h e b | .forOf span _ h e b =>
      under [frameOf .loop span.start (h.bindings ++ b.bindings)] [.head h, .expr e, .stmt b]
  | .whileLoop _ t b | .withObject _ t b => under [] [.expr t, .stmt b]
  | .doWhile _ b t => under [] [.stmt b, .expr t]
  | .switch span v cases =>
      under [] [.expr v] ++
        under [blockFrame .switch span.start (cases.flatMap (·.stmts))] (cases.map .case)
  | .tryCatch _ bodySpan stmts c finalSpan final =>
      under [blockFrame .block bodySpan.start stmts] (stmts.map .stmt) ++
        under [] (c.toList.map .handler) ++
        final.toList.flatMap fun last =>
          under [blockFrame .block finalSpan.start last] (last.map .stmt)
  | .labeled _ _ b => under [] [.stmt b]
  | .exportDecl _ d => under [] [.stmt d]
  | .exportDefault _ v => under [] [.value v]
  | .enumDecl span _ names values =>
      under [⟨.enumBody, span.start, names⟩] (values.map .expr)
  | .namespaceDecl span stmts => under [bodyFrame .body span.start stmts] (stmts.map .stmt)
  | .empty _ | .breakTo _ _ | .continueTo _ _ | .debugger _ | .importDecl _ _ _ | .exportList _ _ _
  | .exportAll _ _ _ | .typeDecl _ => []

/-- The parts of a node in the order of the text, each with the frames that open around it. -/
def framed : Node → List (List Frame × Node)
  | expr e => under [] (exprParts e)
  | element e => under [] (elementParts e)
  | key k => under [] (keyParts k)
  | property p => under [] (propertyParts p)
  | template t => under [] (t.exprs.map .expr)
  | pattern binds p => under [] (patternParts binds p)
  | field binds f => under [] (fieldParts binds f)
  | func bindsSelf f => funcParts bindsSelf f
  | body b => under [bodyFrame .body b.span.start b.stmts] (b.stmts.map .stmt)
  | classNode bindsSelf c => classParts bindsSelf c
  | member m => memberParts m
  | declarator d => under [] (.pattern true d.target :: d.value.toList.map .expr)
  | case c => under [] (c.test.toList.map .expr ++ c.stmts.map .stmt)
  | handler c => catchParts c
  | head h => under [] (headParts h)
  | stmt s => stmtParts s
  | value (.funcDecl f) => under [] [.func false f]
  | value (.classDecl c) => under [] [.classNode false c]
  | value (.expr e) => under [] [.expr e]

/-- The parts of a node, each with the scope it stands in. -/
def parts (s : Scope) (n : Node) : List (Scope × Node) :=
  n.framed.map fun (frames, m) => (frames ++ s, m)

/-! ### Parts are smaller -/

theorem mem_under {frames : List Frame} {nodes : List Node} {x : List Frame × Node} :
    x ∈ under frames nodes ↔ x.1 = frames ∧ x.2 ∈ nodes := by
  cases x with
  | mk a b =>
      simp only [under, List.mem_map, Prod.mk.injEq]
      constructor
      · rintro ⟨n, hn, rfl, rfl⟩; exact ⟨rfl, hn⟩
      · rintro ⟨rfl, h⟩; exact ⟨b, h, rfl, rfl⟩

/-- A member of a list is smaller than the list. -/
theorem sizeOf_lt_of_mem {α : Type} [SizeOf α] {a : α} {l : List α} (h : a ∈ l) :
    sizeOf a < sizeOf l := List.sizeOf_lt_of_mem h

theorem size_exprParts {e : Expr} {m : Node} (h : m ∈ exprParts e) : m.size < sizeOf e := by
  cases e <;> simp [exprParts, unlessName] at h <;>
    grind [→ sizeOf_lt_of_mem, Option.some.sizeOf_spec, size]

theorem size_elementParts {e : Element} {m : Node} (h : m ∈ elementParts e) :
    m.size < sizeOf e := by
  cases e <;> simp [elementParts] at h <;> grind [size]

theorem size_keyParts {k : Key} {m : Node} (h : m ∈ keyParts k) : m.size < sizeOf k := by
  cases k <;> simp [keyParts] at h <;> grind [size]

theorem size_propertyParts {p : Property} {m : Node} (h : m ∈ propertyParts p) :
    m.size < sizeOf p := by
  cases p <;> simp [propertyParts, unlessName] at h <;> grind [size]

theorem size_patternParts {b : Bool} {p : Pattern} {m : Node} (h : m ∈ patternParts b p) :
    m.size < sizeOf p := by
  cases p <;> simp [patternParts] at h <;>
    grind [→ sizeOf_lt_of_mem, Option.some.sizeOf_spec, size]

theorem size_fieldParts {b : Bool} {f : Field} {m : Node} (h : m ∈ fieldParts b f) :
    m.size < sizeOf f := by
  obtain ⟨sp, k, v, short⟩ := f
  cases short <;> simp only [fieldParts, shorthandParts] at h <;> grind [size]

theorem size_funcParts {b : Bool} {f : Func} {x : List Frame × Node} (h : x ∈ funcParts b f) :
    x.2.size < sizeOf f := by
  obtain ⟨sp, id, a, g, ps, params, rest, body, pure⟩ := f
  simp [funcParts, mem_under] at h
  grind [→ sizeOf_lt_of_mem, Option.some.sizeOf_spec, size]

theorem size_classParts {b : Bool} {c : Class} {x : List Frame × Node} (h : x ∈ classParts b c) :
    x.2.size < sizeOf c := by
  obtain ⟨sp, ds, id, heritage, ta, is, ms, members⟩ := c
  simp [classParts, mem_under] at h
  grind [→ sizeOf_lt_of_mem, Option.some.sizeOf_spec, size]

theorem size_memberParts {c : Member} {x : List Frame × Node} (h : x ∈ memberParts c) :
    x.2.size < sizeOf c := by
  cases c <;> simp [memberParts, mem_under] at h <;>
    grind [→ sizeOf_lt_of_mem, Option.some.sizeOf_spec, size]

theorem size_catchParts {c : Catch} {x : List Frame × Node} (h : x ∈ catchParts c) :
    x.2.size < sizeOf c := by
  obtain ⟨sp, p, bs, stmts⟩ := c
  simp [catchParts, mem_under] at h
  grind [→ sizeOf_lt_of_mem, Option.some.sizeOf_spec, size]

theorem size_headParts {c : ForHead} {m : Node} (h : m ∈ headParts c) : m.size < sizeOf c := by
  cases c <;> simp [headParts] at h <;> grind [→ sizeOf_lt_of_mem, size]

theorem size_stmtParts {c : Stmt} {x : List Frame × Node} (h : x ∈ stmtParts c) :
    x.2.size < sizeOf c := by
  cases c <;> simp [stmtParts, mem_under] at h <;>
    grind [→ sizeOf_lt_of_mem, Option.some.sizeOf_spec, size]

/-- A part is smaller than the node it is a part of. -/
theorem size_framed {n : Node} {x : List Frame × Node} (h : x ∈ n.framed) :
    x.2.size < n.size := by
  cases n with
  | expr e => exact size_exprParts (mem_under.1 h).2
  | element e => exact size_elementParts (mem_under.1 h).2
  | key k => exact size_keyParts (mem_under.1 h).2
  | property p => exact size_propertyParts (mem_under.1 h).2
  | pattern b p => exact size_patternParts (mem_under.1 h).2
  | field b f => exact size_fieldParts (mem_under.1 h).2
  | func b f => exact size_funcParts h
  | classNode b c => exact size_classParts h
  | member c => exact size_memberParts h
  | handler c => exact size_catchParts h
  | head c => exact size_headParts (mem_under.1 h).2
  | stmt c => exact size_stmtParts h
  | template t =>
      obtain ⟨sp, q, es⟩ := t
      simp [framed, mem_under] at h
      grind [→ sizeOf_lt_of_mem, size]
  | body b =>
      obtain ⟨sp, ds, ss⟩ := b
      simp [framed, mem_under] at h
      grind [→ sizeOf_lt_of_mem, size]
  | declarator d =>
      obtain ⟨sp, p, v⟩ := d
      simp [framed, mem_under] at h
      grind [Option.some.sizeOf_spec, size]
  | case c =>
      obtain ⟨sp, t, ss⟩ := c
      simp [framed, mem_under] at h
      grind [→ sizeOf_lt_of_mem, Option.some.sizeOf_spec, size]
  | value d => cases d <;> simp [framed, mem_under] at h <;> grind [size]

theorem size_parts {s : Scope} {n : Node} {x : Scope × Node} (h : x ∈ n.parts s) :
    x.2.size < n.size := by
  simp only [parts, List.mem_map] at h
  obtain ⟨y, hy, rfl⟩ := h
  exact size_framed (x := y) hy

/-! ### Descendants -/

/-- The node and all parts below it, in the order of the text, each with its scope. -/
def walk (s : Scope) (n : Node) : List (Scope × Node) :=
  (s, n) :: (n.parts s).attach.flatMap fun ⟨(t, m), _⟩ => walk t m
termination_by n.size
decreasing_by exact size_parts (by assumption)

end Node

/-- All parts of a program, statements first to last. -/
def Program.walk (p : Program) : List (Scope × Node) :=
  p.stmts.flatMap fun s => (Node.stmt s).walk p.scope

end ModuleBundler
