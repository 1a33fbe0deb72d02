/-
ModuleBundler/Syntax/Binding.lean

The names that patterns and statements declare, and the frames they end up in.

A name belongs to the block that declares it.  A name declared by `var` goes on
its way outwards to the frame of the enclosing body, and leaves its trace in each
frame that it passes (`Passage`):

* a frame with a name of its own that is the same gives that name up, and the two
  are one name from then on, the body's;
* where a `var` has passed, a later declaration of its name in the same block
  declares nothing new.
-/
import ModuleBundler.Syntax.Tree

namespace ModuleBundler

/-! ### Patterns -/

/-- The patterns directly inside a pattern. -/
def Pattern.parts : Pattern → List Pattern
  | .name _ | .place _ => []
  | .object _ fields rest => fields.map (·.value) ++ rest.toList
  | .array _ items rest => items.flatMap Option.toList ++ rest.toList
  | .withDefault _ target _ | .decorated _ _ target => [target]

theorem Pattern.size_parts {p q : Pattern} (h : q ∈ p.parts) : sizeOf q < sizeOf p := by
  cases p with
  | name | place => simp [parts] at h
  | object s fields rest =>
      simp only [parts, List.mem_append, List.mem_map, Option.mem_toList] at h
      rcases h with ⟨f, hf, rfl⟩ | h
      · have := List.sizeOf_lt_of_mem hf
        cases f
        simp only [Field.mk.sizeOf_spec, object.sizeOf_spec] at *
        omega
      · cases h
        simp only [object.sizeOf_spec, Option.some.sizeOf_spec]
        omega
  | array s items rest =>
      simp only [parts, List.mem_append, List.mem_flatMap, Option.mem_toList] at h
      rcases h with ⟨i, hi, hq⟩ | h
      · have := List.sizeOf_lt_of_mem hi
        cases hq
        simp only [array.sizeOf_spec, Option.some.sizeOf_spec] at *
        omega
      · cases h
        simp only [array.sizeOf_spec, Option.some.sizeOf_spec]
        omega
  | withDefault s target value =>
      simp only [parts, List.mem_singleton] at h
      subst h
      simp only [withDefault.sizeOf_spec]
      omega
  | decorated s marks target =>
      simp only [parts, List.mem_singleton] at h
      subst h
      simp only [decorated.sizeOf_spec]
      omega

/-- The names that a pattern binds, in the order of the text. -/
def Pattern.names (p : Pattern) : List String :=
  match p with
  | .name id => [id.name]
  | p => p.parts.attach.flatMap fun ⟨q, _⟩ => q.names
termination_by sizeOf p
decreasing_by exact Pattern.size_parts (by assumption)

def declaredNames (items : List Declarator) : List String :=
  items.flatMap (·.target.names)

/-! ### Bindings and frames -/

/-- A declaration, as the frames around it see it. -/
inductive Binding where
  /-- A name of the frame that the declaration stands in. -/
  | lexical (name : String)
  /-- A name declared by `var`.  Some frame has claimed it, for the name was there; and the name was
  moved out of the frame that had it as its own. -/
  | hoisted (name : String) (claimed moved : Bool)
deriving DecidableEq, Inhabited, Repr

namespace Binding

def name : Binding → String
  | lexical n | hoisted n _ _ => n

/-- The name that comes to the body from a frame that had it as its own. -/
def moved? : Binding → Option String
  | hoisted n _ true => some n
  | _ => none

end Binding

/-- What becomes of the bindings inside a frame. -/
structure Passage where
  /-- The names of the frame, the last first. -/
  own : List String := []
  /-- The names declared by `var` that have passed. -/
  passed : List String := []
  /-- What goes on its way outwards, the last first. -/
  outwards : List Binding := []
deriving Inhabited

namespace Passage

def step (p : Passage) : Binding → Passage
  | .lexical n =>
      if p.own.contains n || p.passed.contains n then p else { p with own := n :: p.own }
  | .hoisted n claimed moved =>
      let isOwn := !claimed && p.own.contains n
      { own := if isOwn then p.own.erase n else p.own
        passed := n :: p.passed
        outwards := .hoisted n (claimed || isOwn || p.passed.contains n) (moved || isOwn) ::
          p.outwards }

/-- The bindings inside a frame, first to last. -/
def through (bs : List Binding) : Passage := bs.foldl step {}

/-- What leaves the frame. -/
def leaving (bs : List Binding) : List Binding := (through bs).outwards.reverse

end Passage

/-! ### Statements -/

/-- The bindings of a declaration. -/
def Declare.bindings (kind : Declare) (items : List Declarator) : List Binding :=
  (declaredNames items).map fun n => if kind.isLexical then .lexical n else .hoisted n false false

def ForHead.bindings : ForHead → List Binding
  | .declare _ kind items => kind.bindings items
  | .expr _ | .target _ => []

/-- The bindings inside the frame of a handler, given those of its statements. -/
def Catch.bindings (c : Catch) (inner : List Binding) : List Binding :=
  (c.param.toList.flatMap (·.names)).map .lexical ++ Passage.leaving inner

def Ident.bindings (id : Option Ident) : List Binding := id.toList.map fun i => .lexical i.name

mutual

/-- The bindings of a statement, functions inside it aside, as the frame sees them that the
statement stands in. -/
def Stmt.bindings : Stmt → List Binding
  | .declare _ kind items => kind.bindings items
  | .funcDecl f => Ident.bindings f.id
  | .classDecl c => Ident.bindings c.id
  | .importDecl _ specs _ => (specs.getD []).map fun s => .lexical s.localName.name
  | .exportDecl _ d => d.bindings
  | .exportDefault _ (.funcDecl f) => Ident.bindings f.id
  | .exportDefault _ (.classDecl c) => Ident.bindings c.id
  | .enumDecl _ id _ _ => [.lexical id.name]
  | .block _ stmts => Passage.leaving (Stmt.allBindings stmts)
  | .cond _ _ yes (some no) => yes.bindings ++ no.bindings
  | .cond _ _ yes none => yes.bindings
  | .forLoop _ (some head) _ _ body => Passage.leaving (head.bindings ++ body.bindings)
  | .forLoop _ none _ _ body => Passage.leaving body.bindings
  | .forIn _ head _ body | .forOf _ _ head _ body =>
      Passage.leaving (head.bindings ++ body.bindings)
  | .whileLoop _ _ body | .doWhile _ body _ | .labeled _ _ body | .withObject _ _ body =>
      body.bindings
  | .switch _ _ cases => Passage.leaving (Case.allBindings cases)
  | .tryCatch _ _ body (some c) _ (some final) =>
      Passage.leaving (Stmt.allBindings body) ++ Catch.leaving c ++
        Passage.leaving (Stmt.allBindings final)
  | .tryCatch _ _ body (some c) _ none => Passage.leaving (Stmt.allBindings body) ++ Catch.leaving c
  | .tryCatch _ _ body none _ (some final) =>
      Passage.leaving (Stmt.allBindings body) ++ Passage.leaving (Stmt.allBindings final)
  | .tryCatch _ _ body none _ none => Passage.leaving (Stmt.allBindings body)
  | _ => []

def Stmt.allBindings : List Stmt → List Binding
  | [] => []
  | s :: rest => s.bindings ++ Stmt.allBindings rest

def Case.allBindings : List Case → List Binding
  | [] => []
  | ⟨_, _, stmts⟩ :: rest => Stmt.allBindings stmts ++ Case.allBindings rest

/-- What leaves a handler. -/
def Catch.leaving : Catch → List Binding
  | ⟨s, param, b, stmts⟩ =>
      Passage.leaving (Catch.bindings ⟨s, param, b, []⟩ (Stmt.allBindings stmts))

end

/-- The names declared in a list of statements that is the body of a function or program. -/
def bodyNames (stmts : List Stmt) : List String := (Stmt.allBindings stmts).map (·.name)

/-- The names that a statement of a body moves there out of frames that had them as their own. -/
def Stmt.movedNames (s : Stmt) : List String := s.bindings.filterMap (·.moved?)

theorem Stmt.allBindings_append (xs ys : List Stmt) :
    Stmt.allBindings (xs ++ ys) = Stmt.allBindings xs ++ Stmt.allBindings ys := by
  induction xs with
  | nil => simp [Stmt.allBindings]
  | cons x xs ih => simp [Stmt.allBindings, ih]

end ModuleBundler
