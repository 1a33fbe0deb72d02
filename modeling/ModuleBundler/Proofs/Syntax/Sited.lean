/-
ModuleBundler/Proofs/Syntax/Sited.lean

The sites of whatever a parser returns (`Sited`): of a part of a tree those of its
node, of a name its span, of a list those of its members, and of most other values
none.  They are compared by how often each span occurs (`Among`), for a tree does
not always hold its parts in the order of the text.

Whether a pattern binds names or assigns to places makes no difference to its sites,
nor does it whether the name of a function or class is bound inside
(`sites_relabel`).
-/
import ModuleBundler.Proofs.Syntax.Sites

namespace ModuleBundler

/-! ### Among -/

/-- Each span occurs among the latter at least as often. -/
def Among (xs ys : List Span) : Prop := ∀ s, xs.count s ≤ ys.count s

namespace Among

variable {xs ys zs : List Span}

theorem refl (xs : List Span) : Among xs xs := fun _ => Nat.le_refl _

theorem trans (h : Among xs ys) (k : Among ys zs) : Among xs zs :=
  fun s => Nat.le_trans (h s) (k s)

theorem nil (xs : List Span) : Among [] xs := fun _ => Nat.zero_le _

theorem subperm (h : Among xs ys) : List.Subperm xs ys :=
  List.subperm_ext_iff.2 fun s _ => h s

theorem mem (h : Among xs ys) {s : Span} (hs : s ∈ xs) : s ∈ ys := h.subperm.subset hs

/-- Of spans that share no character, any number among them share none. -/
theorem pairwise (h : Among xs ys) (hys : ys.Pairwise Span.Apart) : xs.Pairwise Span.Apart := by
  obtain ⟨zs, hperm, hsub⟩ := h.subperm
  exact (hperm.pairwise_iff Span.Apart.symm).1 (hys.sublist hsub)

end Among

/-! ### Sites of values -/

class Sited (α : Type) where
  sitesOf : α → List Span

export Sited (sitesOf)

instance (priority := low) Sited.none {α : Type} : Sited α := ⟨fun _ => []⟩

instance : Sited Ident := ⟨fun id => [id.span]⟩
instance : Sited TypePiece := ⟨fun piece => piece.ident?.toList.flatMap sitesOf⟩
instance : Sited ModuleName := ⟨fun name => name.ident?.toList.flatMap sitesOf⟩
instance : Sited ImportSpec := ⟨fun s => sitesOf s.localName⟩
instance : Sited ExportSpec := ⟨fun s => sitesOf s.localName⟩

instance : Sited Expr := ⟨fun e => (Node.expr e).sites⟩
instance : Sited Element := ⟨fun e => (Node.element e).sites⟩
instance : Sited Key := ⟨fun k => (Node.key k).sites⟩
instance : Sited Property := ⟨fun p => (Node.property p).sites⟩
instance : Sited Template := ⟨fun t => (Node.template t).sites⟩
instance : Sited Pattern := ⟨fun p => (Node.pattern false p).sites⟩
instance : Sited Field := ⟨fun f => (Node.field false f).sites⟩
instance : Sited Func := ⟨fun f => (Node.func false f).sites⟩
instance : Sited Body := ⟨fun b => (Node.body b).sites⟩
instance : Sited Class := ⟨fun c => (Node.classNode false c).sites⟩
instance : Sited Member := ⟨fun m => (Node.member m).sites⟩
instance : Sited Declarator := ⟨fun d => (Node.declarator d).sites⟩
instance : Sited Case := ⟨fun c => (Node.case c).sites⟩
instance : Sited Catch := ⟨fun c => (Node.handler c).sites⟩
instance : Sited ForHead := ⟨fun h => (Node.head h).sites⟩
instance : Sited Stmt := ⟨fun s => (Node.stmt s).sites⟩
instance : Sited DefaultExport := ⟨fun v => (Node.value v).sites⟩

section Containers

variable {α : Type} [Sited α]

instance Sited.list : Sited (List α) := ⟨fun as => as.flatMap sitesOf⟩

@[simp] theorem sitesOf_nil : sitesOf ([] : List α) = [] := rfl

@[simp] theorem sitesOf_cons (a : α) (as : List α) :
    sitesOf (a :: as) = sitesOf a ++ sitesOf as := List.flatMap_cons

theorem sitesOf_map_eq_nil {γ : Type} {f : γ → α} (h : ∀ c, sitesOf (f c) = []) (cs : List γ) :
    sitesOf (cs.map f) = [] := by
  induction cs with
  | nil => rfl
  | cons c cs ih => rw [List.map_cons, sitesOf_cons, h, ih, List.append_nil]

variable {β : Type} [Sited β]

instance Sited.option : Sited (Option α) := ⟨fun a => a.toList.flatMap sitesOf⟩
instance : Sited (α × β) := ⟨fun ab => sitesOf ab.1 ++ sitesOf ab.2⟩
instance : Sited (α ⊕ β) := ⟨fun
  | .inl a => sitesOf a
  | .inr b => sitesOf b⟩

@[simp] theorem sitesOf_none : sitesOf (none : Option α) = [] := rfl

@[simp] theorem sitesOf_some (a : α) : sitesOf (some a) = sitesOf a := by
  show [a].flatMap sitesOf = _
  simp

@[simp] theorem sitesOf_append (as bs : List α) :
    sitesOf (as ++ bs) = sitesOf as ++ sitesOf bs := List.flatMap_append

@[simp] theorem count_sitesOf_reverse (as : List α) (s : Span) :
    (sitesOf as.reverse).count s = (sitesOf as).count s := by
  induction as with
  | nil => rfl
  | cons a as ih => simp [ih, Nat.add_comm]

theorem among_head? (as : List α) : Among (sitesOf as.head?) (sitesOf as) := by
  intro s
  cases as with
  | nil => exact Nat.zero_le _
  | cons a as => simp

@[simp] theorem sitesOf_prod (a : α) (b : β) : sitesOf (a, b) = sitesOf a ++ sitesOf b := rfl

@[simp] theorem sitesOf_inl (a : α) : sitesOf (.inl a : α ⊕ β) = sitesOf a := rfl

@[simp] theorem sitesOf_inr (b : β) : sitesOf (.inr b : α ⊕ β) = sitesOf b := rfl

end Containers

@[simp] theorem sitesOf_other {α : Type} (a : α) : Sited.none.sitesOf a = [] := rfl

@[simp] theorem sitesOf_others {α : Type} (as : List α) :
    (@Sited.list α Sited.none).sitesOf as = [] := by
  induction as with
  | nil => rfl
  | cons a as ih => exact ih

@[simp] theorem sitesOf_option_other {α : Type} (a : Option α) :
    (@Sited.option α Sited.none).sitesOf a = [] := by
  cases a <;> rfl

@[simp] theorem sitesOf_ident (id : Ident) : sitesOf id = [id.span] := rfl

@[simp] theorem sitesOf_piece_name (id : Ident) : sitesOf (TypePiece.name id) = sitesOf id := rfl

@[simp] theorem sitesOf_piece_text (s : String) : sitesOf (TypePiece.text s) = [] := rfl

theorem sitesOf_specs (specs : List ImportSpec) :
    specs.map ((fun id => id.span) ∘ fun spec => spec.localName) = sitesOf specs := by
  induction specs with
  | nil => rfl
  | cons spec specs ih => rw [List.map_cons, ih, sitesOf_cons]; rfl

/-- The names picked from a list are those of its members. -/
theorem map_span_filterMap {α : Type} [Sited α] {f : α → Option Ident}
    (h : ∀ a, sitesOf a = (f a).toList.flatMap sitesOf) (as : List α) :
    (as.filterMap f).map (·.span) = sitesOf as := by
  induction as with
  | nil => rfl
  | cons a as ih =>
      rw [sitesOf_cons, h]
      rcases hf : f a with _ | id
      · rw [List.filterMap_cons_none hf, ih]
        rfl
      · rw [List.filterMap_cons_some hf, List.map_cons, ih]
        rfl

/-! ### Sites of nodes -/

namespace Node

/-- The parts of a node, without the frames that open around them. -/
def children (n : Node) : List Node := n.framed.map (·.2)

theorem map_snd_under (frames : List Frame) (nodes : List Node) :
    (under frames nodes).map (·.2) = nodes := by
  simp [under, Function.comp_def]

theorem sites_eq_children (n : Node) : n.sites = n.ownSites ++ n.children.flatMap sites := by
  rw [sites_eq, children, List.flatMap_map]

theorem count_sites (n : Node) (s : Span) :
    n.sites.count s = n.ownSites.count s + (n.children.flatMap sites).count s := by
  rw [sites_eq_children, List.count_append]

theorem among_iff {n : Node} {xs : List Span} :
    Among n.sites xs ↔ Among (n.ownSites ++ n.children.flatMap sites) xs := by
  rw [← sites_eq_children]

section Values

variable {α : Type} [Sited α]

@[simp] theorem flatMap_sitesOf (l : List α) : l.flatMap sitesOf = sitesOf l := rfl

@[simp] theorem sitesOf_toList (a : Option α) : sitesOf a.toList = sitesOf a := rfl

@[simp] theorem sites_expr (e : Expr) : (expr e).sites = sitesOf e := rfl
@[simp] theorem sites_element (e : Element) : (element e).sites = sitesOf e := rfl
@[simp] theorem sites_key (k : Key) : (key k).sites = sitesOf k := rfl
@[simp] theorem sites_property (p : Property) : (property p).sites = sitesOf p := rfl
@[simp] theorem sites_template (t : Template) : (template t).sites = sitesOf t := rfl
@[simp] theorem sites_body (b : Body) : (body b).sites = sitesOf b := rfl
@[simp] theorem sites_member (m : Member) : (member m).sites = sitesOf m := rfl
@[simp] theorem sites_declarator (d : Declarator) : (declarator d).sites = sitesOf d := rfl
@[simp] theorem sites_case (c : Case) : (case c).sites = sitesOf c := rfl
@[simp] theorem sites_handler (c : Catch) : (handler c).sites = sitesOf c := rfl
@[simp] theorem sites_head (h : ForHead) : (head h).sites = sitesOf h := rfl
@[simp] theorem sites_stmt (s : Stmt) : (stmt s).sites = sitesOf s := rfl
@[simp] theorem sites_value (v : DefaultExport) : (value v).sites = sitesOf v := rfl

@[simp] theorem flatMap_sites_map {f : α → Node} (h : ∀ a, (f a).sites = sitesOf a)
    (l : List α) : (l.map f).flatMap sites = sitesOf l := by
  rw [List.flatMap_map]
  exact List.flatMap_congr fun a _ => h a

end Values

attribute [simp] children map_snd_under ownSites nameSites wordSites idents exprParts elementParts
  keyParts propertyParts patternParts fieldParts funcParts classParts memberParts catchParts
  headParts stmtParts framed Stmt.keyword? Stmt.isModuleDecl

/-! ### Marks on nodes -/

/-- The node with a pattern that does not bind, or without a name of its own bound inside. -/
def relabel : Node → Node
  | pattern _ p => pattern false p
  | field _ f => field false f
  | func _ f => func false f
  | classNode _ c => classNode false c
  | n => n

theorem size_relabel (n : Node) : n.relabel.size = n.size := by cases n <;> rfl

theorem ownSites_relabel (n : Node) : n.relabel.ownSites = n.ownSites := by
  cases n with
  | field binds f =>
      obtain ⟨span, k, p, shorthand⟩ := f
      cases p with
      | withDefault span target value => cases shorthand <;> cases target <;> rfl
      | _ => cases shorthand <;> rfl
  | pattern binds p => cases p <;> rfl
  | _ => rfl

theorem map_relabel_children (n : Node) :
    n.relabel.children.map relabel = n.children.map relabel := by
  cases n with
  | field binds f =>
      obtain ⟨span, k, p, shorthand⟩ := f
      cases shorthand with
      | false => simp [relabel]
      | true =>
          cases p with
          | withDefault span target value => cases target <;> simp [relabel, shorthandParts]
          | _ => simp [relabel, shorthandParts]
  | pattern binds p => cases p <;> simp [relabel, Function.comp_def, List.map_flatMap]
  | func binds f => simp [relabel, Function.comp_def]
  | classNode binds c => simp [relabel, Function.comp_def]
  | _ => rfl

/-- The marks on a node do not matter to its sites. -/
theorem sites_relabel (n : Node) : n.relabel.sites = n.sites := by
  have hchildren : ∀ m : Node, (∀ x ∈ m.framed, x.2.relabel.sites = x.2.sites) →
      m.children.flatMap sites = (m.children.map relabel).flatMap sites := by
    intro m hm
    rw [List.flatMap_map]
    refine List.flatMap_congr fun c hc => ?_
    obtain ⟨x, hx, rfl⟩ := List.mem_map.1 hc
    exact (hm x hx).symm
  rw [sites_eq_children, sites_eq_children n, ownSites_relabel,
    hchildren n fun x _ => sites_relabel x.2, hchildren n.relabel fun x _ => sites_relabel x.2,
    map_relabel_children]
termination_by n.size
decreasing_by
  · exact size_framed (by assumption)
  · rw [← size_relabel n]
    exact size_framed (by assumption)

@[simp] theorem sites_pattern (b : Bool) (p : Pattern) : (pattern b p).sites = sitesOf p :=
  (sites_relabel (pattern b p)).symm

@[simp] theorem sites_field (b : Bool) (f : Field) : (field b f).sites = sitesOf f :=
  (sites_relabel (field b f)).symm

@[simp] theorem sites_func (b : Bool) (f : Func) : (func b f).sites = sitesOf f :=
  (sites_relabel (func b f)).symm

@[simp] theorem sites_classNode (b : Bool) (c : Class) : (classNode b c).sites = sitesOf c :=
  (sites_relabel (classNode b c)).symm

/-! ### Sites, node by node -/

theorem map_span_toList (id : Option Ident) : id.toList.map (·.span) = sitesOf id := by
  cases id <;> rfl

theorem map_span_pieces (ps : List TypePiece) :
    (ps.filterMap (·.ident?)).map (·.span) = sitesOf ps :=
  map_span_filterMap (fun _ => rfl) ps

attribute [simp] sitesOf_specs map_span_toList map_span_pieces

theorem count_sitesOf_class (c : Class) (s : Span) :
    (sitesOf c).count s = (sitesOf c.id).count s + (sitesOf c.typeArgs).count s +
      (sitesOf c.interfaces).count s + (sitesOf c.decorators).count s +
      (sitesOf c.heritage).count s + (sitesOf c.members).count s := by
  show (classNode false c).sites.count s = _
  rw [sites_eq_children]
  simp
  omega

theorem count_sitesOf_func (f : Func) (s : Span) :
    (sitesOf f).count s = (sitesOf f.id).count s + (sitesOf f.params).count s +
      (sitesOf f.rest).count s + (sitesOf f.body).count s := by
  show (func false f).sites.count s = _
  rw [sites_eq_children]
  simp
  omega

/-- The sites of an export list are those of its local names. -/
theorem sitesOf_exportList (span : Span) (specs : List ExportSpec) (source : Option Literal) :
    sitesOf (Stmt.exportList span specs source) =
      sitesOf specs ++ [⟨span.start, span.start + 6⟩] := by
  have hspecs : (specs.filterMap (·.localName.ident?)).map (·.span) = sitesOf specs :=
    map_span_filterMap (fun _ => rfl) specs
  show (stmt (.exportList span specs source)).sites = _
  rw [sites_eq_children]
  simp [hspecs, Stmt.span]

/-- A name that is called counts as the name that it is. -/
theorem sitesOf_call (span : Span) (e : Expr) (args : List Element) (o p : Bool) :
    sitesOf (Expr.call span e args o p) = sitesOf e ++ sitesOf args := by
  show (expr (.call span e args o p)).sites = (expr e).sites ++ sitesOf args
  rw [sites_eq_children]
  cases e with
  | name id =>
      rw [sites_eq_children (expr (.name id))]
      simp [unlessName]
  | _ => simp [unlessName]

theorem sitesOf_tagged (span : Span) (e : Expr) (t : Template) :
    sitesOf (Expr.tagged span e t) = sitesOf e ++ sitesOf t := by
  show (expr (.tagged span e t)).sites = (expr e).sites ++ sitesOf t
  rw [sites_eq_children]
  cases e with
  | name id =>
      rw [sites_eq_children (expr (.name id))]
      simp [unlessName]
  | _ => simp [unlessName]

@[simp] theorem sitesOf_name (id : Ident) : sitesOf (Expr.name id) = sitesOf id := by
  show (expr (.name id)).sites = _
  rw [sites_eq_children]
  simp

@[simp] theorem sitesOf_key_name (id : Ident) : sitesOf (Key.name id) = sitesOf id := by
  show (key (.name id)).sites = _
  rw [sites_eq_children]
  simp

@[simp] theorem sitesOf_pattern_name (id : Ident) : sitesOf (Pattern.name id) = sitesOf id := by
  show (pattern false (.name id)).sites = _
  rw [sites_eq_children]
  simp

@[simp] theorem sitesOf_string (v : Literal) : sitesOf (Expr.string v) = [] := by
  show (expr (.string v)).sites = _
  rw [sites_eq_children]
  simp

@[simp] theorem sitesOf_regex (span : Span) (pattern flags : String) :
    sitesOf (Expr.regex span pattern flags) = [] := by
  show (expr (.regex span pattern flags)).sites = _
  rw [sites_eq_children]
  simp

@[simp] theorem sitesOf_stmt_expr (span : Span) (e : Expr) :
    sitesOf (Stmt.expr span e) = sitesOf e := by
  show (stmt (.expr span e)).sites = _
  rw [sites_eq_children]
  simp

@[simp] theorem sitesOf_typeDecl (span : Span) : sitesOf (Stmt.typeDecl span) = [] := by
  show (stmt (.typeDecl span)).sites = _
  rw [sites_eq_children]
  simp

theorem sitesOf_template (t : Template) : sitesOf t = sitesOf t.exprs := by
  show (template t).sites = _
  rw [sites_eq_children]
  simp

end Node

end ModuleBundler
