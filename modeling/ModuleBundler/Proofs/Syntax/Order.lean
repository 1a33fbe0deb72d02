/-
ModuleBundler/Proofs/Syntax/Order.lean

The names that patterns and declarations bind, where they stand in the text.  A name is bound
by an identifier at a leaf of a pattern (`Pattern.Binds`); those of a pattern are listed from
left to right in its tree (`Pattern.binders`), and that this is the order of the text is a
property of the parser, as is that none of them is a reserved word.

`Parse.Orders X f p` says of a parser `p`: where the identifiers read so far stand one behind
the other, those in `X` the last of them, and `p` returns `a`, there the identifiers `f a`
stand in their place and are in order too.
-/
import ModuleBundler.Proofs.Syntax.Extent

namespace ModuleBundler

/-! ### Names that are bound -/

/-- An identifier binds a name in a pattern. -/
inductive Pattern.Binds : Pattern → Ident → Prop
  | name (id : Ident) : Binds (.name id) id
  | field {span : Span} {fields : List Field} {rest : Option Pattern} {f : Field} {id : Ident} :
      f ∈ fields → Binds f.value id → Binds (.object span fields rest) id
  | item {span : Span} {items : List (Option Pattern)} {rest : Option Pattern} {p : Pattern}
      {id : Ident} : some p ∈ items → Binds p id → Binds (.array span items rest) id
  | objectRest {span : Span} {fields : List Field} {p : Pattern} {id : Ident} :
      Binds p id → Binds (.object span fields (some p)) id
  | arrayRest {span : Span} {items : List (Option Pattern)} {p : Pattern} {id : Ident} :
      Binds p id → Binds (.array span items (some p)) id
  | withDefault {span : Span} {p : Pattern} {value : Expr} {id : Ident} :
      Binds p id → Binds (.withDefault span p value) id
  | decorated {span : Span} {marks : List Expr} {p : Pattern} {id : Ident} :
      Binds p id → Binds (.decorated span marks p) id

/-- An identifier binds a name in a declaration.  Enumerations and namespaces are left out. -/
inductive Stmt.Binds : Stmt → Ident → Prop
  | declare {span : Span} {kind : Declare} {items : List Declarator} {d : Declarator}
      {id : Ident} : d ∈ items → d.target.Binds id → Binds (.declare span kind items) id
  | funcDecl {f : Func} {id : Ident} : f.id = some id → Binds (.funcDecl f) id
  | classDecl {c : Class} {id : Ident} : c.id = some id → Binds (.classDecl c) id

namespace Pattern

/-- The identifiers that bind the names of a pattern, from left to right. -/
def binders (p : Pattern) : List Ident :=
  match p with
  | .name id => [id]
  | p => p.parts.attach.flatMap fun ⟨q, _⟩ => q.binders
termination_by sizeOf p
decreasing_by exact Pattern.size_parts (by assumption)

@[simp] theorem binders_name (id : Ident) : (name id).binders = [id] := by
  rw [binders]

theorem binders_eq {p : Pattern} (h : ∀ id, p ≠ .name id) :
    p.binders = p.parts.flatMap (·.binders) := by
  rw [binders]
  · exact flatMap_attach _ fun q : Pattern => q.binders
  · exact h

@[simp] theorem binders_object (span : Span) (fields : List Field) (rest : Option Pattern) :
    (object span fields rest).binders =
      fields.flatMap (·.value.binders) ++ rest.toList.flatMap (·.binders) := by
  rw [binders_eq (by simp), parts, List.flatMap_append, List.flatMap_map]

@[simp] theorem binders_array (span : Span) (items : List (Option Pattern))
    (rest : Option Pattern) :
    (array span items rest).binders =
      items.flatMap (·.toList.flatMap (·.binders)) ++ rest.toList.flatMap (·.binders) := by
  rw [binders_eq (by simp), parts, List.flatMap_append, List.flatMap_assoc]

@[simp] theorem binders_withDefault (span : Span) (p : Pattern) (value : Expr) :
    (withDefault span p value).binders = p.binders := by
  rw [binders_eq (by simp), parts]
  simp

theorem names_eq_map_binders (p : Pattern) : p.names = p.binders.map (·.name) := by
  induction p using binders.induct with
  | case1 id => rw [names, binders_name, List.map_singleton]
  | case2 p hp ih =>
      rw [binders_eq hp, List.map_flatMap, names]
      · rw [flatMap_attach _ fun q : Pattern => q.names]
        exact List.flatMap_congr fun q hq => ih q hq
      · exact hp

theorem binds_iff_of_parts {p : Pattern} {id : Ident} (h : ∀ id, p ≠ .name id) :
    p.Binds id ↔ ∃ q ∈ p.parts, q.Binds id := by
  constructor
  · rintro (_ | ⟨hf, hbinds⟩ | ⟨hp, hbinds⟩ | hbinds | hbinds | hbinds | hbinds)
    · exact absurd rfl (h _)
    · exact ⟨_, List.mem_append_left _ (List.mem_map_of_mem hf), hbinds⟩
    · exact ⟨_, List.mem_append_left _ (List.mem_flatMap.2 ⟨_, hp, by simp⟩), hbinds⟩
    · exact ⟨_, List.mem_append_right _ (by simp), hbinds⟩
    · exact ⟨_, List.mem_append_right _ (by simp), hbinds⟩
    · exact ⟨_, List.mem_singleton_self _, hbinds⟩
    · exact ⟨_, List.mem_singleton_self _, hbinds⟩
  · rintro ⟨q, hq, hbinds⟩
    cases p with
    | name | place => exact absurd hq List.not_mem_nil
    | object span fields rest =>
        rcases List.mem_append.1 hq with hq | hq
        · obtain ⟨f, hf, rfl⟩ := List.mem_map.1 hq
          exact .field hf hbinds
        · obtain rfl := Option.mem_toList.1 hq
          exact .objectRest hbinds
    | array span items rest =>
        rcases List.mem_append.1 hq with hq | hq
        · obtain ⟨i, hi, hq⟩ := List.mem_flatMap.1 hq
          obtain rfl := Option.mem_toList.1 hq
          exact .item hi hbinds
        · obtain rfl := Option.mem_toList.1 hq
          exact .arrayRest hbinds
    | withDefault =>
        obtain rfl := List.mem_singleton.1 hq
        exact .withDefault hbinds
    | decorated =>
        obtain rfl := List.mem_singleton.1 hq
        exact .decorated hbinds

theorem mem_binders_iff {p : Pattern} {id : Ident} : id ∈ p.binders ↔ p.Binds id := by
  induction p using binders.induct with
  | case1 other =>
      rw [binders_name, List.mem_singleton]
      constructor
      · rintro rfl
        exact .name id
      · rintro ⟨⟩
        rfl
  | case2 p hp ih =>
      rw [binders_eq hp, List.mem_flatMap, binds_iff_of_parts hp]
      exact exists_congr fun q => and_congr_right fun hq => ih q hq

end Pattern

namespace Stmt

/-- The identifiers that bind the names of a declaration. -/
def binders : Stmt → List Ident
  | .declare _ _ items => items.flatMap (·.target.binders)
  | .funcDecl f => f.id.toList
  | .classDecl c => c.id.toList
  | _ => []

theorem mem_binders_iff {s : Stmt} {id : Ident} : id ∈ s.binders ↔ s.Binds id := by
  constructor
  · intro h
    cases s with
    | declare span kind items =>
        obtain ⟨d, hd, hid⟩ := List.mem_flatMap.1 h
        exact .declare hd (Pattern.mem_binders_iff.1 hid)
    | funcDecl f => exact .funcDecl (Option.mem_toList.1 h)
    | classDecl c => exact .classDecl (Option.mem_toList.1 h)
    | _ => exact absurd h List.not_mem_nil
  · rintro (⟨hd, hbinds⟩ | hf | hc)
    · exact List.mem_flatMap.2 ⟨_, hd, Pattern.mem_binders_iff.2 hbinds⟩
    · exact Option.mem_toList.2 hf
    · exact Option.mem_toList.2 hc

end Stmt

/-! ### Identifiers in order -/

/-- The name is no reserved word. -/
def Ident.IsBindable (id : Ident) : Prop := id.name ∉ Token.reservedWords

/-- Identifiers that can be bound stand one behind the other between two places. -/
structure Ident.Ordered (lo hi : Nat) (ids : List Ident) : Prop where
  within : ∀ id ∈ ids, lo ≤ id.span.start ∧ id.span.start < id.span.stop ∧ id.span.stop ≤ hi
  pairwise : ids.Pairwise fun a b => a.span.stop ≤ b.span.start
  bindable : ∀ id ∈ ids, id.IsBindable

namespace Ident.Ordered

variable {lo hi hi' : Nat} {ids : List Ident} {id : Ident}

theorem nil : Ordered lo hi [] := ⟨by simp, List.Pairwise.nil, by simp⟩

theorem mono (h : Ordered lo hi ids) (hle : hi ≤ hi') : Ordered lo hi' ids where
  within id hid := ⟨(h.within id hid).1, (h.within id hid).2.1, Nat.le_trans (h.within id hid).2.2 hle⟩
  pairwise := h.pairwise
  bindable := h.bindable

theorem concat (h : Ordered lo hi ids) (hlo : lo ≤ id.span.start) (hle : hi ≤ id.span.start)
    (hlt : id.span.start < id.span.stop) (hstop : id.span.stop ≤ hi') (hid : id.IsBindable) :
    Ordered lo hi' (ids ++ [id]) where
  within other hother := by
    rcases List.mem_append.1 hother with hother | hother
    · exact (h.mono (by omega)).within other hother
    · obtain rfl := List.mem_singleton.1 hother
      exact ⟨hlo, hlt, hstop⟩
  pairwise := by
    refine List.pairwise_append.2 ⟨h.pairwise, List.pairwise_singleton _ _, fun a ha b hb => ?_⟩
    obtain rfl := List.mem_singleton.1 hb
    exact Nat.le_trans (h.within a ha).2.2 hle
  bindable other hother := by
    rcases List.mem_append.1 hother with hother | hother
    · exact h.bindable other hother
    · rwa [List.mem_singleton.1 hother]

/-- Identifiers in order begin one behind the other. -/
theorem starts (h : Ordered lo hi ids) : ids.Pairwise fun a b => a.span.start < b.span.start :=
  h.pairwise.imp_of_mem fun ha _ hle => Nat.lt_of_lt_of_le (h.within _ ha).2.1 hle

end Ident.Ordered

/-- The identifiers that were read from a place on up to the cursor stand in order. -/
structure Cursor.Reads (lo : Nat) (ids : List Ident) (c : Cursor) : Prop where
  wf : c.Wf
  le : lo ≤ c.place
  ordered : c.noted = [] → Ident.Ordered lo c.prevStop ids

namespace Cursor.Reads

variable {lo : Nat} {ids : List Ident} {c c' : Cursor} {ts : List Span}

theorem nil (hc : c.Wf) : c.Reads c.place [] := ⟨hc, Nat.le_refl _, fun _ => .nil⟩

/-- Nothing is said where a diagnostic was noted. -/
theorem of_noted (h : c.Reads lo ids) (hn : c.noted ≠ []) (ids' : List Ident) : c.Reads lo ids' :=
  { h with ordered := fun hnone => absurd hnone hn }

theorem onward (h : c.Reads lo ids) (hreach : c.Reaches ts c') : c'.Reads lo ids where
  wf := hreach.wf
  le := Nat.le_trans h.le hreach.place_le
  ordered hn := (h.ordered (hreach.clean hn)).mono hreach.prevStop_le

end Cursor.Reads

namespace Parse

open Cursor

variable {α β σ : Type} {X Y : List Ident} {f : α → List Ident} {g : β → List Ident} {p q : Parse α}
  {h : α → Parse β} {lo : Nat} {ids : List Ident} {c : Cursor}

/-- Behind what was read before, the parser reads identifiers in order. -/
def Orders (X : List Ident) (f : α → List Ident) (p : Parse α) : Prop :=
  ∀ ⦃lo ids⦄ ⦃c : Cursor⦄, c.Reads lo (ids ++ X) → Ensures (fun a c' =>
    c'.Reads lo (ids ++ f a) ∧ (c'.noted = [] → c.noted = [])) p c

/-- What a parser takes and does not return changes nothing. -/
theorem Traces.reads [Sited α] (hp : Traces [] p) (hc : c.Reads lo ids) :
    Ensures (fun _ c' => c'.Reads lo ids ∧ (c'.noted = [] → c.noted = [])) p c := by
  intro a c' hok
  obtain ⟨ts, hreach, -⟩ := hp hc.wf hok
  exact ⟨hc.onward hreach, hreach.clean⟩

namespace Orders

theorem pure {a : α} (h : f a = X) : Orders X f (Pure.pure a) :=
  fun _ _ _ hc => .pure ⟨h ▸ hc, id⟩

theorem of_fails (hp : Fails p) : Orders X f p := fun _ _ _ _ => .of_fails hp

theorem bind (hp : Orders [] f p) (hh : ∀ a, Orders (X ++ f a) g (h a)) : Orders X g (p >>= h) := by
  intro lo ids c hc
  refine Ensures.bind (hp (by rwa [List.append_nil])) fun a c₁ hc₁ => ?_
  rw [List.append_assoc] at hc₁
  intro b c' hok
  obtain ⟨hreads, hclean⟩ := hh a hc₁.1 hok
  exact ⟨hreads, fun hn => hc₁.2 (hclean hn)⟩

theorem skip [Sited α] (hp : Traces [] p) (hh : ∀ a, Orders X g (h a)) : Orders X g (p >>= h) := by
  intro lo ids c hc
  refine Ensures.bind (hp.reads hc) fun a c₁ hc₁ b c' hok => ?_
  obtain ⟨hreads, hclean⟩ := hh a hc₁.1 hok
  exact ⟨hreads, fun hn => hc₁.2 (hclean hn)⟩

theorem look (hp : Looks p) (hh : ∀ a, Orders X g (h a)) : Orders X g (p >>= h) :=
  fun _ _ _ hc => .look hp fun a _ => hh a hc

theorem ite {P : Prop} [Decidable P] (hp : Orders X f p) (hq : Orders X f q) :
    Orders X f (if P then p else q) := fun _ _ _ hc => .ite (hp hc) (hq hc)

/-- A value that is there already is not read. -/
theorem known {a : α} (hh : Orders X g (h a)) : Orders X g (Pure.pure a >>= h) := hh

/-- A step that may be left out. -/
theorem whenTrue {P : Prop} [Decidable P] {p : Parse PUnit} {h : PUnit → Parse β}
    (hp : Traces [] p) (hh : ∀ r, Orders X g (h r)) : Orders X g (if P then p >>= h else h ⟨⟩) :=
  .ite (.skip hp hh) (hh ⟨⟩)

theorem whenFalse {P : Prop} [Decidable P] {p : Parse PUnit} {h : PUnit → Parse β}
    (hp : Traces [] p) (hh : ∀ r, Orders X g (h r)) : Orders X g (if P then h ⟨⟩ else p >>= h) :=
  .ite (hh ⟨⟩) (.skip hp hh)

/-- What is read in each round of a loop comes behind what was read before. -/
theorem repeating {step : σ → Parse (σ ⊕ α)} {k : σ → List Ident} {s : σ} (hs : k s = X)
    (hstep : ∀ s, Orders (k s) (Sum.elim k f) (step s)) : Orders X f (Parse.repeating s step) := by
  subst hs
  intro lo ids c hc
  refine .repeating (I := fun s c' => c'.Reads lo (ids ++ k s) ∧ (c'.noted = [] → c.noted = []))
    (fun s c₁ hs => ?_) ⟨hc, id⟩
  intro r c' hok
  obtain ⟨hreads, hclean⟩ := hstep s hs.1 hok
  cases r with
  | inl s' => exact ⟨hreads, fun hn => hs.2 (hclean hn)⟩
  | inr a => exact ⟨hreads, fun hn => hs.2 (hclean hn)⟩

end Orders

end Parse

end ModuleBundler
