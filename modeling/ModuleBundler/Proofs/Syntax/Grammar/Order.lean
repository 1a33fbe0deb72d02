/-
ModuleBundler/Proofs/Syntax/Grammar/Order.lean

The names of an exported declaration stand in the text as they do in its tree, from left to
right, and none of them is a reserved word.  A rest has to be the last in a pattern, so what is
read is never put before what was read earlier (`Ordering.entries`).

Main results: `ordered_of_parse` and `bindable_of_parse`.
-/
import ModuleBundler.Proofs.Syntax.Grammar.Level
import ModuleBundler.Proofs.Syntax.Order

namespace ModuleBundler

open Parse

namespace Grammar

/-- The patterns of a grammar bind names in the order of the text. -/
structure Ordering (g : Grammar) : Prop where
  traced : g.Traced
  pattern : Orders [] Pattern.binders g.pattern

variable {g : Grammar} {lo : Nat} {ids : List Ident} {c : Cursor}

/-! ### Names -/

theorem notMem_reservedWords_of_isBinding {t : Token} (h : t.isBinding = true) :
    t.text ∉ Token.reservedWords := by
  have hword := (Bool.and_eq_true_iff.1 h).2
  rw [Bool.not_eq_true', List.contains_eq_mem, decide_eq_false_iff_not] at hword
  exact hword

/-- A token that is taken as a name stands behind all that was read before. -/
theorem reads_takeIdent (hc : c.Reads lo ids) (hbinding : c.token.isBinding = true) :
    Ensures (fun id c' => c'.Reads lo (ids ++ [id]) ∧ (c'.noted = [] → c.noted = [])) takeIdent c := by
  rintro id c' ⟨⟩
  have hreach := Cursor.Reaches.advance hc.wf
  refine ⟨⟨hreach.wf, Nat.le_trans hc.le hreach.place_le, fun hn => ?_⟩, hreach.clean⟩
  refine (hc.ordered (hreach.clean hn)).concat hc.le hc.wf.prevStop_le
    (hc.wf.place_lt (isSolid_of_isBinding hbinding)) ?_ (notMem_reservedWords_of_isBinding hbinding)
  exact Nat.le_of_eq c.prevStop_advance.symm

/-- A name is bound by a token that can name a variable, taken after a check. -/
theorem ensures_bindingIdentifier (c : Cursor) :
    Ensures (fun id c' => c.token.isBinding = true ∧
      ∃ r c₁, checkOperatorName c.token c = .ok r c₁ ∧ takeIdent c₁ = .ok id c')
      bindingIdentifier c := by
  refine .token (.ite (.of_fails (fails_fail _).left) ?_)
  by_cases hbinding : c.token.isBinding = true
  · rw [if_pos hbinding]
    exact fun id c' hok => ⟨hbinding, bind_eq_ok.1 hok⟩
  · rw [if_neg hbinding]
    exact .of_fails fails_unexpected.left

theorem orders_bindingIdentifier : Orders [] (fun id => [id]) bindingIdentifier := by
  intro lo ids c hc id c' hok
  rw [List.append_nil] at hc
  obtain ⟨hbinding, r, c₁, hcheck, hok⟩ := ensures_bindingIdentifier c hok
  obtain ⟨hreads, hclean⟩ := (traces_checkOperatorName _).reads hc hcheck
  rw [← token_checkOperatorName hcheck] at hbinding
  obtain ⟨hreads', hclean'⟩ := reads_takeIdent hreads hbinding hok
  exact ⟨hreads', fun hn => hclean (hclean' hn)⟩

theorem bindable_bindingIdentifier (c : Cursor) :
    Ensures (fun id _ => id.IsBindable) bindingIdentifier c := by
  intro id c' hok
  obtain ⟨hbinding, r, c₁, hcheck, hok⟩ := ensures_bindingIdentifier c hok
  rw [← token_checkOperatorName hcheck] at hbinding
  cases hok
  exact notMem_reservedWords_of_isBinding hbinding

/-! ### Patterns -/

namespace Ordering

theorem patternWithDefault (hg : g.Ordering) : Orders [] Pattern.binders g.patternWithDefault := by
  refine .look looks_here fun start => .bind hg.pattern fun p => ?_
  refine .skip (traces_eat _) fun b => .ite ?_ (.pure rfl)
  refine .skip hg.traced.assignment.withIn fun value => .look (looks_spanFrom _) fun span => ?_
  exact .pure (Pattern.binders_withDefault _ _ _)

theorem patternField (hg : g.Ordering) :
    Orders [] (fun f : Field => f.value.binders) g.patternField := by
  refine .look looks_here fun start => .look looks_token fun t => .look looks_peek fun next => ?_
  refine .ite (.bind orders_bindingIdentifier fun id => ?_) ?_
  · refine .skip (traces_eat _) fun b => .ite ?_ ?_
    · refine .skip hg.traced.assignment.withIn fun value => .look (looks_spanFrom _) fun span => ?_
      exact .pure (by simp)
    · exact .look (looks_spanFrom _) fun span => .pure (by simp)
  · refine .skip hg.traced.key fun k => .skip (traces_expect _) fun _ => ?_
    exact .bind hg.patternWithDefault fun value => .look (looks_spanFrom _) fun span => .pure rfl

theorem restPattern (hg : g.Ordering) : Orders [] Pattern.binders g.restPattern := by
  refine .bind hg.pattern fun p => .skip (traces_eat _) fun b => .ite ?_ (.pure rfl)
  exact .skip hg.traced.assignment.withIn fun _ => .skip (traces_note _) fun _ => .pure rfl

theorem reads_note (d : Diagnostic) (hc : c.Reads lo ids) :
    Ensures (fun _ c' => c'.Reads lo ids ∧ c'.noted ≠ []) (note d) c := by
  intro a c' hok
  refine ⟨((traces_note d).reads hc hok).1, ?_⟩
  cases hok
  exact List.cons_ne_nil _ _

/-- The entries of a pattern that were read so far, the last first, with a rest behind them.  If no
diagnostic was noted, no comma follows a rest. -/
structure Entered {α : Type} (f : α → List Ident) (lo : Nat) (ids : List Ident) (items : List α)
    (rest : Option Pattern) (c : Cursor) : Prop where
  reads : c.Reads lo (ids ++ (items.reverse.flatMap f ++ rest.toList.flatMap (·.binders)))
  last : c.noted = [] → rest ≠ none → c.token.is "," = false

theorem Entered.of_noted {α : Type} {f : α → List Ident} {items : List α} {rest : Option Pattern}
    {ids' : List Ident} (hc : c.Reads lo ids') (hn : c.noted ≠ []) : Entered f lo ids items rest c :=
  ⟨hc.of_noted hn _, fun hnone => absurd hnone hn⟩

/-- One entry more, or the rest, if there has been none. -/
theorem enters {α : Type} [Sited α] (hg : g.Ordering) {f : α → List Ident} {item : Parse α}
    (hitem : Orders [] f item) (notLast : Diagnostic) (items : List α) (rest : Option Pattern)
    (hc : c.Reads lo (ids ++ (items.reverse.flatMap f ++ rest.toList.flatMap (·.binders))))
    (hnone : c.noted = [] → rest = none) :
    Ensures (fun r c' => Entered f lo ids r.1 r.2.1 c' ∧ (c'.noted = [] → c.noted = [])) (do
      if ← eat "..." then
        let p ← g.restPattern
        if ← sees "," then note notLast
        return (items, some p, true)
      else return ((← item) :: items, rest, false)) c := by
  refine .bind ((traces_eat "...").reads hc) fun b c₁ hc₁ => .ite ?_ ?_
  · refine .bind (hg.restPattern (by rw [List.append_nil]; exact hc₁.1)) fun p c₂ hc₂ => ?_
    refine .look (looks_sees _) fun b hb => ?_
    have hcomma : c₂.token.is "," = b := by
      cases hb
      rfl
    by_cases hb : b = true
    · -- a comma behind the rest is noted, and nothing is said any more
      rw [if_pos hb]
      refine .bind (reads_note notLast hc₂.1) fun _ c₃ hc₃ => .pure ⟨?_, fun hn => absurd hn hc₃.2⟩
      exact .of_noted hc₃.1 hc₃.2
    · rw [if_neg hb]
      refine .pure ⟨?_, fun hn => hc₁.2 (hc₂.2 hn)⟩
      by_cases hn : c₂.noted = []
      · obtain rfl := hnone (hc₁.2 (hc₂.2 hn))
        exact ⟨by simpa using hc₂.1, fun _ _ => hcomma.trans (Bool.not_eq_true _ ▸ hb)⟩
      · exact .of_noted hc₂.1 hn
  · refine .bind (hitem (by rw [List.append_nil]; exact hc₁.1)) fun a c₂ hc₂ => .pure ⟨?_, ?_⟩
    · by_cases hn : c₂.noted = []
      · obtain rfl := hnone (hc₁.2 (hc₂.2 hn))
        exact ⟨by simpa using hc₂.1, fun _ h => absurd rfl h⟩
      · exact .of_noted hc₂.1 hn
    · exact fun hn => hc₁.2 (hc₂.2 hn)

theorem entries {α : Type} [Sited α] (hg : g.Ordering) {f : α → List Ident} {item : Parse α}
    (hitem : Orders [] f item) (close : String) (notLast : Diagnostic) :
    Orders [] (fun r => r.1.flatMap f ++ r.2.toList.flatMap (·.binders))
      (g.entries close item notLast) := by
  intro lo ids c hc
  rw [List.append_nil] at hc
  refine .look looks_token fun t _ => .ite (.pure ⟨by simpa using hc, id⟩) ?_
  have hstart := hg.enters hitem notLast [] none (by simpa using hc) fun _ => rfl
  refine .bind hstart fun first c₁ hfirst => ?_
  refine .repeating (I := fun s c' => Entered f lo ids s.1 s.2.1 c' ∧ (c'.noted = [] → c.noted = []))
    (fun s c₂ hs => ?_) hfirst
  obtain ⟨items, rest, atRest⟩ := s
  obtain ⟨hentered, hclean⟩ := hs
  refine .token (.ite (.pure ⟨hentered.reads, hclean⟩) ?_)
  by_cases hcomma : c₂.token.is "," = true
  · rw [if_pos hcomma]
    refine .bind (traces_take.reads hentered.reads) fun _ c₃ hc₃ => .look (looks_sees _) fun b _ => ?_
    refine .ite (.ite ?_ (.pure ⟨hc₃.1, fun hn => hclean (hc₃.2 hn)⟩)) ?_
    · refine .bind ((traces_note _).reads hc₃.1) fun _ c₄ hc₄ => .pure ⟨hc₄.1, fun hn => ?_⟩
      exact hclean (hc₃.2 (hc₄.2 hn))
    · -- no rest has been read, since it would not be followed by a comma
      refine Ensures.bind (hg.enters hitem notLast _ _ hc₃.1 fun hn => ?_) fun r c₄ hr => .pure ⟨hr.1, ?_⟩
      · by_contra hrest
        exact Bool.false_ne_true ((hentered.last (hc₃.2 hn) hrest).symm.trans hcomma)
      · exact fun hn => hclean (hc₃.2 (hr.2 hn))
  · rw [if_neg hcomma]
    exact .of_fails (fails_throw _).left

theorem objectPattern (hg : g.Ordering) : Orders [] Pattern.binders g.objectPattern := by
  refine .look looks_here fun start => .skip (traces_expect _) fun _ => ?_
  refine .bind (hg.entries hg.patternField _ _) fun r => .skip (traces_expect _) fun _ => ?_
  obtain ⟨fields, rest⟩ := r
  extract_lets whole
  have hwhole : ∀ u, Orders ([] ++ (fields.flatMap (·.value.binders) ++
      rest.toList.flatMap (·.binders))) Pattern.binders (whole u) :=
    fun _ => .look (looks_spanFrom _) fun span => .pure (Pattern.binders_object _ _ _)
  split
  · exact hwhole ()
  · exact hwhole ()
  · exact .skip (traces_note _) hwhole

theorem patternElement (hg : g.Ordering) :
    Orders [] (fun p : Option Pattern => p.toList.flatMap (·.binders)) g.patternElement := by
  refine .look (looks_sees _) fun b => .ite (.pure rfl) ?_
  exact .bind hg.patternWithDefault fun p => .pure (by simp)

theorem arrayPattern (hg : g.Ordering) : Orders [] Pattern.binders g.arrayPattern := by
  refine .look looks_here fun start => .skip (traces_expect _) fun _ => ?_
  refine .bind (hg.entries hg.patternElement _ _) fun r => .skip (traces_expect _) fun _ => ?_
  exact .look (looks_spanFrom _) fun span => .pure (Pattern.binders_array _ _ _)

theorem patternRule (hg : g.Ordering) : Orders [] Pattern.binders g.patternRule := by
  refine .look looks_token fun t => .ite hg.objectPattern (.ite hg.arrayPattern ?_)
  exact .bind orders_bindingIdentifier fun id => .pure (Pattern.binders_name id)

end Ordering

theorem ordering_level (n : Nat) : (level n).Ordering := by
  induction n with
  | zero => exact ⟨traced_exhausted, .of_fails fails_unexpected⟩
  | succ n ih => exact ⟨traced_level (n + 1), ih.patternRule⟩

/-! ### Declarations -/

namespace Ordering

theorem declarator (hg : g.Ordering) (kind : Declare) (inHead : Bool) :
    Orders [] (fun d : Declarator => d.target.binders) (g.declarator kind inHead) := by
  refine .look looks_here fun start => .bind hg.pattern fun target => .skip (traces_eat _) fun b => ?_
  extract_lets rest
  have hrest : ∀ value, Orders ([] ++ target.binders) (fun d : Declarator => d.target.binders)
      (rest value) := by
    refine fun value => .look (looks_spanFrom _) fun span => ?_
    refine .whenFalse (traces_checkInitializer _ _) fun _ => ?_
    split
    · exact .pure rfl
    · exact .skip (traces_note _) fun _ => .pure rfl
    · exact .skip (traces_note _) fun _ => .pure rfl
    · exact .pure rfl
  exact .ite (.skip (.map hg.traced.assignment fun e s => by simp) hrest) (.known (hrest none))

theorem declarators (hg : g.Ordering) (kind : Declare) (inHead : Bool) :
    Orders [] (fun items : List Declarator => items.flatMap (·.target.binders))
      (g.declarators kind inHead) := by
  refine .bind (hg.declarator kind inHead) fun first => ?_
  refine .repeating (k := fun taken : List Declarator => taken.reverse.flatMap (·.target.binders))
    (by simp) fun taken => ?_
  refine .skip (traces_eat _) fun b => .ite ?_ (.pure rfl)
  exact .bind (hg.declarator kind inHead) fun d => .pure (by simp)

theorem variableStatement (hg : g.Ordering) (kind : Declare) (position : Position) :
    Orders [] Stmt.binders (g.variableStatement kind position) := by
  refine .look looks_here fun start => .skip (traces_takeDeclareWord kind) fun _ => ?_
  refine .whenTrue (traces_note _) fun _ => .bind (hg.declarators kind false) fun items => ?_
  exact .skip traces_semicolon fun _ => .look (looks_spanFrom _) fun span => .pure rfl

end Ordering

/-- Identifiers that can be bound begin one behind the other. -/
structure InOrder (ids : List Ident) : Prop where
  starts : ids.Pairwise fun a b => a.span.start < b.span.start
  bindable : ∀ id ∈ ids, id.IsBindable

/-- The names of what is exported stand in the text as they do in its tree. -/
def Arranged (s : Stmt) (c : Cursor) : Prop :=
  c.noted = [] → ∀ span d, s = .exportDecl span d → InOrder d.binders

theorem declarative_arranged : Declarative Arranged where
  plain := by
    rintro _ c hplain - span d rfl
    cases hplain
  kept _ hclean h := fun hn => h (hclean hn)

theorem inOrder_nil : InOrder [] := ⟨List.Pairwise.nil, by simp⟩

/-- One name at most is in order. -/
theorem inOrder_toList {id : Option Ident} (h : ∀ i ∈ id, i.IsBindable) : InOrder id.toList := by
  cases id with
  | none => exact inOrder_nil
  | some id => exact ⟨List.pairwise_singleton _ id, fun i hi => h i (Option.mem_toList.1 hi)⟩

/-- A name that may be left out. -/
theorem bindable_some_bindingIdentifier (c : Cursor) :
    Ensures (fun id _ => ∀ i ∈ id, i.IsBindable) (some <$> bindingIdentifier) c :=
  Ensures.bind (bindable_bindingIdentifier c) fun id _ hid => .pure (by simpa using hid)

theorem bindable_classRest (start : Nat) (marks : List Expr) (c : Cursor) :
    Ensures (fun k _ => ∀ id ∈ k.id, id.IsBindable) (g.classRest start marks) c := by
  refine .skip fun _ _ => .skip fun waiting _ => .skip fun t _ => .skip fun b _ => ?_
  extract_lets rest
  have hrest : ∀ id, (∀ i ∈ id, i.IsBindable) → ∀ c,
      Ensures (fun k _ => ∀ i ∈ k.id, i.IsBindable) (rest id) c :=
    fun id hid c => .skip fun h _ => .skip fun r _ => .skip fun span _ => .pure hid
  refine .ite ?_ (hrest none (by simp) _)
  exact .bind (bindable_some_bindingIdentifier _) fun id c hid => hrest id hid c

theorem bindable_function (c : Cursor) :
    Ensures (fun f _ => ∀ id ∈ f.id, id.IsBindable) (g.function .declaration) c := by
  refine .skip fun start _ => .skip fun isAsync _ => .skip fun _ _ => .skip fun isGenerator _ => ?_
  extract_lets named whole
  have hnamed : ∀ c, Ensures (fun id _ => ∀ i ∈ id, i.IsBindable) named c := by
    refine fun c => .skip fun t _ => .ite ?_ (.pure (by simp))
    exact bindable_some_bindingIdentifier _
  have hwhole : ∀ id, (∀ i ∈ id, i.IsBindable) → ∀ c,
      Ensures (fun f _ => ∀ i ∈ f.id, i.IsBindable) (whole id) c := by
    intro id hid c
    have hrest : ∀ c, Ensures (fun f _ => ∀ i ∈ f.id, i.IsBindable)
        (g.functionRest start id isAsync isGenerator) c := by
      refine fun c => .skip fun r _ => .skip fun b _ => .ite ?_ (.of_fails fails_unexpected.left)
      exact .skip fun body _ => .skip fun span _ => .pure hid
    refine .ite (.skip fun t _ => .ite (.skip fun _ c => hrest c) ?_) (hrest c)
    exact .ite (.of_fails (fails_missing _).left) (hrest _)
  exact .bind (hnamed _) fun id c hid => hwhole id hid c

/-- The parser reads a declaration that binds no names, or only such as are left out. -/
def Nameless (p : Parse Stmt) : Prop := ∀ c, Ensures (fun d _ => d.binders = []) p c

theorem nameless_typeAlias : Nameless g.typeAlias := fun _ =>
  .skip fun _ _ => .skip fun _ _ => .skip fun _ _ => .skip fun _ _ => .skip fun _ _ => .skip fun _ _ =>
    .skip fun _ _ => .pure rfl

theorem nameless_interface : Nameless g.interface := fun _ =>
  .skip fun _ _ => .skip fun _ _ => .skip fun _ _ => .skip fun _ _ => .skip fun _ _ => .skip fun _ _ =>
    .pure rfl

theorem nameless_enumeration : Nameless g.enumeration := fun _ =>
  .skip fun _ _ => .skip fun _ _ => .skip fun _ _ => .skip fun _ _ => .skip fun _ _ => .skip fun _ _ =>
    .skip fun _ _ => .skip fun _ _ => .pure rfl

theorem nameless_namespaceDeclaration : Nameless g.namespaceDeclaration := by
  have hrest : ∀ start c, Ensures (fun d _ => Stmt.binders d = []) (do
      let r ← g.blockStmts
      return Stmt.namespaceDecl (← spanFrom start) r.2) c :=
    fun _ _ => .skip fun _ _ => .skip fun _ _ => .pure rfl
  intro c
  refine .skip fun start _ => .skip fun _ _ => .skip fun _ _ => .ite ?_ ?_
  · exact .skip fun _ _ => hrest _ _
  · exact .skip fun _ _ => hrest _ _

theorem Ordering.exportedDeclaration (hg : g.Ordering) (hc : c.Wf) :
    Ensures (fun d c' => c'.noted = [] → InOrder d.binders) g.exportedDeclaration c := by
  have hnameless : ∀ {p : Parse Stmt}, Nameless p →
      ∀ c, Ensures (fun d c' => c'.noted = [] → InOrder (Stmt.binders d)) p c := by
    intro p hp c d c' hok _
    rw [hp c hok]
    exact inOrder_nil
  refine .look looks_here fun start _ => ?_
  refine .bind (hg.traced.decorators.reads (.nil hc)) fun marks c₁ hc₁ => ?_
  refine .look (looks_seesWord _) fun b _ => .ite ?_ ?_
  · exact .skip fun _ _ => .bind (bindable_classRest _ _ _) fun k _ hk => .pure fun _ =>
      inOrder_toList hk
  refine .bind ((traces_misplaced _).reads hc₁.1) fun _ c₂ hc₂ => .look looks_seesFunction fun b _ => ?_
  refine .ite ?_ (.look looks_token fun t _ => ?_)
  · exact .bind (bindable_function _) fun f _ hf => .pure fun _ => inOrder_toList hf
  refine .ite (hnameless nameless_typeAlias _) (.ite (hnameless nameless_interface _) ?_)
  refine .look looks_peek fun next _ => .ite (hnameless nameless_enumeration _) ?_
  refine .ite (hnameless nameless_namespaceDeclaration _) (.look looks_declareWord fun kind _ => ?_)
  split
  · refine .ite (.of_fails fails_unexpected.left) fun d c' hok hn => ?_
    -- the names stand in the order in which the declarators bind them
    have hreads := (hg.variableStatement _ _ (by rw [List.append_nil]; exact hc₂.1) hok).1
    exact ⟨(hreads.ordered hn).starts, (hreads.ordered hn).bindable⟩
  · exact .of_fails fails_unexpected

theorem Ordering.exportDeclaration (hg : g.Ordering) (hc : c.Wf) :
    Ensures Arranged g.exportDeclaration c := by
  refine .look looks_here fun start _ => .bind (traces_takeWord.reads (.nil hc)) fun _ c₁ hc₁ => ?_
  refine .look looks_token fun t _ => .ite ?_ (.ite ?_ (.ite ?_ (.ite ?_ ?_)))
  · have hdone : ∀ v c, Ensures Arranged (do
        return Stmt.exportDefault (← spanFrom start) v) c := by
      refine fun v c => .spanFrom (.pure ?_)
      rintro - span d ⟨⟩
    refine .skip fun _ _ => .skip fun v c => ?_
    split
    · exact .skip fun _ c => hdone _ c
    · exact hdone _ c
  · intro s c' hok
    obtain ⟨exported, source, rfl⟩ := exportAll_eq _ _ hok
    rintro - span d ⟨⟩
  · intro s c' hok
    obtain ⟨specs, source, rfl⟩ := exportList_eq _ _ hok
    rintro - span d ⟨⟩
  · refine .skip fun _ _ => .skip fun _ _ => .skip fun _ _ => .pure ?_
    rintro - span d ⟨⟩
    exact inOrder_nil
  · refine .bind (hg.exportedDeclaration hc₁.1.wf) fun d c₂ hd => ?_
    refine .look (looks_spanFrom _) fun _ _ => .pure ?_
    rintro hn span d ⟨⟩
    exact hd hn

/-- The names of what a grammar exports stand in order. -/
theorem arranged_level (n : Nat) (position : Position) (hc : c.Wf) :
    Ensures Arranged ((level n).stmt position) c := by
  induction n generalizing c position with
  | zero => exact .of_fails fails_unexpected
  | succ n ih =>
      refine declarative_arranged.stmtRule (traced_level n) (fun c s c' hok => ?_)
        (fun _ => (ordering_level n).exportDeclaration hc) (ih position) hc
      rcases importDeclaration_eq c hok with hplain | ⟨start, specs, source, rfl⟩
      · exact declarative_arranged.plain hplain
      · rintro - span d ⟨⟩

theorem arranged_statements (n : Nat) (hc : c.Wf) :
    Ensures (fun r c' => ∀ s ∈ r.2, Arranged s c') ((level n).statements false) c := by
  have hnone : ∀ s ∈ ([] : List Stmt), Arranged s c := fun s hs => absurd hs List.not_mem_nil
  refine .repeating (I := fun s c => c.Wf ∧ ∀ t ∈ s.2.1, Arranged t c) (fun s c h => ?_) ⟨hc, hnone⟩
  obtain ⟨directives, taken, heading⟩ := s
  refine .look looks_token fun t _ => .ite (.pure fun s hs => h.2 s (List.mem_reverse.1 hs)) ?_
  refine .bind (R := fun s c' => c'.Wf ∧ ∀ t ∈ s :: taken, Arranged t c') (fun s c' hok => ?_) ?_
  · obtain ⟨ts, hreach, -⟩ := (traced_level n).stmt .listed h.1 hok
    refine ⟨hreach.wf, List.forall_mem_cons.2 ⟨arranged_level n .listed h.1 hok, ?_⟩⟩
    exact fun t ht hn => h.2 t ht (hreach.clean hn)
  · rintro s c' ⟨hwf, hmore⟩
    have hold : ∀ t ∈ taken, Arranged t c' := fun t ht => hmore t (List.mem_cons_of_mem s ht)
    split
    · exact .ite (.pure ⟨hwf, hold⟩) (.pure ⟨hwf, hmore⟩)
    · exact .pure ⟨hwf, hmore⟩

end Grammar

theorem Program.inOrder_of_parse {script : Bool} {text : List Char} {parsed : Parsed}
    (h : parse script text = .ok parsed) {span : Span} {d : Stmt}
    (hd : .exportDecl span d ∈ parsed.program.stmts) : Grammar.InOrder d.binders := by
  obtain ⟨directives, stmts, c, hok, hnoted, -, hprogram⟩ := exists_statements h
  rw [hprogram] at hd
  have hwf := (Grammar.reading_start script (hashbangLength text)
    (text.drop (hashbangLength text))).wf
  exact Grammar.arranged_statements _ hwf hok _ hd hnoted span d rfl

/-- **The names of a declaration that an accepted text exports stand in the text as in the tree.** -/
theorem Program.ordered_of_parse {script : Bool} {text : List Char} {parsed : Parsed}
    (h : parse script text = .ok parsed) {span : Span} {d : Stmt}
    (hd : .exportDecl span d ∈ parsed.program.stmts) :
    d.binders.Pairwise fun a b => a.span.start < b.span.start := (inOrder_of_parse h hd).starts

/-- **No declaration that an accepted text exports binds a reserved word.** -/
theorem Program.bindable_of_parse {script : Bool} {text : List Char} {parsed : Parsed}
    (h : parse script text = .ok parsed) {span : Span} {d : Stmt}
    (hd : .exportDecl span d ∈ parsed.program.stmts) : ∀ id ∈ d.binders, id.IsBindable :=
  (inOrder_of_parse h hd).bindable

end ModuleBundler
