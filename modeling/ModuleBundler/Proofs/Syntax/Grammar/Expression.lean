/-
ModuleBundler/Proofs/Syntax/Grammar/Expression.lean

Expressions come from the tokens that are taken for them.
-/
import ModuleBundler.Proofs.Syntax.Grammar.Class
import ModuleBundler.Syntax.Grammar.Expression

namespace ModuleBundler.Grammar

open Parse

variable {g : Grammar} {X : List Span}

attribute [local simp] List.count_cons

/-! ### Primary expressions -/

theorem Traced.parenthesized (hg : g.Traced) : Traces [] g.parenthesized := by
  refine .look looks_here fun start => .skip (traces_expect _) fun _ => ?_
  refine .look looks_here fun inner => .bind (hg.assignment.separated _).withIn fun r => ?_
  obtain ⟨items, comma⟩ := r
  refine .look (looks_spanFrom _) fun innerSpan => .skip (traces_expect _) fun _ => ?_
  split
  · exact .of_fails (fails_fail _)
  · refine .look (looks_spanFrom _) fun span => .pure ?_
    exact Node.among_iff.2 fun s => by simp
  · refine .look (looks_spanFrom _) fun span => .pure (Node.among_iff.2 fun s => ?_)
    have := Node.count_sites (.expr (.sequence innerSpan items)) s
    simp at *
    omega

theorem Traced.element (hg : g.Traced) : Traces [] g.element := by
  refine .look looks_here fun start => .skip (traces_eat _) fun b => .ite (fun _ => ?_) fun _ => ?_
  · refine .bind hg.assignment.withIn fun e => .look (looks_spanFrom _) fun span => .pure ?_
    exact Node.among_iff.2 fun s => by simp
  · exact .bind hg.assignment.withIn fun e => .pure (Node.among_iff.2 fun s => by simp)

theorem Traced.arrayElement (hg : g.Traced) : Traces [] g.arrayElement := by
  refine .look (looks_sees _) fun b => .ite (fun _ => ?_) fun _ => hg.element
  refine .look looks_here fun start => .look looks_here fun stop => .pure ?_
  exact Node.among_iff.2 fun s => by simp

theorem traces_noteTrailing (start : Nat) (comma : Option Nat) :
    Traces X (noteTrailing start comma) :=
  .ite (fun _ => .modify fun _ => ⟨rfl, rfl, rfl, rfl, rfl, id⟩) fun _ => .pure (Among.nil _)

theorem Traced.array (hg : g.Traced) : Traces [] g.array := by
  refine .look looks_here fun start => .skip (traces_expect _) fun _ => ?_
  refine .bind (hg.arrayElement.separated _).withIn fun r => ?_
  obtain ⟨items, comma⟩ := r
  refine .skip (traces_expect _) fun _ => .skip (traces_noteTrailing _ _) fun _ => ?_
  exact .look (looks_spanFrom _) fun span => .pure (Node.among_iff.2 fun s => by simp)

/-- The name of a property that begins with a name is that name. -/
theorem key_of_isBinding {c c' : Cursor} {k : Key} (h : g.key c = .ok k c')
    (ht : c.token.isBinding = true) : k = .name ⟨c.token.text, c.token.span⟩ := by
  have hkind := kind_of_isBinding ht
  obtain ⟨t, c₁, hlook, h⟩ := bind_eq_ok.1 h
  cases hlook
  rw [if_neg (by simp [Token.isString, hkind]), if_neg (by simp [Token.isNumber, hkind]),
    if_neg (by simp [Token.is, hkind])] at h
  obtain ⟨id, c₂, hid, h⟩ := bind_eq_ok.1 h
  obtain ⟨t, c₃, hlook, hid⟩ := bind_eq_ok.1 hid
  cases hlook
  rw [if_pos (by simp [Token.isName, hkind])] at hid
  cases hid
  cases h
  rfl

theorem Traced.property (hg : g.Traced) : Traces [] g.property := by
  refine .look looks_here fun start => .skip (traces_eat _) fun b => .ite (fun _ => ?_) fun _ => ?_
  · refine .bind hg.assignment fun e => .look (looks_spanFrom _) fun span => .pure ?_
    exact Node.among_iff.2 fun s => by simp
  refine .skip hg.decorators fun marks => .skip (traces_misplaced _) fun _ => ?_
  refine .skip (traces_modifiers _) fun words => .skip traces_accessorWord fun kind => ?_
  split
  · refine .bind hg.key fun k => .bind (hg.method _ _) fun f => .look (looks_spanFrom _) fun span => ?_
    refine .pure (Node.among_iff.2 fun s => ?_)
    simp
    omega
  refine .skip (traces_eat _) fun isGenerator => ?_
  -- the token is looked at before the name is read, and again after it
  intro c hc
  refine .token (.bindOf (Among.refl _) (hg.key hc) fun k c₁ hk hc₁ => ?_)
  refine Traces.look (looks_sees _) (fun b => .look (looks_sees _) fun b' => ?_) hc₁
  refine .ite (fun _ => ?_) fun _ => ?_
  · refine .skip (.forIn (fun w _ => ?_) _ _) fun _ => .bind (hg.method _ _) fun f => ?_
    · refine .ite (fun _ => .pure (Among.nil _)) fun _ => ?_
      exact .skip (traces_note _) fun _ => .pure (Among.nil _)
    · refine .look (looks_spanFrom _) fun span => .pure (Node.among_iff.2 fun s => ?_)
      simp
      omega
  refine .look (looks_sees _) fun b => .look (looks_sees _) fun b' => .ite (fun hb => ?_) fun _ => ?_
  · obtain rfl := key_of_isBinding hk (by simp_all)
    refine .skip (traces_checkOperatorName _) fun _ => .skip (traces_eat _) fun b => ?_
    refine .ite (fun _ => ?_) fun _ => ?_
    · refine .bind hg.assignment.withIn fun value => .look (looks_spanFrom _) fun span => ?_
      refine .skip (.modify fun _ => ⟨rfl, rfl, rfl, rfl, rfl, id⟩) fun _ => .pure ?_
      refine Node.among_iff.2 fun s => ?_
      have := Node.count_sites (.expr (.assign span .store (.name ⟨c.token.text, c.token.span⟩) value)) s
      simp [Node.unlessName] at *
      omega
    · refine .look (looks_spanFrom _) fun span => .pure ?_
      exact Node.among_iff.2 fun s => by simp [Node.unlessName]
  · refine .skip (traces_expect _) fun _ => .bind hg.assignment.withIn fun value => ?_
    refine .look (looks_spanFrom _) fun span => .pure (Node.among_iff.2 fun s => ?_)
    simp
    omega

theorem Traced.object (hg : g.Traced) : Traces [] g.object := by
  refine .look looks_here fun start => .skip (traces_expect _) fun _ => ?_
  refine .bind (hg.property.separated _).withIn fun r => ?_
  obtain ⟨members, comma⟩ := r
  refine .skip (traces_expect _) fun _ => .skip (traces_noteTrailing _ _) fun _ => ?_
  exact .look (looks_spanFrom _) fun span => .pure (Node.among_iff.2 fun s => by simp)

theorem Traced.template (hg : g.Traced) (isTagged : Bool) : Traces [] (g.template isTagged) := by
  refine .look looks_here fun start => ?_
  extract_lets piece substitution
  have hpiece : Traces [] piece := by
    refine .skip traces_take fun t => .whenTrue (traces_note _) fun _ => ?_
    exact .pure fun s => by simp
  have hsubstitution : Traces [] substitution := by
    refine .bind hg.expr.withIn fun e => .skip traces_continueTemplate fun _ => ?_
    exact .pure fun s => by simp
  refine .skip hpiece fun r => ?_
  obtain ⟨first, ended⟩ := r
  refine .ite (fun _ => ?_) fun _ => ?_
  · exact .look (looks_spanFrom _) fun span => .pure (Node.among_iff.2 fun s => by simp)
  refine .bind hsubstitution fun e => .mono (.repeating (fun state => ?_) ([first], [e])) ?_
  · obtain ⟨quasis, exprs⟩ := state
    refine .look looks_token fun t => ?_
    dsimp only
    split
    · refine .skip hpiece fun r => ?_
      obtain ⟨text, ended⟩ := r
      refine .ite (fun _ => ?_) fun _ => .pure fun s => by simp
      refine .look (looks_spanFrom _) fun span => .pure fun s => ?_
      simp [Node.sitesOf_template]
    · exact .of_fails (fails_throw _)
    · exact .bind hsubstitution fun e => .pure fun s => by simp
  · exact fun s => by simp

/-- The cursor whose token is the regular expression that begins with it. -/
def rescanned (c : Cursor) : Cursor :=
  let s := Lexeme.regex (c.token.raw ++ c.rest)
  let span : Span := ⟨c.place, c.place + s.raw.length⟩
  { c with
    token := { c.token with kind := .regex, text := s.text, raw := s.raw, span }
    rest := s.rest
    pos := span.stop }

/-- The token is read again as a regular expression, and taken. -/
theorem regex_eq_ok {c c' : Cursor} {e : Expr} (h : regex c = .ok e c') :
    c' = (rescanned c).advance ∧
      ∃ pattern flags, e = .regex (rescanned c).token.span pattern flags := by
  obtain ⟨c₀, c₁, hget, h⟩ := bind_eq_ok.1 h
  cases hget
  dsimp only at h
  split at h
  · obtain ⟨_, c₂, hset, h⟩ := bind_eq_ok.1 h
    obtain ⟨t, c₃, htake, h⟩ := bind_eq_ok.1 h
    cases hset
    cases htake
    cases h
    exact ⟨rfl, _, _, rfl⟩
  · obtain ⟨_, c₂, hset, h⟩ := bind_eq_ok.1 h
    cases h

/-- The expression begins where its slash does. -/
theorem reaches_rescanned {c : Cursor} (hc : c.Wf) : c.Reaches [] (rescanned c) := by
  have hhorizon : (rescanned c).horizon ≤ c.horizon := by
    have hlength := Lexeme.length_regex (c.token.raw ++ c.rest)
    have := hc.stop_eq
    have := hc.stop_le
    rw [List.length_append] at hlength
    show c.place + (Lexeme.regex (c.token.raw ++ c.rest)).raw.length +
      (Lexeme.regex (c.token.raw ++ c.rest)).rest.length ≤ _
    rw [Cursor.horizon]
    omega
  exact .again hc rfl rfl ⟨rfl, Nat.le_refl _⟩ LexemeKind.noConfusion (fun h => Bool.noConfusion h)
    hhorizon rfl id

theorem traces_regex : Traces [] regex := by
  intro c hc e c' hok
  obtain ⟨rfl, pattern, flags, rfl⟩ := regex_eq_ok hok
  have hagain := reaches_rescanned hc
  refine ⟨_, hagain.trans (.advance hagain.wf), fun _ s => ?_⟩
  rw [Cursor.waiting_advance, Node.sitesOf_regex]
  exact List.Sublist.count_le s (List.sublist_append_right _ c.waiting)

theorem Traced.importExpr (hg : g.Traced) : Traces [] g.importExpr := by
  refine .look looks_here fun start => .skip traces_takeWord fun _ => ?_
  extract_lets call
  have hcall : ∀ phase, Traces [] (call phase) := by
    intro phase
    refine .skip (traces_expect _) fun _ => .look (looks_sees _) fun b => ?_
    refine .refuse (fails_fail _) (.bind hg.assignment.withIn fun source => ?_)
    refine .skip (traces_eat _) fun b => ?_
    extract_lets rest
    have hrest : ∀ options, Traces (sitesOf options ++ (sitesOf source ++ [])) (rest options) := by
      intro options
      refine .skip (traces_eat _) fun _ => .skip (traces_eat _) fun b => ?_
      refine .require (fails_fail _) (.look (looks_spanFrom _) fun span => .pure ?_)
      exact Node.among_iff.2 fun s => by simp; omega
    refine .ite (fun _ => .look (looks_sees _) fun b => ?_) fun _ => .known (hrest none)
    exact .ite (fun _ => .known (hrest none)) fun _ =>
      .bind (.map hg.assignment.withIn fun e s => by simp) hrest
  refine .skip (traces_eat _) fun b => .ite (fun _ => .look looks_token fun t => ?_) fun _ => ?_
  · refine .ite (fun _ => ?_) fun _ => .ite (fun _ => ?_) fun _ => .of_fails (fails_fail _)
    · refine .skip traces_takeWord fun _ => .look (looks_spanFrom _) fun span => .pure ?_
      exact Node.among_iff.2 fun s => by simp
    · exact .skip traces_takeWord fun _ => hcall _
  · refine .look (looks_sees _) fun b => .ite (fun _ => hcall none) fun _ => ?_
    exact .of_fails fails_unexpected

theorem Traced.newExpr (hg : g.Traced) : Traces [] g.newExpr := by
  refine .look looks_here fun start => .skip traces_takeWord fun _ => .skip (traces_eat _) fun b => ?_
  extract_lets whole
  have hwhole : Traces [] (whole ()) := by
    refine .bind hg.callee fun callee => ?_
    extract_lets rest
    have hrest : ∀ r, Traces (sitesOf callee ++ []) (rest r) := by
      refine fun _ => .look (looks_sees _) fun b => .skip (traces_eat _) fun _ => ?_
      refine .skip (traces_eat _) fun b => ?_
      extract_lets last
      have hlast : ∀ args, Traces (sitesOf args ++ (sitesOf callee ++ [])) (last args) := by
        refine fun args => .whenTrue (traces_note _) fun _ => ?_
        refine .look (looks_spanFrom _) fun span => .pure ?_
        exact Node.among_iff.2 fun s => by simp; omega
      refine .ite (fun _ => .bind (hg.element.separated _).withIn fun r => ?_) fun _ => ?_
      · obtain ⟨args, comma⟩ := r
        refine .skip (traces_expect _) fun _ => .known ((hlast args).mono fun s => ?_)
        simp
      · exact .known (hlast [])
    split
    · exact .skip (traces_note _) hrest
    · exact hrest ()
  refine .ite (fun _ => .skip (traces_eatWord _) fun b => .ite (fun _ => ?_) fun _ => ?_) fun _ => ?_
  · refine .look (looks_spanFrom _) fun span => .pure ?_
    exact Node.among_iff.2 fun s => by simp
  · exact .of_fails (fails_fail _).left
  · exact hwhole

theorem traces_superExpr : Traces [] superExpr := by
  refine .skip traces_takeWord fun t => .look (looks_sees _) fun b => .look (looks_sees _) fun b' => ?_
  refine .look (looks_sees _) fun b'' => .whenFalse (traces_note _) fun _ => .pure ?_
  exact Node.among_iff.2 fun s => by simp

theorem Traced.classExpr (hg : g.Traced) : Traces [] g.classExpr := by
  refine .look looks_here fun start => .bind hg.decorators fun marks => ?_
  refine .bindOf (Z := []) (fun s => by simp) (hg.classRest start marks) fun c => .pure ?_
  exact Node.among_iff.2 fun s => by simp

theorem Traced.primary (hg : g.Traced) : Traces [] g.primary := by
  have hfunction : Traces [] (do return Expr.function (← g.function .expression)) :=
    .bind (hg.function _) fun f => .pure (Node.among_iff.2 fun s => by simp)
  have hname : Traces [] (do return Expr.name (← identifierReference)) :=
    .bind traces_identifierReference fun id => .pure fun s => by simp
  refine .look looks_token fun t => ?_
  split
  · exact .skip traces_stringLiteral fun v => .pure fun s => by simp
  · exact traces_numberLiteral
  · exact .bind (hg.template _) fun t => .pure (Node.among_iff.2 fun s => by simp)
  · refine .ite (fun _ => hg.parenthesized) fun _ => .ite (fun _ => hg.array) fun _ => ?_
    refine .ite (fun _ => hg.object) fun _ => .ite (fun _ => traces_regex) fun _ => ?_
    exact .ite (fun _ => hg.classExpr) fun _ => .of_fails fails_unexpected
  · split
    · exact .skip traces_takeWord fun t => .pure (Node.among_iff.2 fun s => by simp)
    · exact .skip traces_takeWord fun t => .pure (Node.among_iff.2 fun s => by simp)
    · exact .skip traces_takeWord fun t => .pure (Node.among_iff.2 fun s => by simp)
    · exact .skip traces_takeWord fun t => .pure (Node.among_iff.2 fun s => by simp)
    · exact hfunction
    · exact hg.classExpr
    · exact hg.newExpr
    · exact traces_superExpr
    · exact hg.importExpr
    · exact .look looks_seesFunction fun b => .ite (fun _ => hfunction) fun _ => hname
    · exact hname
  · exact .of_fails fails_unexpected

/-! ### Members and calls -/

theorem Traced.memberRest (hg : g.Traced) (start : Nat) (e : Expr) (chained : Bool) :
    Traces (sitesOf e) (g.memberRest start e chained) := by
  refine .mono (.repeating (fun state => ?_) (e, chained)) fun s => by simp
  obtain ⟨e, chained⟩ := state
  have hstate : sitesOf (e, chained) = sitesOf e := by simp
  rw [hstate]
  refine .look looks_token fun t => ?_
  extract_lets field keyed
  have hfield : ∀ optional, Traces (sitesOf e) (field optional) := by
    refine fun optional => .look looks_token fun t => .ite (fun _ => ?_) fun _ => ?_
    · refine .bind traces_privateIdentifier fun id => .look (looks_spanFrom _) fun span => ?_
      exact .pure (Node.among_iff.2 fun s => by simp)
    · refine .bind traces_identifierName fun id => .look (looks_spanFrom _) fun span => ?_
      exact .pure (Node.among_iff.2 fun s => by simp)
  have hkeyed : ∀ optional, Traces (sitesOf e) (keyed optional) := by
    refine fun optional => .skip (traces_expect _) fun _ => .bind hg.expr.withIn fun k => ?_
    refine .skip (traces_expect _) fun _ => .look (looks_spanFrom _) fun span => ?_
    exact .pure (Node.among_iff.2 fun s => by simp; omega)
  have htagged : ∀ chained, Traces (sitesOf e) (do
      let quasi ← g.template true
      return Sum.inl (Expr.tagged (← spanFrom start) e quasi, chained) :
        Parse ((Expr × Bool) ⊕ (Expr × Bool))) := by
    refine fun chained => .bind (hg.template true) fun quasi => .look (looks_spanFrom _) fun span => ?_
    exact .pure fun s => by simp [Node.sitesOf_tagged]; omega
  have hdone : Traces (sitesOf e) (pure (.inr (e, chained)) : Parse ((Expr × Bool) ⊕ (Expr × Bool))) :=
    .pure fun s => by simp
  -- what follows is put around the expression, and has its sites
  have hnext : ∀ (p : Parse Expr) (chained : Bool), Traces (sitesOf e) p → Traces (sitesOf e)
      (do return Sum.inl (← p, chained) : Parse ((Expr × Bool) ⊕ (Expr × Bool))) :=
    fun p chained hp => .bindOf (Z := []) (fun s => by simp) hp fun e => .pure fun s => by simp
  refine .ite (fun _ => .skip traces_take fun _ => hnext _ _ (hfield false)) fun _ => ?_
  refine .look looks_allowed fun a => .ite (fun _ => hnext _ _ (hkeyed false)) fun _ => ?_
  refine .ite (fun _ => .look looks_peek fun next => .ite (fun _ => hdone) fun _ => ?_) fun _ => ?_
  · refine .skip traces_take fun _ => .ite (fun _ => hnext _ _ (hkeyed true)) fun _ => ?_
    refine .ite (fun _ => .skip (traces_note _) fun _ => htagged true) fun _ => ?_
    exact hnext _ _ (hfield true)
  · exact .ite (fun _ => .whenTrue (traces_note _) fun _ => htagged chained) fun _ => hdone

theorem Traced.callRest (hg : g.Traced) (start : Nat) (e : Expr) (chained : Bool) :
    Traces (sitesOf e) (g.callRest start e chained) := by
  refine .mono (.repeating (fun state => ?_) (e, chained)) fun s => by simp
  obtain ⟨e, chained⟩ := state
  refine .bindOf (Z := []) (fun s => by simp) (hg.memberRest start e chained) fun r => ?_
  obtain ⟨e, chained⟩ := r
  refine .skip (traces_eat _) fun optional => .skip (traces_eat _) fun b => .ite (fun _ => ?_) fun _ => ?_
  · refine .bind ((hg.element.separated _).within _) fun r => ?_
    obtain ⟨args, comma⟩ := r
    refine .skip (traces_expect _) fun _ => .look (looks_spanFrom _) fun span => .pure fun s => ?_
    simp [Node.sitesOf_call]
    omega
  · exact .ite (fun _ => .of_fails fails_unexpected) fun _ => .pure fun s => by simp

theorem Traced.calleeRule (hg : g.Traced) : Traces [] g.calleeRule := by
  refine .look looks_here fun start => .bind hg.primary fun e => ?_
  refine .bindOf (Z := []) (fun s => by simp) (hg.memberRest start e false) fun r => ?_
  obtain ⟨e, chained⟩ := r
  exact .pure fun s => by simp

theorem Traced.leftHandRule (hg : g.Traced) : Traces [] g.leftHandRule := by
  refine .look looks_here fun start => .bind hg.primary fun e => ?_
  refine .bindOf (Z := []) (fun s => by simp) (hg.callRest start e false) fun r => ?_
  obtain ⟨e, chained⟩ := r
  refine .ite (fun _ => ?_) fun _ => .pure fun s => by simp
  exact .look (looks_spanFrom _) fun span => .pure (Node.among_iff.2 fun s => by simp)

/-! ### Unary operators -/

theorem looks_seesAwait : Looks seesAwait := by
  refine looks_token.bind fun t => .ite ?_ (.pure _)
  refine looks_allowed.bind fun a => .ite (.pure _) ?_
  exact looks_peek.bind fun next => .pure _

/-- A mark on a call is no part of it. -/
theorem among_markPure (e : Expr) : Among (sitesOf (markPure e)) (sitesOf e) := by
  -- the mark goes down to the first call or construction, and nothing else changes
  fun_induction markPure e with
  | case1 span callee args o p =>
      rw [Node.sitesOf_call, Node.sitesOf_call]
      exact .refl _
  | case2 span callee args p =>
      refine Node.among_iff.2 fun s => ?_
      have := Node.count_sites (.expr (.new span callee args p)) s
      simp_all
  | case3 span op l r ih =>
      refine Node.among_iff.2 fun s => ?_
      have := Node.count_sites (.expr (.binary span op l r)) s
      have := ih s
      simp_all
  | case4 span t a b ih =>
      refine Node.among_iff.2 fun s => ?_
      have := Node.count_sites (.expr (.conditional span t a b)) s
      have := ih s
      simp_all
  | case5 span span' callee args o p =>
      refine Node.among_iff.2 fun s => ?_
      have := Node.count_sites (.expr (.chain span (.call span' callee args o p))) s
      simp_all [Node.sitesOf_call]
  | case6 span e ih =>
      refine Node.among_iff.2 fun s => ?_
      have := Node.count_sites (.expr (.paren span e)) s
      have := ih s
      simp_all
  | case7 e => exact .refl _

theorem Traced.updateExpr (hg : g.Traced) : Traces [] g.updateExpr := by
  refine .look looks_here fun start => .look looks_token fun t => ?_
  extract_lets op?
  split
  · refine .skip traces_take fun _ => .bind hg.unary fun e => ?_
    refine .bindOf (Z := []) (fun s => by simp) (traces_simpleTarget e) fun target => ?_
    exact .look (looks_spanFrom _) fun span => .pure (Node.among_iff.2 fun s => by simp)
  · refine .bind hg.leftHandRule fun e => .look looks_token fun t => ?_
    split
    · refine .ite (fun _ => .pure fun s => by simp) fun _ => ?_
      refine .bindOf (Z := []) (fun s => by simp) (traces_simpleTarget e) fun target => ?_
      refine .skip traces_take fun _ => .look (looks_spanFrom _) fun span => .pure ?_
      exact Node.among_iff.2 fun s => by simp
    · exact .pure fun s => by simp

theorem Traced.unaryRule (hg : g.Traced) : Traces [] g.unaryRule := by
  refine .look looks_here fun start => .look looks_token fun t => .look looks_seesAwait fun b => ?_
  extract_lets rest
  have hrest : ∀ e, Traces (sitesOf e) (rest e) := by
    refine fun e => .pure ?_
    by_cases h : t.pure = true
    · rw [if_pos h]
      exact among_markPure e
    · rw [if_neg h]
      exact .refl _
  refine .ite (fun _ => .skip traces_takeWord fun _ => .look looks_allowed fun a => ?_) fun _ => ?_
  · refine .whenFalse (traces_note _) fun _ => .bind hg.unary fun arg => ?_
    refine .look (looks_spanFrom _) fun span => .known ((hrest _).mono ?_)
    exact Node.among_iff.2 fun s => by simp
  · split
    · refine .skip traces_takeWord fun _ => .bind hg.unary fun arg => ?_
      refine .look (looks_spanFrom _) fun span => .known ((hrest _).mono ?_)
      exact Node.among_iff.2 fun s => by simp
    · exact .bind hg.updateExpr fun e => (hrest e).mono fun s => by simp

/-! ### Binary operators -/

theorem Traced.binaryRest (hg : g.Traced) (start : Nat) (e : Expr) (opened : Bool) (min : Nat) :
    Traces (sitesOf e) (g.binaryRest start e opened min) := by
  refine .mono (.repeating (fun state => ?_) (e, opened)) fun s => by simp
  obtain ⟨e, opened⟩ := state
  refine .look looks_token fun t => .ite (fun _ => ?_) fun _ => .look looks_allowed fun a => ?_
  · -- a type that is asserted is read and noted
    refine .skip traces_takeWord fun _ => .skip hg.type fun _ => .skip (traces_note _) fun _ => ?_
    exact .pure fun s => by simp
  dsimp only
  split
  · exact .pure fun s => by simp
  · rename_i op hop
    refine .ite (fun _ => .pure fun s => by simp) fun _ => ?_
    refine .skip traces_takeWord fun _ => .bind (hg.binary _) fun right => ?_
    have hrest : Traces (sitesOf right ++ sitesOf (e, opened)) (do
        return Sum.inl (Expr.binary (← spanFrom start) op e right, false) :
          Parse ((Expr × Bool) ⊕ Expr)) := by
      refine .look (looks_spanFrom _) fun span => .pure fun s => ?_
      have := Node.count_sites (.expr (.binary span op e right)) s
      simp at *
      omega
    refine .whenTrue (traces_note _) fun _ => ?_
    split
    · exact .whenFalse (traces_note _) fun _ => hrest
    · exact .whenFalse (traces_note _) fun _ => hrest
    · exact hrest

theorem Traced.binaryRule (hg : g.Traced) (min : Nat) : Traces [] (g.binaryRule min) := by
  refine .look looks_here fun start => .look looks_token fun t => .look looks_allowed fun a => ?_
  refine .ite (fun _ => ?_) fun _ => .bind hg.unaryRule fun e => ?_
  · refine .bind traces_privateIdentifier fun id => .skip (traces_expectWord _) fun _ => ?_
    refine .bind (hg.binary _) fun right => ?_
    extract_lets rest
    have hrest : Traces (sitesOf right ++ (sitesOf id ++ [])) (rest ()) := by
      refine .look (looks_spanFrom _) fun span => (hg.binaryRest _ _ _ _).mono ?_
      exact Node.among_iff.2 fun s => by simp
    split
    · exact .of_fails (fails_fail _).left
    · exact hrest
  · exact (hg.binaryRest _ _ _ _).mono fun s => by simp

/-! ### Assignments -/

theorem looks_seesYield : Looks seesYield := by
  refine looks_token.bind fun t => .ite ?_ (.pure _)
  refine looks_allowed.bind fun a => .ite (.pure _) ?_
  exact looks_peek.bind fun next => .pure _

theorem Traced.yieldExpr (hg : g.Traced) : Traces [] g.yieldExpr := by
  have hnone : ∀ start, Traces [] (do return Expr.yield (← spanFrom start) false none) :=
    fun start => .look (looks_spanFrom _) fun span => .pure (Node.among_iff.2 fun s => by simp)
  refine .look looks_here fun start => .look looks_allowed fun a => ?_
  refine .whenFalse (traces_note _) fun _ => .skip traces_takeWord fun _ => ?_
  refine .look looks_token fun t => .ite (fun _ => hnone start) fun _ => ?_
  refine .skip (traces_eat _) fun delegate => .ite (fun _ => hnone start) fun _ => ?_
  refine .bind hg.assignment fun arg => .look (looks_spanFrom _) fun span => .pure ?_
  exact Node.among_iff.2 fun s => by simp

theorem Traced.conditionalRest (hg : g.Traced) (start : Nat) (e : Expr) :
    Traces (sitesOf e) (g.conditionalRest start e) := by
  refine .skip (traces_eat _) fun b => .ite (fun _ => ?_) fun _ => .pure (.refl _)
  refine .bind hg.assignment.withIn fun yes => .skip (traces_expect _) fun _ => ?_
  refine .bind hg.assignment fun no => .look (looks_spanFrom _) fun span => .pure ?_
  exact Node.among_iff.2 fun s => by simp; omega

/-- A mark on a function is no part of it. -/
theorem sitesOf_func_pure (f : Func) (isPure : Bool) :
    sitesOf ({ f with isPure } : Func) = sitesOf f := by
  show (Node.func false { f with isPure }).sites = (Node.func false f).sites
  rw [Node.sites_eq_children, Node.sites_eq_children (.func false f)]
  rfl

theorem among_markPureFunction (e : Expr) : Among (sitesOf (markPureFunction e)) (sitesOf e) := by
  unfold markPureFunction
  split
  · rename_i f
    refine Node.among_iff.2 fun s => ?_
    have := Node.count_sites (.expr (.function f)) s
    simp [sitesOf_func_pure] at *
    omega
  · rename_i f concise
    refine Node.among_iff.2 fun s => ?_
    have := Node.count_sites (.expr (.arrow f concise)) s
    simp [sitesOf_func_pure] at *
    omega
  · exact .refl _

theorem Traced.assignmentRule (hg : g.Traced) : Traces [] g.assignmentRule := by
  refine .look looks_token fun first => ?_
  extract_lets plain
  have hplain : Traces [] plain := by
    refine .look looks_seesYield fun b => .ite (fun _ => hg.yieldExpr) fun _ => ?_
    -- an arrow function that is tried and not found has taken nothing
    refine .bind hg.tryArrow fun arrow => ?_
    split
    · exact .pure fun s => by simp
    refine .known (.bind hg.tryAsyncArrow fun arrow => ?_)
    split
    · exact .pure fun s => by simp
    refine .mono (Y := []) (.look looks_here fun start => ?_) (Among.nil _)
    refine .bind (hg.binaryRule _) fun left => .look looks_token fun t => ?_
    have hvalue : ∀ op target, Traces (sitesOf target) (do
        let _ ← Parse.take
        let value ← g.assignment
        return Expr.assign (← spanFrom start) op target value) := by
      refine fun op target => .skip traces_take fun _ => .bind hg.assignment fun value => ?_
      refine .look (looks_spanFrom _) fun span => .pure ?_
      exact Node.among_iff.2 fun s => by simp; omega
    extract_lets rest
    have hrest : ∀ r, Traces (sitesOf left ++ []) (rest r) := by
      intro _
      unfold rest
      split
      · rename_i op hop
        refine .ite (fun _ => ?_) fun _ => ?_
        · exact .bindOf (Z := []) (.refl _) (hg.toTarget left) fun target =>
            (hvalue op target).mono fun s => by simp
        · exact .bindOf (Z := []) (.refl _) (traces_simpleTarget left) fun target =>
            (hvalue op target).mono fun s => by simp
      · exact (hg.conditionalRest _ _).mono fun s => by simp
    split
    · refine .ite (fun _ => ?_) fun _ => hrest ()
      exact (hg.simpleArrow _ _ _).mono fun s => by simp
    · exact hrest ()
  refine .bind hplain fun e => ?_
  extract_lets e'
  have he' : Among (sitesOf e') (sitesOf e) := by
    by_cases h : first.noSideEffects = true
    · simpa only [e', if_pos h] using among_markPureFunction e
    · simpa only [e', if_neg h] using .refl _
  refine .pure ?_
  rw [List.append_nil]
  by_cases h : first.pure = true
  · rw [if_pos h]
    exact (among_markPure e').trans he'
  · rw [if_neg h]
    exact he'

theorem Traced.exprRule (hg : g.Traced) : Traces [] g.exprRule := by
  refine .look looks_here fun start => .bind (hg.assignment.within _) fun first => ?_
  refine .look (looks_sees _) fun b => .ite (fun _ => ?_) fun _ => .pure fun s => by simp
  refine .bindOf (Y := sitesOf [first]) (Z := []) (fun s => by simp)
    (.repeating (fun taken => ?_) [first]) fun items => ?_
  · refine .skip (traces_eat _) fun b => .ite (fun _ => ?_) fun _ => .pure fun s => by simp
    exact .bind hg.assignment fun e => .pure fun s => by simp
  · exact .look (looks_spanFrom _) fun span => .pure (Node.among_iff.2 fun s => by simp)

end ModuleBundler.Grammar
