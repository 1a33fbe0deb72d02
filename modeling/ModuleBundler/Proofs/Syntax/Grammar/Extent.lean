/-
ModuleBundler/Proofs/Syntax/Grammar/Extent.lean

Expressions, functions and classes have spans from their first token to their last.
-/
import ModuleBundler.Proofs.Syntax.Extent
import ModuleBundler.Proofs.Syntax.Grammar.Module

namespace ModuleBundler.Grammar

open Parse

variable {g : Grammar}

/-! ### Names and literals -/

theorem stays_checkOperatorName (t : Token) : Stays (checkOperatorName t) := by
  have hyield : Stays (do
      if t.text == "yield" && (← allowed).yieldWord then note (.identifierInGenerator "yield")) :=
    looks_allowed.stays.bind fun a => .ite (stays_note _) (Looks.pure _).stays
  refine looks_allowed.stays.bind fun a => .ite ((stays_note _).bind fun _ => ?_) ?_
  · exact .ite (stays_note _) (Looks.pure _).stays
  · exact .ite (stays_note _) (Looks.pure _).stays

theorem whole_identifierReference : Whole Ident.span identifierReference := by
  refine .look looks_token fun t => .require fails_unexpected ?_
  exact .stay (stays_checkOperatorName t) fun _ => .map whole_take fun _ => rfl

theorem whole_stringLiteral : Whole Literal.span stringLiteral := by
  refine .look looks_token fun t => .require fails_unexpected ?_
  exact .map whole_take fun _ => rfl

theorem whole_numberLiteral : Whole Expr.span numberLiteral := by
  refine fun c => .bind (whole_take c) fun t c₁ ht => ?_
  dsimp only
  split
  · exact .pure ht
  · exact .pure ht

/-! ### Functions and classes -/

theorem spans_functionRest (start : Nat) (id : Option Ident) (isAsync isGenerator : Bool) :
    Spans start Func.span (g.functionRest start id isAsync isGenerator) := by
  refine .bind fun r => ?_
  obtain ⟨paramsSpan, items, rest⟩ := r
  refine .bind fun b => .ite (.bind fun body => .done fun _ => rfl) ?_
  exact .bind fun _ => .bind fun body => .done fun _ => rfl

theorem whole_function (role : FunctionRole) : Whole Func.span (g.function role) := by
  refine .here fun start => .bind fun isAsync => .bind fun _ => .bind fun isGenerator => ?_
  extract_lets named whole
  have hwhole : ∀ id, Spans start Func.span (whole id) := by
    intro id
    have hrest := spans_functionRest (g := g) start id isAsync isGenerator
    refine .ite (.bind fun t => ?_) hrest
    exact .ite (.bind fun _ => hrest) (.ite (.bind fun _ => hrest) hrest)
  exact .ite (.bind hwhole) (.bind hwhole)

theorem spans_classRest (start : Nat) (marks : List Expr) :
    Spans start Class.span (g.classRest start marks) := by
  refine .bind fun _ => .bind fun waiting => .bind fun t => .bind fun b => ?_
  have hrest : ∀ id : Option Ident, Spans start Class.span (do
      let h ← g.heritage
      let r ← g.classBody
      return ⟨← spanFrom start, waiting ++ marks, id, h.parent.map (·.1),
        (h.parent.map (·.2)).getD [], joined ", " h.interfaces, r.1, r.2⟩) :=
    fun id => .bind fun h => .bind fun r => .done fun _ => rfl
  exact .ite (.bind hrest) (.bind hrest)

theorem whole_classExpr : Whole Expr.span g.classExpr := by
  refine .here fun start => .bind fun marks c => ?_
  exact .bind (spans_classRest start marks c) fun k c₁ hk => .pure hk

/-! ### Primary expressions -/

theorem whole_parenthesized : Whole Expr.span g.parenthesized := by
  refine .here fun start => .bind fun _ => .bind fun inner => .bind fun r => ?_
  obtain ⟨items, comma⟩ := r
  refine .bind fun innerSpan => .bind fun _ => ?_
  split
  · exact .of_fails (fails_fail _)
  · exact .done fun _ => rfl
  · exact .done fun _ => rfl

theorem whole_array : Whole Expr.span g.array := by
  refine .here fun start => .bind fun _ => .bind fun r => ?_
  obtain ⟨items, comma⟩ := r
  exact .bind fun _ => .bind fun _ => .done fun _ => rfl

theorem whole_object : Whole Expr.span g.object := by
  refine .here fun start => .bind fun _ => .bind fun r => ?_
  obtain ⟨members, comma⟩ := r
  exact .bind fun _ => .bind fun _ => .done fun _ => rfl

theorem whole_template (isTagged : Bool) : Whole Template.span (g.template isTagged) := by
  refine .here fun start => ?_
  extract_lets piece substitution
  refine .bind fun r => ?_
  obtain ⟨first, ended⟩ := r
  refine .ite (.done fun _ => rfl) (.bind fun e => .repeating (fun state c => ?_) _)
  obtain ⟨quasis, exprs⟩ := state
  refine .look looks_token fun t _ => ?_
  split
  · refine .skip fun r c₁ => ?_
    obtain ⟨text, ended⟩ := r
    exact .ite (.spanFrom (.pure fun _ => rfl)) (.pure trivial)
  · exact .of_fails (fails_throw _)
  · exact .skip fun e c₁ => .pure trivial

theorem whole_regex : Whole Expr.span regex := by
  intro c e c' hok
  obtain ⟨rfl, pattern, flags, rfl⟩ := regex_eq_ok hok
  intro _
  rw [Cursor.prevStop_advance]
  rfl

theorem whole_importExpr : Whole Expr.span g.importExpr := by
  refine .here fun start => .bind fun _ => ?_
  extract_lets call
  have hcall : ∀ phase, Spans start Expr.span (call phase) := by
    refine fun phase => .bind fun _ => .bind fun b => ?_
    extract_lets whole
    have hwhole : ∀ r, Spans start Expr.span (whole r) := by
      refine fun _ => .bind fun source => .bind fun b => ?_
      extract_lets last
      have hlast : ∀ options, Spans start Expr.span (last options) :=
        fun options => .bind fun _ => .bind fun b => .ite (.done fun _ => rfl)
          (.bind fun _ => .done fun _ => rfl)
      exact .ite (.bind fun b => .ite (.bind hlast) (.bind hlast)) (.bind hlast)
    exact .ite (.bind hwhole) (hwhole ())
  refine .bind fun b => .ite (.bind fun t => .ite ?_ (.ite ?_ ?_)) (.bind fun b => .ite ?_ ?_)
  · exact .bind fun _ => .done fun _ => rfl
  · exact .bind fun _ => hcall _
  · exact .of_fails (fails_fail _)
  · exact hcall _
  · exact .of_fails fails_unexpected

theorem whole_newExpr : Whole Expr.span g.newExpr := by
  refine .here fun start => .bind fun _ => .bind fun b => ?_
  extract_lets whole
  have hwhole : ∀ r, Spans start Expr.span (whole r) := by
    refine fun _ => .bind fun callee => ?_
    extract_lets rest
    have hrest : ∀ r, Spans start Expr.span (rest r) := by
      refine fun _ => .bind fun b => .bind fun _ => .bind fun b => ?_
      extract_lets last
      have hlast : ∀ args, Spans start Expr.span (last args) :=
        fun args => .ite (.bind fun _ => .done fun _ => rfl) (.done fun _ => rfl)
      refine .ite (.bind fun r => ?_) (.bind hlast)
      obtain ⟨args, comma⟩ := r
      exact .bind fun _ => .bind hlast
    split
    · exact .bind hrest
    · exact hrest ()
  exact .ite (.bind fun b => .ite (.done fun _ => rfl) (.bind hwhole)) (hwhole ())

theorem whole_superExpr : Whole Expr.span superExpr := by
  refine fun c => .bind (whole_takeWord c) fun t c₁ ht => ?_
  refine .look (looks_sees _) fun _ _ => .look (looks_sees _) fun _ _ => .look (looks_sees _) fun _ _ => ?_
  split
  · exact .pure ht
  · exact .note fun _ hnoted hn => absurd hn hnoted

theorem whole_primary : Whole Expr.span g.primary := by
  have hfunction : Whole Expr.span (do return Expr.function (← g.function .expression)) :=
    .map (whole_function _) fun _ => rfl
  have hname : Whole Expr.span (do return Expr.name (← identifierReference)) :=
    .map whole_identifierReference fun _ => rfl
  refine .look looks_token fun t => ?_
  split
  · exact .map whole_stringLiteral fun _ => rfl
  · exact whole_numberLiteral
  · exact .map (whole_template false) fun _ => rfl
  · refine .ite whole_parenthesized (.ite whole_array (.ite whole_object (.ite whole_regex ?_)))
    exact .ite whole_classExpr (.of_fails fails_unexpected)
  · split
    · exact .map whole_takeWord fun _ => rfl
    · exact .map whole_takeWord fun _ => rfl
    · exact .map whole_takeWord fun _ => rfl
    · exact .map whole_takeWord fun _ => rfl
    · exact hfunction
    · exact whole_classExpr
    · exact whole_newExpr
    · exact whole_superExpr
    · exact whole_importExpr
    · exact .look looks_seesFunction fun b => .ite hfunction hname
    · exact hname
  · exact .of_fails fails_unexpected

/-! ### Members and calls -/

theorem closes_memberRest {c : Cursor} {start : Nat} {e : Expr} (he : Closes start Expr.span e c)
    (chained : Bool) : Ensures (Closes start (·.1.span)) (g.memberRest start e chained) c := by
  have hstart : Closes start (fun s : Expr × Bool => s.1.span) (e, chained) c := he
  refine .repeating (fun state c hstate => ?_) hstart
  obtain ⟨e, chained⟩ := state
  refine .look looks_token fun t _ => ?_
  extract_lets field keyed tagged
  have hfield : ∀ optional, Spans start Expr.span (field optional) :=
    fun optional => .bind fun t => .ite (.bind fun _ => .done fun _ => rfl)
      (.bind fun _ => .done fun _ => rfl)
  have hkeyed : ∀ optional, Spans start Expr.span (keyed optional) :=
    fun optional => .bind fun _ => .bind fun _ => .bind fun _ => .done fun _ => rfl
  refine .ite (.skip fun _ c₁ => .bind (hfield false c₁) fun e _ he => .pure he) ?_
  refine .look looks_allowed fun a _ => .ite (.bind (hkeyed false c) fun e _ he => .pure he) ?_
  refine .ite (.look looks_peek fun next _ => .ite (.pure hstate) (.skip fun _ c₁ => ?_)) ?_
  · refine .ite (.bind (hkeyed true c₁) fun e _ he => .pure he) (.ite ?_ ?_)
    · exact .skip fun _ c₂ => .skip fun quasi c₃ => .spanFrom (.pure fun _ => rfl)
    · exact .bind (hfield true c₁) fun e _ he => .pure he
  · have htagged : ∀ r c, Ensures (Sum.elim (Closes start (Expr.span ·.1))
        (Closes start (Expr.span ·.1))) (tagged r) c :=
      fun _ c => .skip fun quasi c₁ => .spanFrom (.pure fun _ => rfl)
    exact .ite (.ite (.skip htagged) (htagged () c)) (.pure hstate)

theorem closes_callRest {c : Cursor} {start : Nat} {e : Expr} (he : Closes start Expr.span e c)
    (chained : Bool) : Ensures (Closes start (·.1.span)) (g.callRest start e chained) c := by
  have hstart : Closes start (fun s : Expr × Bool => s.1.span) (e, chained) c := he
  refine .repeating (fun state c hstate => ?_) hstart
  obtain ⟨e, chained⟩ := state
  refine .bind (closes_memberRest hstate chained) fun r c₁ hr => ?_
  obtain ⟨e, chained⟩ := r
  refine .bind (eat_eq_false _ _) fun optional c₂ hoptional => ?_
  refine .bind (eat_eq_false _ _) fun b c₃ hb => ?_
  dsimp only
  split
  · refine .skip fun r c₄ => ?_
    obtain ⟨args, comma⟩ := r
    exact .skip fun _ c₅ => .spanFrom (.pure fun _ => rfl)
  split
  · exact .of_fails fails_unexpected
  · obtain rfl := hb (by simpa using ‹¬ b = true›)
    obtain rfl := hoptional (by simpa using ‹¬ optional = true›)
    exact .pure hr

theorem whole_leftHandRule : Whole Expr.span g.leftHandRule := by
  refine fun c => .here (.bind (whole_primary c) fun e c₁ he => ?_)
  refine .bind (closes_callRest he false) fun r c₂ hr => ?_
  obtain ⟨e, chained⟩ := r
  dsimp only
  split
  · exact Spans.done (fun _ => rfl) c₂
  · exact .pure hr

/-! ### Operators -/

theorem span_markPure (e : Expr) : (markPure e).span = e.span := by
  fun_cases markPure e <;> rfl

theorem whole_updateExpr : Whole Expr.span g.updateExpr := by
  refine fun c => .here (.look looks_token fun t _ => ?_)
  extract_lets op?
  split
  · refine .skip fun _ _ => .skip fun e _ => .skip fun target _ => .spanFrom (.pure fun _ => rfl)
  · refine .bind (whole_leftHandRule c) fun e c₁ he => .look looks_token fun t _ => ?_
    split
    · refine .ite (.pure he) (.skip fun target _ => .skip fun _ _ => .spanFrom (.pure fun _ => rfl))
    · exact .pure he

theorem whole_unaryRule : Whole Expr.span g.unaryRule := by
  refine fun c => .here (.look looks_token fun t _ => ?_)
  refine .look looks_seesAwait fun b _ => ?_
  extract_lets rest await
  have hrest : ∀ e c₁, Closes c.place Expr.span e c₁ →
      Ensures (Closes c.place Expr.span) (rest e) c₁ := by
    refine fun e c₁ he => .pure ?_
    by_cases h : t.pure = true
    · rw [if_pos h]
      exact fun hn => (span_markPure e).trans (he hn)
    · rwa [if_neg h]
  have hawait : ∀ r, Spans c.place Expr.span (await r) :=
    fun _ c₁ => .skip fun arg c₂ => .spanFrom (hrest _ _ fun _ => rfl)
  refine .ite (.skip fun _ c₁ => .look looks_allowed fun a _ => ?_) ?_
  · exact .ite (hawait () c₁) (.skip fun r c₂ => hawait r c₂)
  · split
    · exact .skip fun _ _ => .skip fun arg _ => .spanFrom (hrest _ _ fun _ => rfl)
    · exact .bind (whole_updateExpr c) hrest

theorem closes_binaryRest {c : Cursor} {start : Nat} {e : Expr} (he : Closes start Expr.span e c)
    (opened : Bool) (min : Nat) : Ensures (Closes start Expr.span) (g.binaryRest start e opened min) c := by
  have hstart : Closes start (fun s : Expr × Bool => s.1.span) (e, opened) c := he
  refine .repeating (fun state c hstate => ?_) hstart
  obtain ⟨e, opened⟩ := state
  refine .look looks_token fun t _ => .ite (.skip fun _ _ => .skip fun _ _ => ?_) ?_
  · exact .note fun _ hnoted hn => absurd hn hnoted
  refine .look looks_allowed fun a _ => ?_
  split
  · exact .pure hstate
  · rename_i op hop
    refine .ite (.pure hstate) (.skip fun _ _ => .skip fun right c₁ => ?_)
    have hrest : ∀ c, Ensures (Sum.elim (Closes start fun s : Expr × Bool => s.1.span)
        (Closes start Expr.span)) (do
          return Sum.inl (Expr.binary (← spanFrom start) op e right, false)) c :=
      fun c => .spanFrom (.pure fun _ => rfl)
    extract_lets last whole
    have hwhole : ∀ r c, Ensures (Sum.elim (Closes start fun s : Expr × Bool => s.1.span)
        (Closes start Expr.span)) (whole r) c := by
      intro _ c
      dsimp only [whole]
      split
      · exact .ite (hrest c) (.skip fun _ c => hrest c)
      · exact .ite (hrest c) (.skip fun _ c => hrest c)
      · exact hrest c
    exact .ite (.skip hwhole) (hwhole () c₁)

theorem whole_binaryRule (min : Nat) : Whole Expr.span (g.binaryRule min) := by
  refine fun c => .here (.look looks_token fun t _ => ?_)
  refine .look looks_allowed fun a _ => .ite (.skip fun id _ => .skip fun _ _ => ?_) ?_
  · refine .skip fun right c₁ => ?_
    split
    · exact .skip fun _ _ => .spanFrom (closes_binaryRest (fun _ => rfl) _ _)
    · exact .spanFrom (closes_binaryRest (fun _ => rfl) _ _)
  · exact .bind (whole_unaryRule c) fun e c₁ he => closes_binaryRest he _ _

/-! ### Assignments -/

theorem whole_yieldExpr : Whole Expr.span g.yieldExpr := by
  refine .here fun start => .bind fun a => ?_
  extract_lets whole
  have hwhole : ∀ r, Spans start Expr.span (whole r) := by
    refine fun _ => .bind fun _ => .bind fun t => .ite (.done fun _ => rfl) ?_
    refine .bind fun delegate => .ite (.done fun _ => rfl) ?_
    exact .bind fun arg => .done fun _ => rfl
  exact .ite (hwhole ()) (.bind hwhole)

theorem whole_parenthesizedArrow : Whole Expr.span g.parenthesizedArrow := by
  refine .here fun start => .bind fun isAsync => .bind fun r => ?_
  obtain ⟨paramsSpan, items, rest⟩ := r
  refine .bind fun _ => .bind fun r => ?_
  obtain ⟨body, concise⟩ := r
  exact .done fun _ => rfl

theorem spans_simpleArrow (start : Nat) (isAsync : Bool) (id : Ident) :
    Spans start Expr.span (g.simpleArrow start isAsync id) := by
  refine .bind fun _ => .bind fun r => ?_
  obtain ⟨body, concise⟩ := r
  exact .done fun _ => rfl

theorem closes_conditionalRest {c : Cursor} {start : Nat} {e : Expr}
    (he : Closes start Expr.span e c) :
    Ensures (Closes start Expr.span) (g.conditionalRest start e) c := by
  refine .bind (eat_eq_false _ _) fun b c₁ hb => ?_
  cases b with
  | false =>
      obtain rfl := hb rfl
      exact .pure he
  | true => exact .skip fun _ _ => .skip fun _ _ => .skip fun _ _ => .spanFrom (.pure fun _ => rfl)

theorem span_markPureFunction (e : Expr) : (markPureFunction e).span = e.span := by
  fun_cases markPureFunction e <;> rfl

/-- Where no arrow function is found, the parser stays where it is. -/
def Arrow (start : Nat) (e : Option Expr) (c : Cursor) : Prop :=
  e.elim (c.place = start) (Closes start Expr.span · c)

theorem closes_tryArrow (c : Cursor) : Ensures (Arrow c.place) g.tryArrow c := by
  intro e c' hok
  unfold Grammar.tryArrow at hok
  split at hok
  · cases hok
    exact rfl
  · obtain ⟨e', c₁, harrow, hok⟩ := bind_eq_ok.1 hok
    cases hok
    exact whole_parenthesizedArrow c harrow
  · dsimp only at hok
    split at hok
    · cases hok
      exact rfl
    · split at hok
      · rename_i e' c₁ harrow
        cases hok
        exact whole_parenthesizedArrow c harrow
      · cases hok
        exact rfl

theorem closes_tryAsyncArrow (c : Cursor) : Ensures (Arrow c.place) g.tryAsyncArrow c := by
  have hnone : Ensures (Arrow c.place) (pure none : Parse (Option Expr)) c := .pure rfl
  refine .look looks_get fun c₀ _ => .ite (.ite ?_ hnone) hnone
  refine .here (.skip fun _ _ => .skip fun e c₁ => ?_)
  dsimp only
  split
  · exact .bind (spans_simpleArrow _ _ _ c₁) fun e c₂ he => .pure he
  · exact .of_fails fails_unexpected.left

/-- Expressions without commas have spans from their first token to their last. -/
theorem whole_assignmentRule : Whole Expr.span g.assignmentRule := by
  refine fun c => .look looks_token fun first _ => ?_
  extract_lets plain
  have hplain : Ensures (Closes c.place Expr.span) plain c := by
    refine .look looks_seesYield fun b _ => .ite (whole_yieldExpr c) ?_
    refine .bind (closes_tryArrow c) fun arrow c₁ harrow => ?_
    rcases arrow with _ | e
    case some => exact .pure harrow
    have hplace : c₁.place = c.place := harrow
    refine .bind (closes_tryAsyncArrow c₁) fun arrow c₂ harrow => ?_
    rw [hplace] at harrow
    rcases arrow with _ | e
    case some => exact .pure harrow
    have hplace : c₂.place = c.place := harrow
    -- no arrow function was found, so nothing has been taken yet
    refine .here ?_
    rw [hplace]
    refine .bind (hplace ▸ whole_binaryRule _ c₂) fun left c₃ hleft => ?_
    refine .look looks_token fun t _ => ?_
    extract_lets whole
    have hwhole : ∀ r, Ensures (Closes c.place Expr.span) (whole r) c₃ := by
      intro _
      dsimp only [whole]
      split
      · rename_i op hop
        have hassign : ∀ target c₄, Ensures (Closes c.place Expr.span) (do
            let _ ← Parse.take
            let value ← g.assignment
            return Expr.assign (← spanFrom c.place) op target value) c₄ :=
          fun target c₄ => .skip fun _ _ => .skip fun value _ => .spanFrom (.pure fun _ => rfl)
        exact .ite (.skip hassign) (.skip hassign)
      · exact closes_conditionalRest hleft
    split
    · exact .ite (spans_simpleArrow _ _ _ c₃) (hwhole ())
    · exact hwhole ()
  refine .bind hplain fun e c₁ he => ?_
  extract_lets e'
  have he' : e'.span = e.span := by
    by_cases h : first.noSideEffects = true
    · simpa only [e', if_pos h] using span_markPureFunction e
    · simp only [e', if_neg h]
  refine .pure fun hn => ?_
  rw [← he hn, ← he']
  by_cases h : first.pure = true
  · rw [if_pos h, span_markPure]
  · rw [if_neg h]

end ModuleBundler.Grammar
