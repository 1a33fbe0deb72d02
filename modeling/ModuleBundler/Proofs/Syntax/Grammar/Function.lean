/-
ModuleBundler/Proofs/Syntax/Grammar/Function.lean

Functions, arrow functions and methods come from the tokens that are taken for them.  An
arrow function that was tried and given up has taken none.
-/
import ModuleBundler.Proofs.Syntax.Grammar.Pattern
import ModuleBundler.Syntax.Grammar.Function

namespace ModuleBundler.Grammar

open Parse

variable {g : Grammar} {X : List Span}

/-! ### Bodies -/

theorem Traced.statements (hg : g.Traced) (closed : Bool) : Traces [] (g.statements closed) := by
  refine .repeating (fun state => ?_) ([], [], true)
  obtain ⟨directives, stmts, heading⟩ := state
  refine .look looks_token fun t => .ite (fun _ => .pure fun s => by simp) fun _ => ?_
  refine .bind (hg.stmt _) fun stmt => ?_
  split
  · refine .ite (fun _ => .pure fun s => by simp) fun _ => ?_
    exact .pure fun s => by simp
  · exact .pure fun s => by simp

theorem Traced.functionBody (hg : g.Traced) (isAsync isGenerator inOperator : Bool) :
    Traces [] (g.functionBody isAsync isGenerator inOperator) := by
  refine .look looks_here fun start => .skip (traces_expect _) fun _ => ?_
  refine .bind ((hg.statements true).within _) fun r => ?_
  obtain ⟨directives, stmts⟩ := r
  refine .skip (traces_expect _) fun _ => .look (looks_spanFrom _) fun span => .pure ?_
  exact Node.among_iff.2 fun s => by simp

theorem Traced.parameter (hg : g.Traced) : Traces [] g.parameter := by
  refine .look looks_here fun start => .bind hg.decorators fun marks => ?_
  refine .skip (traces_modifiers _) fun words => ?_
  refine .skip (.forIn (fun _ _ => ?_) _ _) fun _ => .bind hg.patternWithDefault fun p => ?_
  · exact .skip (traces_note _) fun _ => .pure (Among.nil _)
  · refine .ite (fun _ => .pure fun s => by simp) fun _ => ?_
    refine .look (looks_spanFrom _) fun span => .pure ?_
    exact Node.among_iff.2 fun s => by simp; omega

theorem Traced.params (hg : g.Traced) (isAsync isGenerator : Bool) :
    Traces [] (g.params isAsync isGenerator) := by
  refine .look looks_here fun start => .skip (traces_expect _) fun _ => ?_
  refine .bind ((hg.entries hg.parameter _ _).within _) fun r => ?_
  obtain ⟨items, rest⟩ := r
  refine .skip (traces_expect _) fun _ => .look (looks_spanFrom _) fun span => .pure ?_
  exact fun s => by simp

theorem Traced.functionRest (hg : g.Traced) (start : Nat) (id : Option Ident)
    (isAsync isGenerator : Bool) :
    Traces (sitesOf id) (g.functionRest start id isAsync isGenerator) := by
  refine .bind (hg.params isAsync isGenerator) fun r => ?_
  obtain ⟨paramsSpan, items, rest⟩ := r
  refine .look (looks_sees _) fun b => .require fails_unexpected ?_
  refine .bind (hg.functionBody _ _ _) fun body => .look (looks_spanFrom _) fun span => .pure ?_
  intro s
  rw [Node.count_sitesOf_func]
  simp
  omega

theorem Traced.function (hg : g.Traced) (role : FunctionRole) : Traces [] (g.function role) := by
  refine .look looks_here fun start => .skip (traces_eatWord _) fun isAsync => ?_
  refine .skip (traces_expectWord _) fun _ => .skip (traces_eat _) fun isGenerator => ?_
  extract_lets named whole
  have hnamed : Traces [] named := by
    refine .look looks_token fun t => .ite (fun _ => ?_) fun _ => .pure (Among.nil _)
    exact .bind traces_bindingIdentifier fun id => .pure fun s => by simp
  have hwhole : ∀ id, Traces (sitesOf id ++ []) (whole id) := by
    intro id
    rw [List.append_nil]
    have hrest := hg.functionRest start id isAsync isGenerator
    refine .ite (fun _ => .look looks_token fun t => ?_) fun _ => hrest
    refine .ite (fun _ => .skip (traces_note _) fun _ => hrest) fun _ => ?_
    exact .ite (fun _ => .of_fails (fails_missing _).left) fun _ => hrest
  exact .ite (fun _ => .bind (hnamed.within _) hwhole) fun _ => .bind hnamed hwhole

theorem looks_seesFunction : Looks seesFunction := by
  refine looks_token.bind fun t => .ite (.pure _) (.ite ?_ (.pure _))
  exact looks_peek.bind fun next => .pure _

/-! ### Arrow functions -/

theorem traces_arrow : Traces X arrow := by
  refine .look looks_token fun t => .whenTrue (traces_note _) fun _ => ?_
  exact traces_expect _

theorem Traced.arrowBody (hg : g.Traced) (isAsync : Bool) : Traces [] (g.arrowBody isAsync) := by
  refine .look (looks_sees _) fun b => .ite (fun _ => ?_) fun _ => ?_
  · refine .look looks_allowed fun a => .bind (hg.functionBody _ _ _) fun body => .pure ?_
    exact fun s => by simp
  · refine .look looks_here fun start => .bind (hg.assignment.within _) fun e => ?_
    refine .look (looks_spanFrom _) fun span => .pure fun s => ?_
    have := Node.count_sites (.body ⟨span, [], [.expr span e]⟩) s
    simp_all

/-- An arrow function from the arrow on comes from its parameters and its body. -/
theorem Traced.arrowRest (hg : g.Traced) (start : Nat) (isAsync : Bool) (place : Span)
    (items : List Pattern) (rest : Option Pattern) :
    Traces (sitesOf items ++ sitesOf rest) (do
      arrow
      let (body, concise) ← g.arrowBody isAsync
      return Expr.arrow ⟨← spanFrom start, none, isAsync, false, place, items, rest, body, false⟩
        concise) := by
  refine .skip traces_arrow fun _ => .bind (hg.arrowBody isAsync) fun r => ?_
  obtain ⟨body, concise⟩ := r
  refine .look (looks_spanFrom _) fun span => .pure (Node.among_iff.2 fun s => ?_)
  have := Node.count_sitesOf_func
    ⟨span, none, isAsync, false, place, items, rest, body, false⟩ s
  simp at *
  omega

theorem Traced.parenthesizedArrow (hg : g.Traced) : Traces [] g.parenthesizedArrow := by
  refine .look looks_here fun start => .skip (traces_eatWord _) fun isAsync => ?_
  refine .bind (hg.params isAsync false) fun r => ?_
  obtain ⟨paramsSpan, items, rest⟩ := r
  exact (hg.arrowRest start isAsync paramsSpan items rest).mono fun s => by simp

theorem Traced.simpleArrow (hg : g.Traced) (start : Nat) (isAsync : Bool) (id : Ident) :
    Traces (sitesOf id) (g.simpleArrow start isAsync id) :=
  (hg.arrowRest start isAsync id.span [.name id] none).mono fun s => by simp

theorem Traced.tryArrow (hg : g.Traced) : Traces [] g.tryArrow := by
  intro c hc a c' hok
  unfold Grammar.tryArrow at hok
  -- where no arrow function is found, nothing is taken
  have hsame : ∀ {c₁ : Cursor}, c.Kept c₁ → ∃ ts, c.Reaches ts c₁ ∧
      (c₁.noted = [] → Among (sitesOf (none : Option Expr) ++ c₁.waiting)
        ([] ++ ts ++ c.waiting)) := by
    intro c₁ hkept
    refine ⟨[], hkept.reaches hc, fun _ s => ?_⟩
    rw [hkept.waiting]
    simp
  split at hok
  · cases hok
    exact hsame (.refl c)
  · exact (Traces.map hg.parenthesizedArrow fun e s => by simp) hc hok
  · simp only at hok
    split at hok
    · cases hok
      exact hsame (.refl c)
    · split at hok
      · rename_i e c₁ he
        cases hok
        obtain ⟨ts, hreach, hsites⟩ := hg.parenthesizedArrow hc he
        refine ⟨ts, hreach, fun hn s => ?_⟩
        have := hsites hn s
        simpa using this
      · cases hok
        exact hsame ⟨rfl, rfl, rfl, rfl, rfl, id⟩

theorem Traced.tryAsyncArrow (hg : g.Traced) : Traces [] g.tryAsyncArrow := by
  refine .look looks_get fun c => ?_
  have hnone : Traces [] (pure none : Parse (Option Expr)) := .pure (Among.nil _)
  refine .ite (fun _ => .ite (fun _ => ?_) fun _ => hnone) fun _ => hnone
  refine .look looks_here fun start => .skip traces_takeWord fun _ => ?_
  refine .bind (hg.binary _) fun e => ?_
  split
  · rename_i id
    refine .bindOf (Z := []) (fun s => by simp) (hg.simpleArrow start true id) fun arrow => ?_
    exact .pure fun s => by simp
  · exact .of_fails fails_unexpected.left

/-! ### Methods -/

theorem Traced.method (hg : g.Traced) (isAsync isGenerator : Bool) :
    Traces [] (g.method isAsync isGenerator) :=
  .look looks_here fun start => hg.functionRest start none isAsync isGenerator

end ModuleBundler.Grammar
