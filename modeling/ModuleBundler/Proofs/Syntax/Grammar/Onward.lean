/-
ModuleBundler/Proofs/Syntax/Grammar/Onward.lean

Expressions, and what is exported, take at least one token.
-/
import ModuleBundler.Proofs.Syntax.Grammar.Module
import ModuleBundler.Proofs.Syntax.Onward

namespace ModuleBundler.Grammar

open Parse

variable {g : Grammar}

/-! ### Names and literals -/

theorem blind_checkOperatorName (t : Token) : Blind (checkOperatorName t) := by
  refine blind_allowed.bind fun a => .ite ((blind_note _).bind fun _ => ?_) ?_
  · exact blind_allowed.bind fun a => .ite (blind_note _) (.pure _)
  · exact blind_allowed.bind fun a => .ite (blind_note _) (.pure _)

theorem takes_identifierReference : Takes identifierReference := by
  refine .right blind_token fun t => .ite ?_ takes_unexpected.left
  exact .right (blind_checkOperatorName t) fun _ => takes_take.left

theorem takes_stringLiteral : Takes stringLiteral := by
  exact .right blind_token fun t => .ite takes_take.left takes_unexpected.left

theorem takes_numberLiteral : Takes numberLiteral := takes_take.left

/-! ### Functions and classes -/

theorem takes_decorator : Takes g.decorator := (takes_expect _).left

theorem blind_decorators : Blind g.decorators := by
  refine blind_repeating (fun taken => (blind_sees _).bind fun b => .ite ?_ (.pure _)) []
  exact takes_decorator.left.blind

theorem blind_misplaced (marks : List Expr) : Blind (misplaced marks) := by
  refine (Blind.forIn (fun _ _ => ?_) _ _).bind fun _ => .pure _
  exact (blind_note _).bind fun _ => .pure _

theorem takes_classRest (start : Nat) (marks : List Expr) : Takes (g.classRest start marks) :=
  (takes_expectWord _).left

theorem takes_function (role : FunctionRole) : Takes (g.function role) := by
  refine .right blind_here fun start => .right (blind_eatWord _) fun isAsync => ?_
  exact (takes_expectWord _).left

theorem blind_seesFunction : Blind seesFunction := by
  refine blind_token.bind fun t => .ite (.pure _) (.ite ?_ (.pure _))
  exact blind_peek.bind fun next => .pure _

theorem takes_classExpr : Takes g.classExpr :=
  .right blind_here fun _ => .right blind_decorators fun marks => (takes_classRest _ marks).left

/-! ### Expressions -/

theorem takes_parenthesized : Takes g.parenthesized :=
  .right blind_here fun _ => (takes_expect _).left

theorem takes_array : Takes g.array := .right blind_here fun _ => (takes_expect _).left

theorem takes_object : Takes g.object := .right blind_here fun _ => (takes_expect _).left

theorem takes_template (isTagged : Bool) : Takes (g.template isTagged) :=
  .right blind_here fun _ => takes_take.left.left

theorem takes_regex : Takes regex := by
  intro c stop
  by_cases h : (Lexeme.regex (c.token.raw ++ c.rest)).errors.isEmpty = true
  · left
    show (if (Lexeme.regex (c.token.raw ++ c.rest)).errors.isEmpty then _ else _ : Parse Expr) _ =
      (if (Lexeme.regex (c.token.raw ++ c.rest)).errors.isEmpty then _ else _ : Parse Expr) _
    rw [if_pos h, if_pos h]
    rfl
  · right
    refine ⟨_, _, congrFun (if_neg h) c, congrFun (if_neg h) _⟩

theorem takes_importExpr : Takes g.importExpr := .right blind_here fun _ => takes_takeWord.left

theorem takes_newExpr : Takes g.newExpr := .right blind_here fun _ => takes_takeWord.left

theorem takes_superExpr : Takes superExpr := takes_takeWord.left

theorem takes_primary : Takes g.primary := by
  have hfunction : Takes (do return Expr.function (← g.function .expression)) :=
    (takes_function _).left
  have hname : Takes (do return Expr.name (← identifierReference)) :=
    takes_identifierReference.left
  refine .right blind_token fun t => ?_
  split
  · exact takes_stringLiteral.left
  · exact takes_numberLiteral
  · exact (takes_template _).left
  · refine .ite takes_parenthesized (.ite takes_array (.ite takes_object (.ite takes_regex ?_)))
    exact .ite takes_classExpr takes_unexpected
  · split
    · exact takes_takeWord.left
    · exact takes_takeWord.left
    · exact takes_takeWord.left
    · exact takes_takeWord.left
    · exact hfunction
    · exact takes_classExpr
    · exact takes_newExpr
    · exact takes_superExpr
    · exact takes_importExpr
    · exact .right blind_seesFunction fun b => .ite hfunction hname
    · exact hname
  · exact takes_unexpected

theorem takes_leftHandRule : Takes g.leftHandRule :=
  .right blind_here fun _ => takes_primary.left

theorem takes_updateExpr : Takes g.updateExpr := by
  refine .right blind_here fun _ => .right blind_token fun t => ?_
  extract_lets op?
  split
  · exact takes_take.left
  · exact takes_leftHandRule.left

theorem blind_seesAwait : Blind seesAwait := by
  refine blind_token.bind fun t => .ite ?_ (.pure _)
  exact blind_allowed.bind fun a => .ite (.pure _) (blind_peek.bind fun _ => .pure _)

theorem takes_unaryRule : Takes g.unaryRule := by
  refine .right blind_here fun _ => .right blind_token fun t => .right blind_seesAwait fun b => ?_
  refine .ite takes_takeWord.left ?_
  split
  · exact takes_takeWord.left
  · exact takes_updateExpr.left

theorem takes_privateIdentifier : Takes privateIdentifier :=
  .right blind_token fun _ => .ite takes_take.left takes_unexpected

theorem takes_binaryRule (min : Nat) : Takes (g.binaryRule min) := by
  refine .right blind_here fun _ => .right blind_token fun t => .right blind_allowed fun a => ?_
  exact .ite takes_privateIdentifier.left takes_unaryRule.left

theorem blind_seesYield : Blind seesYield := by
  refine blind_token.bind fun t => .ite ?_ (.pure _)
  exact blind_allowed.bind fun a => .ite (.pure _) (blind_peek.bind fun _ => .pure _)

theorem takes_yieldExpr : Takes g.yieldExpr := by
  refine .right blind_here fun _ => .right blind_allowed fun a => .ite takes_takeWord.left ?_
  exact .right (blind_note _) fun _ => takes_takeWord.left

theorem takes_params (isAsync isGenerator : Bool) : Takes (g.params isAsync isGenerator) :=
  .right blind_here fun _ => (takes_expect _).left

theorem takes_parenthesizedArrow : Takes g.parenthesizedArrow :=
  .right blind_here fun _ => .right (blind_eatWord _) fun _ => (takes_params _ _).left

theorem guessArrow_endingAt (c : Cursor) (stop : Nat) :
    guessArrow (c.endingAt stop) = guessArrow c := by
  unfold guessArrow
  rcases hasync : c.token.isWord "async" with _ | _
  · rcases hopen : c.token.is "(" with _ | _
    · simp only [Cursor.token_endingAt, hasync, hopen, Bool.false_eq_true, if_false]
    · simp only [Cursor.token_endingAt, Cursor.advance_endingAt, hasync, hopen, if_true,
        Bool.false_eq_true, if_false]
      rfl
  · simp only [Cursor.token_endingAt, Cursor.advance_endingAt, hasync, if_true]
    rfl

theorem tries_tryArrow : Tries g.tryArrow := by
  intro c stop
  have harrow := takes_parenthesizedArrow (g := g) c stop
  unfold tryArrow
  rw [guessArrow_endingAt]
  rcases guessArrow c with _ | _ | _
  · exact Tries.of_takes takes_parenthesizedArrow.map c stop
  · exact Tries.none c stop
  · dsimp only
    -- the places where it failed before are those of the first tokens
    have hcontains : (c.endingAt stop).notArrow.contains (c.endingAt stop).token.span.start =
        c.notArrow.contains c.token.span.start := rfl
    rw [hcontains]
    by_cases h : c.notArrow.contains c.token.span.start = true
    · rw [if_pos h, if_pos h]
      exact Tries.none c stop
    · rw [if_neg h, if_neg h]
      rcases harrow with hsame | ⟨e, c', herror, hmoved⟩
      · rw [hsame]
        rcases g.parenthesizedArrow c with ⟨e, c'⟩ | ⟨e, c'⟩
        · exact .inl rfl
        · exact .inr ⟨fun _ _ h => (nomatch h), rfl⟩
      · rw [herror, hmoved]
        exact .inr ⟨fun _ _ h => (nomatch h), rfl⟩

theorem tries_tryAsyncArrow : Tries g.tryAsyncArrow := by
  refine .get (fun _ _ => rfl) fun c => .ite (.ite (.of_takes ?_) .none) .none
  exact .right blind_here fun _ => takes_takeWord.left

theorem takes_assignmentRule : Takes g.assignmentRule := by
  refine .right blind_token fun first => ?_
  extract_lets plain
  have hplain : Takes plain := by
    refine .right blind_seesYield fun b => .ite takes_yieldExpr ?_
    refine tries_tryArrow.takes (tries_tryAsyncArrow.takes ?_)
    exact .right blind_here fun start => (takes_binaryRule _).left
  exact hplain.left

/-! ### What is exported -/

theorem blind_checkSides (after : List Expr) : Blind (checkSides after) := by
  exact .get (fun _ _ => rfl) fun _ => .ite (.pure _) (blind_note _)

/-- Decorators take tokens, but there may be none. -/
theorem takes_decorable {α : Type} {make : Class → α} {p : Parse α} (hp : Takes p) :
    Takes (g.decorable make p) := by
  refine .right blind_here fun start => .right blind_decorators fun marks => ?_
  refine .right (blind_seesWord _) fun b => .ite ?_ (.right (blind_misplaced _) fun _ => hp)
  exact .right (blind_checkSides _) fun _ => (takes_classRest _ _).left

/-- A value that is exported takes a token, as expressions do. -/
theorem takes_exportValue (hg : Takes g.assignment) : Takes g.exportValue := by
  refine takes_decorable (.right blind_seesFunction fun b => ?_)
  exact .ite (takes_function _).left (hg.within _).left

theorem blind_declareWord : Blind declareWord? := by
  refine blind_token.bind fun t => blind_peek.bind fun next => ?_
  dsimp only
  split
  · exact .pure _
  · exact .pure _
  · exact .pure _
  · exact .pure _
  · exact .ite (.get (fun _ _ => rfl) fun _ => .pure _) (.pure _)
  · exact .pure _

theorem takes_enumeration : Takes g.enumeration :=
  .right blind_here fun _ => .right (blind_eatWord _) fun _ => takes_takeWord.left

theorem takes_variableStatement (kind : Declare) (position : Position) :
    Takes (g.variableStatement kind position) :=
  .right blind_here fun _ => takes_takeWord.left.left

theorem takes_exportedDeclaration : Takes g.exportedDeclaration := by
  refine takes_decorable (.right blind_seesFunction fun b => ?_)
  refine .ite (takes_function _).left (.right blind_token fun t => ?_)
  refine .ite (.right blind_here fun _ => takes_takeWord.left) ?_
  refine .ite (.right blind_here fun _ => takes_takeWord.left) (.right blind_peek fun next => ?_)
  refine .ite takes_enumeration (.ite (.right blind_here fun _ => takes_takeWord.left) ?_)
  refine .right blind_declareWord fun kind => ?_
  split
  · exact .ite takes_unexpected.left (takes_variableStatement _ _)
  · exact takes_unexpected

end ModuleBundler.Grammar
