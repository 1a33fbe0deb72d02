/-
ModuleBundler/Proofs/Syntax/Grammar/Basic.lean

Names, keys and literals, and what may stand before them: what these rules return comes
from the tokens that they take.

`Grammar.Traced` says this of the parsers one level deeper.  It is what every rule of the
grammar is given, and what the rules together give for the next level.
-/
import ModuleBundler.Proofs.Syntax.Trace
import ModuleBundler.Syntax.Grammar.Modifier

namespace ModuleBundler

open Parse

/-- What the parsers return comes from the tokens that they take. -/
structure Grammar.Traced (g : Grammar) : Prop where
  expr : Traces [] g.expr
  assignment : Traces [] g.assignment
  binary : ∀ min, Traces [] (g.binary min)
  unary : Traces [] g.unary
  leftHand : Traces [] g.leftHand
  callee : Traces [] g.callee
  pattern : Traces [] g.pattern
  target : ∀ e, Traces (sitesOf e) (g.target e)
  stmt : ∀ position, Traces [] (g.stmt position)
  type : Traces [] g.type

theorem Grammar.traced_exhausted : Grammar.exhausted.Traced where
  expr := .of_fails fails_unexpected
  assignment := .of_fails fails_unexpected
  binary _ := .of_fails fails_unexpected
  unary := .of_fails fails_unexpected
  leftHand := .of_fails fails_unexpected
  callee := .of_fails fails_unexpected
  pattern := .of_fails fails_unexpected
  target _ := .of_fails fails_unexpected
  stmt _ := .of_fails fails_unexpected
  type := .of_fails fails_unexpected

variable {X : List Span}

namespace Parse

/-! ### Names -/

theorem isSolid_of_isName {t : Token} (h : t.isName = true) : t.kind.isSolid = true := by
  rw [eq_of_beq h]
  rfl

/-- Only names can name variables. -/
theorem kind_of_isBinding {t : Token} (h : t.isBinding = true) : t.kind = .name :=
  eq_of_beq (Bool.and_eq_true_iff.1 h).1

theorem isSolid_of_isBinding {t : Token} (h : t.isBinding = true) : t.kind.isSolid = true := by
  rw [kind_of_isBinding h]
  rfl

theorem isSolid_of_is {t : Token} {text : String} (h : t.is text = true) :
    t.kind.isSolid = true := by
  rw [eq_of_beq (Bool.and_eq_true_iff.1 h).1]
  rfl

theorem tracesAt_takeIdent {c : Cursor} (hc : c.Wf) (h : c.token.kind.isSolid = true) :
    TracesAt [] takeIdent c := .takeName hc h (.pure fun s => by simp)

/-- A token is taken as a name that is not used. -/
theorem traces_takeIdent_bind {α : Type} [Sited α] {f : Ident → Parse α}
    (hf : ∀ id, Traces X (f id)) : Traces X (takeIdent >>= f) := by
  rw [takeIdent, bind_assoc]
  exact .take fun t => .known (hf _)

theorem traces_identifierName : Traces [] identifierName := by
  refine .lookToken fun c hc => .ite (fun h => ?_) fun _ => .of_fails fails_unexpected
  exact tracesAt_takeIdent hc (isSolid_of_isName h)

theorem traces_checkOperatorName (t : Token) : Traces X (checkOperatorName t) := by
  refine .look looks_allowed fun a => .whenTrue (traces_note _) fun _ => ?_
  exact .ite (fun _ => traces_note _) fun _ => .pure (Among.nil _)

theorem token_checkOperatorName {t : Token} {c c' : Cursor} {r : PUnit}
    (h : checkOperatorName t c = .ok r c') : c'.token = c.token := by
  obtain ⟨a, c₁, ha, h⟩ := bind_eq_ok.1 h
  cases looks_allowed ha
  split at h
  · obtain ⟨_, c₂, hnote, h⟩ := bind_eq_ok.1 h
    cases hnote
    split at h <;> · cases h; rfl
  · split at h <;> · cases h; rfl

/-- A name is checked before it is taken. -/
theorem tracesAt_checkedIdent {c : Cursor} (hc : c.Wf) (h : c.token.isBinding = true) :
    TracesAt [] (checkOperatorName c.token >>= fun _ => takeIdent) c := by
  refine .skip (traces_checkOperatorName _ hc) fun _ c₁ hcheck hc₁ => ?_
  refine tracesAt_takeIdent hc₁ ?_
  rw [token_checkOperatorName hcheck]
  exact isSolid_of_isBinding h

theorem traces_bindingIdentifier : Traces [] bindingIdentifier := by
  refine .lookToken fun c hc => .ite (fun _ => .of_fails (fails_fail _).left) fun _ => ?_
  exact .ite (fun h => tracesAt_checkedIdent hc h) fun _ => .of_fails fails_unexpected.left

theorem traces_identifierReference : Traces [] identifierReference := by
  refine .lookToken fun c hc => .ite (fun h => ?_) fun _ => .of_fails fails_unexpected.left
  exact tracesAt_checkedIdent hc h

theorem traces_label : Traces [] label? := by
  refine .look looks_canEndStatement fun b => .ite (fun _ => .pure (Among.nil _)) fun _ => ?_
  refine .lookToken fun c hc => .ite (fun h => ?_) fun _ => .of_fails fails_unexpected.left
  refine (tracesAt_takeIdent hc (isSolid_of_isBinding h)).bindOf (Z := []) (Among.refl _) ?_
  exact fun id _ _ hc₁ => Traces.pure (fun s => by simp) hc₁

theorem traces_privateIdentifier : Traces [] privateIdentifier := by
  refine .lookToken fun c hc => .ite (fun h => ?_) fun _ => .of_fails fails_unexpected
  refine tracesAt_takeIdent hc ?_
  rw [eq_of_beq h]
  rfl

/-! ### Literals -/

theorem traces_stringLiteral : Traces X stringLiteral := by
  refine .look looks_token fun t => .require fails_unexpected ?_
  exact .skip traces_take fun t => .pure (Among.nil _)

theorem traces_numberLiteral : Traces X numberLiteral := by
  refine .skip traces_take fun t => .ite (fun _ => ?_) fun _ => ?_
  · exact .pure (Node.among_iff.2 fun s => by simp)
  · exact .pure (Node.among_iff.2 fun s => by simp)

/-- The piece of a template begins where the brace stands. -/
theorem traces_continueTemplate : Traces X continueTemplate := by
  rintro c hc a c' hok
  have hreach : c.Reaches [] c' ∧ c'.waiting = c.waiting := by
    cases hok
    by_cases h : c.token.is "\x7d" = true
    · have hkind := Lexeme.isSolid_templatePiece false '\x7d' c.rest
      have hlength := congrArg List.length (Lexeme.whole_templatePiece false '\x7d' c.rest)
      have hplace := hc.place_lt (isSolid_of_is h)
      have hstop := hc.stop_le
      simp only [Scan.whole, List.length_append, List.length_cons] at hlength
      simp only [h, if_true]
      refine ⟨.again hc rfl rfl ⟨rfl, Nat.le_refl _⟩ (LexemeKind.ne_name_of_isSolid hkind)
        (fun hsolid => Bool.noConfusion (hkind.symm.trans hsolid)) ?_ rfl id, rfl⟩
      simp only [Cursor.horizon, Cursor.place] at *
      omega
    · simp only [h]
      exact ⟨.refl hc, rfl⟩
  refine ⟨[], hreach.1, fun _ s => ?_⟩
  rw [hreach.2]
  simp

end Parse

/-! ### Keys -/

namespace Grammar

variable {g : Grammar}

theorem Traced.key (hg : g.Traced) : Traces [] g.key := by
  refine .look looks_token fun t => .ite (fun _ => ?_) fun _ => .ite (fun _ => ?_) fun _ =>
    .ite (fun _ => ?_) fun _ => ?_
  · refine .skip traces_stringLiteral fun v => .pure ?_
    exact Node.among_iff.2 fun s => by simp
  · refine .skip traces_numberLiteral fun e => .pure ?_
    exact Node.among_iff.2 fun s => by simp
  · refine .skip traces_take fun _ => .bind hg.assignment.withIn fun e => ?_
    refine .skip (traces_expect _) fun _ => .pure ?_
    exact Node.among_iff.2 fun s => by simp
  · exact .bind traces_identifierName fun id => .pure fun s => by simp

/-! ### Decorators -/

theorem Traced.decorator (hg : g.Traced) : Traces [] g.decorator := by
  refine .skip (traces_expect _) fun _ => .bind (hg.leftHand.within _) fun e => ?_
  exact .whenFalse (traces_note _) fun _ => .pure fun s => by simp

theorem Traced.decorators (hg : g.Traced) : Traces [] g.decorators := by
  refine .repeating (fun taken => ?_) []
  refine .look (looks_sees _) fun b => .ite (fun _ => ?_) fun _ => ?_
  · exact .bind hg.decorator fun e => .pure fun s => by simp
  · exact .pure fun s => by simp

theorem traces_misplaced (marks : List Expr) : Traces X (misplaced marks) := by
  refine .skip (.forIn (fun _ _ => ?_) _ _) fun _ => .pure (Among.nil _)
  exact .skip (traces_note _) fun _ => .pure (Among.nil _)

/-! ### Words -/

theorem looks_seesModifier (inClass seenStatic : Bool) : Looks (seesModifier inClass seenStatic) := by
  refine .bind looks_token fun t => .bind looks_peek fun next => .ite (.pure _) ?_
  split <;> exact .pure _

theorem traces_checkModifier (before : List String) (word : String) :
    Traces X (checkModifier before word) := by
  refine .ite (fun _ => traces_note _) fun _ => .ite (fun _ => traces_note _) fun _ => ?_
  exact .pure (Among.nil _)

theorem traces_modifiers (inClass : Bool) : Traces [] (modifiers inClass) := by
  refine .repeating (fun taken => ?_) []
  refine .look (looks_seesModifier _ _) fun b => .ite (fun _ => ?_) fun _ => .pure fun s => by simp
  refine .skip traces_takeWord fun t => .skip (traces_checkModifier _ _) fun _ => ?_
  exact .pure fun s => by simp

theorem traces_accessorWord : Traces X accessorWord? := by
  refine .look looks_peek fun next => .ite (fun _ => .pure (Among.nil _)) fun _ => ?_
  refine .skip (traces_eatWord _) fun b => .ite (fun _ => .pure (Among.nil _)) fun _ => ?_
  refine .skip (traces_eatWord _) fun b => .ite (fun _ => .pure (Among.nil _)) fun _ => ?_
  exact .pure (Among.nil _)

end Grammar

end ModuleBundler
