/-
ModuleBundler/Proofs/Syntax/Grammar/Class.lean

Classes come from the tokens that are taken for them, and from the decorators that wait.
-/
import ModuleBundler.Proofs.Syntax.Grammar.Type
import ModuleBundler.Syntax.Grammar.Class

namespace ModuleBundler.Grammar

open Parse

instance : Sited Heritage := ⟨fun h => sitesOf h.parent ++ sitesOf h.interfaces⟩

theorem sitesOf_heritage (h : Heritage) :
    sitesOf h = sitesOf h.parent ++ sitesOf h.interfaces := rfl

variable {g : Grammar} {X : List Span}

/-! ### Names of members -/

theorem Traced.memberKey (hg : g.Traced) : Traces [] g.memberKey := by
  refine .look looks_token fun t => .ite (fun _ => ?_) fun _ => hg.key
  refine .bind traces_privateIdentifier fun id => .whenTrue (traces_note _) fun _ => .pure ?_
  exact Node.among_iff.2 fun s => by simp

theorem traces_checkStatic (isStatic : Bool) (k : Key) : Traces X (checkStatic isStatic k) :=
  .ite (fun _ => traces_note _) fun _ => .pure (Among.nil _)

theorem looks_seesConstructor : Looks seesConstructor := by
  refine looks_token.bind fun t => .ite (.pure _) (looks_peek.bind fun next => .pure _)

/-! ### Members -/

theorem among_method (span : Span) (marks : List Expr) (traits : Traits) (kind : MethodKind)
    (k : Key) (f : Func) : Among (sitesOf (Member.method span marks traits kind k f))
      (sitesOf marks ++ (sitesOf k ++ sitesOf f)) := by
  exact Node.among_iff.2 fun s => by simp

theorem Traced.staticBlock (hg : g.Traced) (start : Nat) : Traces [] (g.staticBlock start) := by
  refine .skip traces_takeWord fun _ => .skip (traces_expect _) fun _ => ?_
  refine .bind ((hg.statements true).within _) fun r => ?_
  obtain ⟨directives, stmts⟩ := r
  refine .skip (traces_expect _) fun _ => .look (looks_spanFrom _) fun span => .pure ?_
  have hheads := sitesOf_map_eq_nil (f := fun d : Directive =>
    Stmt.expr d.span (.string ⟨d.raw, false, d.span⟩)) (fun d => by simp) directives
  generalize directives.map _ = heads at hheads ⊢
  exact Node.among_iff.2 fun s => by simp [hheads]

theorem Traced.fieldRest (hg : g.Traced) (start : Nat) (marks : List Expr) (traits : Traits)
    (accessor : Bool) (k : Key) :
    Traces (sitesOf marks ++ sitesOf k) (g.fieldRest start marks traits accessor k) := by
  refine .whenTrue (traces_note _) fun _ => .skip (traces_checkStatic _ _) fun _ => ?_
  refine .skip (traces_eat _) fun b => .join (.map (hg.expr.within _) fun e s => by simp)
    (.pure (Among.nil _)) fun value => ?_
  refine .look looks_token fun t => .look looks_canEndStatement fun b => ?_
  refine .require (fails_throw _) (.skip (traces_eat _) fun _ => ?_)
  refine .look (looks_spanFrom _) fun span => .pure ?_
  exact Node.among_iff.2 fun s => by simp; omega

theorem Traced.modifiedMember (hg : g.Traced) (start : Nat) (marks : List Expr)
    (words : List String) : Traces (sitesOf marks) (g.modifiedMember start marks words) := by
  -- accessors, constructors and methods end alike
  have hmethod : ∀ (k : Key) (traits : Traits) (kind : MethodKind) (isAsync isGenerator : Bool),
      Traces (sitesOf k ++ sitesOf marks) (do
        let f ← g.method isAsync isGenerator
        return Member.method (← spanFrom start) marks traits kind k f) := by
    intro k traits kind isAsync isGenerator
    refine .bind (hg.method _ _) fun f => .look (looks_spanFrom _) fun span => .pure ?_
    exact (among_method _ _ _ _ _ _).trans fun s => by simp; omega
  refine .skip traces_accessorWord fun kind => ?_
  split
  · refine .bind hg.memberKey fun k => .whenTrue (traces_note _) fun _ => ?_
    refine .whenTrue (traces_note _) fun _ => .skip (traces_checkStatic _ _) fun _ => ?_
    exact hmethod _ _ _ _ _
  · refine .look looks_seesConstructor fun b => .ite (fun _ => ?_) fun _ => ?_
    · exact .whenTrue (traces_note _) fun _ => .bind hg.key fun k => hmethod _ _ _ _ _
    · refine .skip (traces_eat _) fun isGenerator => .bind hg.memberKey fun k => ?_
      refine .skip (traces_eat _) fun optional => .look (looks_sees _) fun b => ?_
      refine .look (looks_sees _) fun b' => .ite (fun _ => ?_) fun _ => ?_
      · refine .whenTrue (traces_note _) fun _ => .skip (traces_checkStatic _ _) fun _ => ?_
        exact hmethod _ _ _ _ _
      · refine .skip (traces_eat _) fun _ => .whenTrue (traces_note _) fun _ => ?_
        exact (hg.fieldRest _ _ _ _ _).mono fun s => by simp; omega

theorem Traced.classMember (hg : g.Traced) : Traces [] g.classMember := by
  refine .look looks_here fun start => .bind hg.decorators fun marks => ?_
  refine .skip (traces_modifiers _) fun words => .look (looks_seesWord _) fun b => ?_
  refine .look looks_peek fun next => .ite (fun _ => ?_) fun _ => ?_
  · exact .skip (traces_misplaced _) fun _ => (hg.staticBlock start).mono (Among.nil _)
  · exact (hg.modifiedMember _ _ _).mono fun s => by simp

theorem Traced.classBody (hg : g.Traced) : Traces [] g.classBody := by
  have hmembers : ∀ taken : List Member, Traces (sitesOf taken) (do
      let t ← token
      if t.is "\x7d" || t.isNothing then return Sum.inr taken.reverse
      if ← eat ";" then return Sum.inl taken
      return Sum.inl ((← g.classMember) :: taken)) := by
    intro taken
    refine .look looks_token fun t => .ite (fun _ => .pure fun s => by simp) fun _ => ?_
    refine .skip (traces_eat _) fun b => .ite (fun _ => .pure fun s => by simp) fun _ => ?_
    exact .bind hg.classMember fun m => .pure fun s => by simp
  refine .look looks_here fun start => .skip (traces_expect _) fun _ => ?_
  refine .bind ((Traces.repeating hmembers []).within _) fun members => ?_
  refine .skip (traces_expect _) fun _ => .look (looks_spanFrom _) fun span => .pure ?_
  exact fun s => by simp

/-! ### The head of a class -/

theorem traces_listed {α : Type} [Sited α] {item : Parse α} (hitem : Traces [] item) :
    Traces [] (listed item) := by
  refine .bind hitem fun first => .mono (.repeating (fun taken => ?_) [first]) ?_
  · refine .skip (traces_eat _) fun b => .ite (fun _ => ?_) fun _ => .pure fun s => by simp
    exact .bind hitem fun a => .pure fun s => by simp
  · exact fun s => by simp

theorem Traced.heritage (hg : g.Traced) : Traces [] g.heritage := by
  refine .repeating (fun h => ?_) ({} : Heritage)
  refine .look (looks_seesWord _) fun b => .ite (fun _ => ?_) fun _ => ?_
  · have hparents : Traces (sitesOf h) (do
        let _ ← takeWord
        let parents ← listed do return (← g.leftHand, ← g.typeArguments?)
        return (.inl { h with parent := parents.head? } : Heritage ⊕ Heritage)) := by
      refine .skip traces_takeWord fun _ => .bind (traces_listed ?_) fun parents => .pure fun s => ?_
      · exact .bind hg.leftHand fun e => .bind hg.typeArgumentsOption fun args =>
          .pure fun s => by simp; omega
      · -- of several parents only the first is kept
        have := among_head? parents s
        simp [sitesOf_heritage] at *
        omega
    refine .ite (fun _ => .skip (traces_note _) fun _ => hparents) fun _ => ?_
    exact .whenTrue (traces_note _) fun _ => hparents
  · refine .look (looks_seesWord _) fun b => .ite (fun _ => ?_) fun _ => .pure fun s => by simp
    refine .whenTrue (traces_note _) fun _ => .skip traces_takeWord fun _ => ?_
    refine .bind (traces_listed ?_) fun interfaces => .pure fun s => ?_
    · exact .bind traces_typeName fun t => .bind hg.typeArgumentsOption fun args =>
        .pure fun s => by simp; omega
    · simp [sitesOf_heritage]
      omega

/-- The decorators wait no longer. -/
theorem traces_takeMarks : Traces [] takeMarks := by
  rintro c hc a c' ⟨⟩
  have hwaiting : Cursor.waiting { c with marks := [] } = [] := rfl
  refine ⟨[], ?_, fun _ s => ?_⟩
  · exact {
      wf := {
        prevStop_le := hc.prevStop_le
        stop_eq := hc.stop_eq
        stop_le := hc.stop_le
        raw_ne := hc.raw_ne
        name_length := hc.name_length
        waiting_le := by simp [hwaiting] }
      clean := id
      place_le := Nat.le_refl _
      prevStop_le := Nat.le_refl _
      horizon_le := Nat.le_refl _
      ordered := List.Pairwise.nil
      within := by simp
      marks := fun _ => rfl }
  · rw [hwaiting]
    simp [Cursor.waiting]

theorem Traced.classRest (hg : g.Traced) (start : Nat) (marks : List Expr) :
    Traces (sitesOf marks) (g.classRest start marks) := by
  refine .skip (traces_expectWord _) fun _ => .bind traces_takeMarks fun waiting => ?_
  refine .look looks_token fun t => .look (looks_seesWord _) fun b => ?_
  refine .join (.map traces_bindingIdentifier fun id s => by simp) (.pure (Among.nil _)) fun id => ?_
  refine .bind hg.heritage fun h => .bind hg.classBody fun r => ?_
  obtain ⟨membersSpan, members⟩ := r
  refine .look (looks_spanFrom _) fun span => .pure fun s => ?_
  rw [Node.count_sitesOf_class]
  obtain ⟨_ | ⟨parent, args⟩, interfaces⟩ := h <;> simp [sitesOf_heritage] <;> omega

end ModuleBundler.Grammar
