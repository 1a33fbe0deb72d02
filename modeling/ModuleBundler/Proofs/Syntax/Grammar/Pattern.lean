/-
ModuleBundler/Proofs/Syntax/Grammar/Pattern.lean

Patterns come from the tokens that are taken for them.  A target takes no token of its own:
it has the sites of the expression that is read again.
-/
import ModuleBundler.Proofs.Syntax.Grammar.Basic
import ModuleBundler.Syntax.Grammar.Pattern

namespace ModuleBundler.Grammar

open Parse

variable {g : Grammar} {X : List Span}

attribute [local simp] List.count_cons

/-! ### Binding patterns -/

theorem Traced.patternWithDefault (hg : g.Traced) : Traces [] g.patternWithDefault := by
  refine .look looks_here fun start => .bind hg.pattern fun p => ?_
  refine .skip (traces_eat _) fun b => .ite (fun _ => ?_) fun _ => .pure fun s => by simp
  refine .bind hg.assignment.withIn fun value => .look (looks_spanFrom _) fun span => .pure ?_
  exact Node.among_iff.2 fun s => by simp; omega

theorem Traced.patternField (hg : g.Traced) : Traces [] g.patternField := by
  refine .look looks_here fun start => .look looks_token fun t => .look looks_peek fun next => ?_
  refine .ite (fun _ => ?_) fun _ => ?_
  · refine .bind traces_bindingIdentifier fun id => ?_
    refine .skip (traces_eat _) fun b => .ite (fun _ => ?_) fun _ => ?_
    · refine .bind hg.assignment.withIn fun value => .look (looks_spanFrom _) fun span => .pure ?_
      exact Node.among_iff.2 fun s => by simp [Node.shorthandParts]
    · refine .look (looks_spanFrom _) fun span => .pure ?_
      exact Node.among_iff.2 fun s => by simp [Node.shorthandParts]
  · refine .bind hg.key fun k => .skip (traces_expect _) fun _ => ?_
    refine .bind hg.patternWithDefault fun value => .look (looks_spanFrom _) fun span => .pure ?_
    exact Node.among_iff.2 fun s => by simp; omega

theorem Traced.restPattern (hg : g.Traced) : Traces [] g.restPattern := by
  refine .bind hg.pattern fun p => .skip (traces_eat _) fun b => .ite (fun _ => ?_) fun _ => ?_
  · refine .skip hg.assignment.withIn fun _ => .skip (traces_note _) fun _ => ?_
    exact .pure fun s => by simp
  · exact .pure fun s => by simp

theorem Traced.entries {α : Type} [Sited α] (hg : g.Traced) {item : Parse α}
    (hitem : Traces [] item) (close : String) (notLast : Diagnostic) :
    Traces [] (g.entries close item notLast) := by
  unfold Grammar.entries
  extract_lets one
  have hone : ∀ items rest, Traces (sitesOf items ++ sitesOf rest) (one items rest) := by
    intro items rest
    refine .skip (traces_eat _) fun b => .ite (fun _ => ?_) fun _ => ?_
    · refine .bind hg.restPattern fun p => .look (looks_sees _) fun b => ?_
      refine .whenTrue (traces_note _) fun _ => .pure fun s => by simp; omega
    · exact .bind hitem fun a => .pure fun s => by simp
  refine .look looks_token fun t => .ite (fun _ => .pure (Among.nil _)) fun _ => ?_
  refine .bind (hone [] none) fun first => .mono (.repeating (fun taken => ?_) first) ?_
  · obtain ⟨items, rest, atRest⟩ := taken
    refine .look looks_token fun t => .ite (fun _ => .pure fun s => by simp) fun _ => ?_
    refine .require (fails_throw _) ?_
    refine .skip traces_take fun _ => .look (looks_sees _) fun b => .ite (fun _ => ?_) fun _ => ?_
    · exact .whenTrue (traces_note _) fun _ => .pure fun s => by simp
    · refine .bindOf (Z := []) (fun s => by simp) (hone items rest) fun next => .pure fun s => ?_
      simp
  · exact fun s => by simp

theorem Traced.objectPattern (hg : g.Traced) : Traces [] g.objectPattern := by
  refine .look looks_here fun start => .skip (traces_expect _) fun _ => ?_
  refine .bind (hg.entries hg.patternField _ _) fun fr => ?_
  obtain ⟨fields, rest⟩ := fr
  refine .skip (traces_expect _) fun _ => ?_
  extract_lets jp
  have hjp : ∀ r, Traces (sitesOf (fields, rest) ++ []) (jp r) := by
    refine fun _ => .look (looks_spanFrom _) fun span => .pure ?_
    exact Node.among_iff.2 fun s => by simp
  split
  · exact hjp ()
  · exact hjp ()
  · exact .skip (traces_note _) hjp

/-- An element of an array pattern; nothing stands where a comma comes at once. -/
theorem Traced.patternElement (hg : g.Traced) : Traces [] g.patternElement := by
  refine .look (looks_sees _) fun b => .ite (fun _ => .pure (Among.nil _)) fun _ => ?_
  exact .bind hg.patternWithDefault fun p => .pure fun s => by simp

theorem Traced.arrayPattern (hg : g.Traced) : Traces [] g.arrayPattern := by
  refine .look looks_here fun start => .skip (traces_expect _) fun _ => ?_
  refine .bind (hg.entries hg.patternElement _ _) fun ir => ?_
  obtain ⟨items, rest⟩ := ir
  refine .skip (traces_expect _) fun _ => .look (looks_spanFrom _) fun span => .pure ?_
  exact Node.among_iff.2 fun s => by simp [List.flatMap_assoc]

theorem Traced.patternRule (hg : g.Traced) : Traces [] g.patternRule := by
  refine .look looks_token fun t => .ite (fun _ => hg.objectPattern) fun _ => ?_
  refine .ite (fun _ => hg.arrayPattern) fun _ => ?_
  exact .bind traces_bindingIdentifier fun id => .pure fun s => by simp

/-! ### Targets -/

theorem traces_simpleTarget (e : Expr) : Traces (sitesOf e) (simpleTarget e) := by
  fun_induction simpleTarget e with
  | case1 id => exact .pure fun s => by simp
  | case2 | case3 | case4 => exact .pure (Node.among_iff.2 fun s => by simp)
  | case5 | case6 => exact .of_fails (fails_fail _)
  | case7 span e h1 h2 ih =>
      refine ih.mono fun s => ?_
      have := Node.count_sites (.expr (.paren span e)) s
      simp_all
  | case8 => exact .of_fails (fails_fail _)

theorem Traced.targetWithDefault (hg : g.Traced) (e : Expr) :
    Traces (sitesOf e) (g.targetWithDefault e) := by
  unfold Grammar.targetWithDefault
  split
  · rename_i span target value
    refine .pure (Node.among_iff.2 fun s => ?_)
    have := Node.count_sites (.expr (.assign span .store target value)) s
    simp_all
  · exact hg.target _

theorem Traced.restTarget (hg : g.Traced) (place : Nat) (e : Expr) :
    Traces (sitesOf e) (g.restTarget place e) := by
  exact .look looks_get fun c => .whenTrue (traces_note _) fun _ => hg.target e

theorem Traced.arrayTargets (hg : g.Traced) (place : Nat) (items : List Element) :
    Traces (sitesOf items) (g.arrayTargets place items) := by
  fun_induction Grammar.arrayTargets g place items with
  | case1 => exact .pure (Among.nil _)
  | case2 span e =>
      refine .bindOf (Z := []) (fun s => ?_) (hg.restTarget place e) fun p => .pure fun s => by simp
      have := Node.count_sites (.element (.spread span e)) s
      simp_all
  | case3 => exact .of_fails (fails_fail _)
  | case4 span more ih =>
      refine .bindOf (Z := []) (fun s => ?_) ih fun r => ?_
      · simp
      · obtain ⟨items, rest⟩ := r
        exact .pure fun s => by simp
  | case5 e more ih =>
      refine .bindOf (Z := sitesOf more) (fun s => ?_) (hg.targetWithDefault e) fun p => ?_
      · have := Node.count_sites (.element (.item e)) s
        simp_all
      · refine .bindOf (Z := sitesOf p) (fun s => ?_) ih fun r => ?_
        · simp
          omega
        · obtain ⟨items, rest⟩ := r
          exact .pure fun s => by simp; omega

theorem Traced.objectTargets (hg : g.Traced) (place : Nat) (members : List Property) :
    Traces (sitesOf members) (g.objectTargets place members) := by
  fun_induction Grammar.objectTargets g place members with
  | case1 => exact .pure (Among.nil _)
  | case2 span e =>
      refine .bindOf (Z := []) (fun s => ?_) (hg.restTarget place e) fun p => .pure fun s => by simp
      have := Node.count_sites (.property (.spread span e)) s
      simp_all
  | case3 => exact .of_fails (fails_fail _)
  | case4 => exact .of_fails (fails_fail _)
  | case5 span k value more ih =>
      refine .skip (.modify fun _ => ⟨rfl, rfl, rfl, rfl, rfl, id⟩) fun _ => ?_
      -- a name alone is the key and the target, and one token
      extract_lets jp
      have hjp : ∀ p, Traces (sitesOf (Field.mk span k p true) ++ sitesOf more) (jp p) := by
        intro p
        refine .bindOf (Z := sitesOf (Field.mk span k p true)) (fun s => ?_) ih fun r => ?_
        · simp
          omega
        · obtain ⟨fields, rest⟩ := r
          exact .pure fun s => by simp; omega
      split
      · rename_i span' target default
        refine .known ((hjp _).mono fun s => ?_)
        have := Node.count_sites (.property (.keyed span k (.assign span' .store target default) true)) s
        have := Node.count_sites (.expr (.assign span' .store target default)) s
        have := Node.count_sites (.field false ⟨span, k, .withDefault span' target default, true⟩) s
        have := Node.count_sites (.pattern false (.withDefault span' target default)) s
        cases target <;> simp_all [Node.shorthandParts, Node.unlessName]
        omega
      · rename_i id
        refine .known ((hjp _).mono fun s => ?_)
        have := Node.count_sites (.property (.keyed span k (.name id) true)) s
        have := Node.count_sites (.field false ⟨span, k, .name id, true⟩) s
        simp_all [Node.shorthandParts, Node.unlessName]
      · exact .of_fails (fails_fail _).left
  | case6 span k value more ih =>
      refine .bindOf (Z := (Node.key k).sites ++ sitesOf more) (fun s => ?_)
        (hg.targetWithDefault value) fun p => ?_
      · have := Node.count_sites (.property (.keyed span k value false)) s
        simp_all
        omega
      · refine .bindOf (Z := (Node.key k).sites ++ sitesOf p) (fun s => ?_) ih fun r => ?_
        · simp
          omega
        · obtain ⟨fields, rest⟩ := r
          refine .pure fun s => ?_
          have := Node.count_sites (.field false ⟨span, k, p, false⟩) s
          simp_all
          omega

theorem Traced.toTarget (hg : g.Traced) (e : Expr) : Traces (sitesOf e) (g.toTarget e) := by
  unfold Grammar.toTarget
  split
  · rename_i span items
    refine .bindOf (Z := []) (fun s => ?_) (hg.arrayTargets span.start items) fun r => ?_
    · have := Node.count_sites (.expr (.array span items)) s
      simp_all
    · obtain ⟨items, rest⟩ := r
      exact .pure (Node.among_iff.2 fun s => by simp [List.flatMap_assoc])
  · rename_i span members
    refine .bindOf (Z := []) (fun s => ?_) (hg.objectTargets span.start members) fun r => ?_
    · have := Node.count_sites (.expr (.object span members)) s
      simp_all
    · obtain ⟨fields, rest⟩ := r
      exact .pure (Node.among_iff.2 fun s => by simp)
  · exact traces_simpleTarget _

end ModuleBundler.Grammar
