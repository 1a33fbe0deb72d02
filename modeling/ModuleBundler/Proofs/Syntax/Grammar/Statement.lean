/-
ModuleBundler/Proofs/Syntax/Grammar/Statement.lean

Statements and declarations come from the tokens that are taken for them; what is noted
on the way does not matter.
-/
import ModuleBundler.Proofs.Syntax.Grammar.Expression
import ModuleBundler.Syntax.Grammar.Statement

namespace ModuleBundler.Grammar

open Parse

variable {g : Grammar} {X : List Span}

attribute [local simp] List.count_cons

/-! ### Variables -/

theorem traces_checkInitializer (kind : Declare) (d : Declarator) :
    Traces X (checkInitializer kind d) := by
  refine .ite (fun _ => .pure (Among.nil _)) fun _ => ?_
  split
  · exact traces_note _
  · exact traces_note _
  · exact traces_note _
  · exact .pure (Among.nil _)
  · exact traces_note _

theorem Traced.declarator (hg : g.Traced) (kind : Declare) (inHead : Bool) :
    Traces [] (g.declarator kind inHead) := by
  refine .look looks_here fun start => .bind hg.pattern fun target => .skip (traces_eat _) fun b => ?_
  extract_lets rest
  have hrest : ∀ value, Traces (sitesOf value ++ (sitesOf target ++ [])) (rest value) := by
    refine fun value => .look (looks_spanFrom _) fun span => ?_
    have hlast : Traces (sitesOf value ++ (sitesOf target ++ []))
        (pure ⟨span, target, value⟩ : Parse Declarator) :=
      .pure (Node.among_iff.2 fun s => by simp; omega)
    refine .whenFalse (traces_checkInitializer _ _) fun _ => ?_
    split
    · exact hlast
    · exact .skip (traces_note _) fun _ => hlast
    · exact .skip (traces_note _) fun _ => hlast
    · exact hlast
  refine .ite (fun _ => ?_) fun _ => ?_
  · refine .bind (.map hg.assignment fun e s => by simp) hrest
  · exact .known (hrest none)

theorem Traced.declarators (hg : g.Traced) (kind : Declare) (inHead : Bool) :
    Traces [] (g.declarators kind inHead) := by
  refine .bind (hg.declarator kind inHead) fun first => ?_
  refine .mono (.repeating (fun taken => ?_) [first]) fun s => by simp
  refine .skip (traces_eat _) fun b => .ite (fun _ => ?_) fun _ => .pure fun s => by simp
  exact .bind (hg.declarator kind inHead) fun d => .pure fun s => by simp

theorem looks_declareWord : Looks declareWord? := by
  refine looks_token.bind fun t => looks_peek.bind fun next => ?_
  dsimp only
  split
  · exact .pure _
  · exact .pure _
  · exact .pure _
  · exact .pure _
  · exact .ite (looks_get.bind fun c => .pure _) (.pure _)
  · exact .pure _

theorem traces_takeDeclareWord (kind : Declare) : Traces X (takeDeclareWord kind) := by
  refine .skip traces_takeWord fun _ => .ite (fun _ => ?_) fun _ => .pure (Among.nil _)
  exact .skip traces_takeWord fun _ => .pure (Among.nil _)

theorem Traced.variableStatement (hg : g.Traced) (kind : Declare) (position : Position) :
    Traces [] (g.variableStatement kind position) := by
  refine .look looks_here fun start => .skip (traces_takeDeclareWord kind) fun _ => ?_
  extract_lets restricted
  refine .whenTrue (traces_note _) fun _ => .bind (hg.declarators kind false) fun items => ?_
  refine .skip traces_semicolon fun _ => .look (looks_spanFrom _) fun span => .pure ?_
  exact Node.among_iff.2 fun s => by simp

theorem looks_letDeclares (position : Position) : Looks (letDeclares position) :=
  looks_peek.bind fun _ => .ite (.pure _) (.ite (.pure _) (.ite (.pure _) (.pure _)))

/-! ### Simple statements -/

theorem Traced.expressionOrLabel (hg : g.Traced) : Traces [] g.expressionOrLabel := by
  refine .look looks_here fun start => .bind hg.expr fun e => ?_
  have hrest : Traces (sitesOf e ++ []) (do
      semicolon
      return Stmt.expr (← spanFrom start) e) :=
    .skip traces_semicolon fun _ => .look (looks_spanFrom _) fun span => .pure fun s => by simp
  split
  · refine .skip (traces_eat _) fun b => .ite (fun _ => ?_) fun _ => hrest
    refine .bind (hg.stmt _) fun body => .look (looks_spanFrom _) fun span => .pure ?_
    exact Node.among_iff.2 fun s => by simp
  · exact hrest

/-- Statements up to a token that ends them. -/
theorem traces_until {α : Type} [Sited α] {item : Parse α} (hitem : Traces [] item)
    (ends : Token → Bool) :
    Traces [] (repeating [] fun taken => do
      let t ← token
      if ends t then return Sum.inr taken.reverse
      return Sum.inl ((← item) :: taken)) := by
  refine .repeating (fun taken => ?_) []
  refine .look looks_token fun t => .ite (fun _ => .pure fun s => by simp) fun _ => ?_
  exact .bind hitem fun a => .pure fun s => by simp

theorem Traced.blockStmts (hg : g.Traced) : Traces [] g.blockStmts := by
  refine .look looks_here fun start => .skip (traces_expect _) fun _ => ?_
  refine .bind ((traces_until (hg.stmt _) fun t => t.is "\x7d" || t.isEnd).within _) fun stmts => ?_
  refine .skip (traces_expect _) fun _ => .look (looks_spanFrom _) fun span => .pure fun s => ?_
  simp

theorem Traced.condition (hg : g.Traced) : Traces [] g.condition := by
  refine .skip (traces_expect _) fun _ => .bind hg.expr.withIn fun e => ?_
  exact .skip (traces_expect _) fun _ => .pure fun s => by simp

theorem Traced.ifStatement (hg : g.Traced) : Traces [] g.ifStatement := by
  refine .look looks_here fun start => .skip traces_takeWord fun _ => ?_
  refine .bind hg.condition fun test => .bind (hg.stmt _) fun yes => ?_
  refine .skip (traces_eatWord _) fun b => .join (.map (hg.stmt _) fun s t => by simp)
    (.pure (Among.nil _)) fun no => ?_
  refine .look (looks_spanFrom _) fun span => .pure ?_
  exact Node.among_iff.2 fun s => by simp; omega

theorem Traced.doStatement (hg : g.Traced) : Traces [] g.doStatement := by
  refine .look looks_here fun start => .skip traces_takeWord fun _ => ?_
  refine .bind (hg.stmt _) fun body => .skip (traces_expectWord _) fun _ => ?_
  refine .bind hg.condition fun test => .skip (traces_eat _) fun _ => ?_
  refine .look (looks_spanFrom _) fun span => .pure ?_
  exact Node.among_iff.2 fun s => by simp; omega

theorem Traced.whileStatement (hg : g.Traced) : Traces [] g.whileStatement := by
  refine .look looks_here fun start => .skip traces_takeWord fun _ => ?_
  refine .bind hg.condition fun test => .bind (hg.stmt _) fun body => ?_
  refine .look (looks_spanFrom _) fun span => .pure ?_
  exact Node.among_iff.2 fun s => by simp; omega

/-! ### Loops with a head -/

theorem Traced.countingLoop (hg : g.Traced) (start : Nat) (head : Option ForHead) :
    Traces (sitesOf head) (g.countingLoop start head) := by
  have hexpr : Traces [] (some <$> withIn g.expr) := .map hg.expr.withIn fun e s => by simp
  refine .skip (traces_expect _) fun _ => ?_
  refine .look (looks_sees _) fun b => .look (looks_sees _) fun b' => ?_
  refine .join (.pure (Among.nil _)) hexpr fun test => .skip (traces_expect _) fun _ => ?_
  refine .look (looks_sees _) fun b => .join (.pure (Among.nil _)) hexpr fun step => ?_
  refine .skip (traces_expect _) fun _ => .bind (hg.stmt _) fun body => ?_
  refine .look (looks_spanFrom _) fun span => .pure ?_
  exact Node.among_iff.2 fun s => by simp; omega

theorem Traced.loopOver (hg : g.Traced) (start : Nat) (isAwait : Bool) (head : ForHead) :
    Traces (sitesOf head) (g.loopOver start isAwait head) := by
  refine .skip (traces_eatWord _) fun b => .ite (fun _ => ?_) fun _ => ?_
  · refine .bind hg.expr.withIn fun object => .skip (traces_expect _) fun _ => ?_
    refine .bind (hg.stmt _) fun body => .look (looks_spanFrom _) fun span => .pure ?_
    exact Node.among_iff.2 fun s => by simp; omega
  · refine .skip (traces_expectWord _) fun _ => .bind hg.assignment.withIn fun items => ?_
    refine .skip (traces_expect _) fun _ => .bind (hg.stmt _) fun body => ?_
    refine .look (looks_spanFrom _) fun span => .pure ?_
    exact Node.among_iff.2 fun s => by simp; omega

theorem looks_loopWord : Looks loopWord? := by
  refine looks_token.bind fun t => looks_peek.bind fun next => ?_
  dsimp only
  split
  · exact .pure _
  · exact .pure _
  · exact .pure _
  · exact .pure _
  · exact .pure _
  · exact .pure _

theorem traces_checkHead (isAwait bareAsync : Bool) (head : Option ForHead) :
    Traces X (checkHead isAwait bareAsync head) := by
  refine .look (looks_seesWord _) fun b => .whenTrue (traces_note _) fun _ => ?_
  beta_reduce
  extract_lets keys
  have hkeys : ∀ r, Traces X (keys r) := by
    refine fun r => .look (looks_seesWord _) fun b => .ite (fun _ => ?_) fun _ => .pure (Among.nil _)
    split
    · exact traces_note _
    · exact traces_note _
    · exact .pure (Among.nil _)
  refine .ite (fun _ => ?_) fun _ => hkeys ()
  split
  · exact .skip (traces_note _) hkeys
  · exact hkeys ()

theorem Traced.forStatement (hg : g.Traced) : Traces [] g.forStatement := by
  refine .look looks_here fun start => .skip traces_takeWord fun _ => ?_
  refine .look (looks_seesWord _) fun b => ?_
  extract_lets overItems whole begin
  -- what follows the head tells a loop over items from one that counts
  have hover : Looks overItems :=
    (looks_seesWord _).bind fun b => (looks_seesWord _).bind fun b' => .pure _
  have hwhole : ∀ isAwait, Traces [] (whole isAwait) := by
    refine fun isAwait => .skip (traces_expect _) fun _ => .look (looks_sees _) fun b => ?_
    refine .ite (fun _ => .skip (traces_checkHead _ _ _) fun _ => hg.countingLoop _ _) fun _ => ?_
    refine .look (looks_sees _) fun b => .refuse fails_unexpected ?_
    refine .look looks_here fun headStart => .look looks_loopWord fun kind => ?_
    split
    · rename_i kind
      refine .skip (traces_takeDeclareWord kind) fun _ => ?_
      refine .bind ((hg.declarators kind true).within _) fun items => ?_
      refine .look (looks_spanFrom _) fun span => ?_
      have hhead : Among (sitesOf (ForHead.declare span kind items)) (sitesOf items ++ []) :=
        Node.among_iff.2 fun s => by simp
      refine .look hover fun b => .ite (fun _ => ?_) fun _ => ?_
      · exact .skip (traces_checkHead _ _ _) fun _ => (hg.loopOver _ _ _).mono hhead
      · refine .skip (.forIn (fun d _ => ?_) _ _) fun _ => .skip (traces_checkHead _ _ _) fun _ => ?_
        · exact .skip (traces_checkInitializer _ _) fun _ => .pure (Among.nil _)
        · exact (hg.countingLoop _ _).mono (by simpa using hhead)
    · refine .look looks_token fun t => .bind (hg.expr.within _) fun e => ?_
      refine .look hover fun b => .ite (fun _ => ?_) fun _ => ?_
      · refine .bindOf (Z := []) (.refl _) (hg.toTarget e) fun p => ?_
        refine .skip (traces_checkHead _ _ _) fun _ => (hg.loopOver _ _ _).mono ?_
        exact Node.among_iff.2 fun s => by simp
      · refine .skip (traces_checkHead _ _ _) fun _ => (hg.countingLoop _ _).mono ?_
        have hhead : Among (sitesOf (ForHead.expr e)) (sitesOf e ++ []) :=
          Node.among_iff.2 fun s => by simp
        simpa using hhead
  refine .ite (fun _ => ?_) fun _ => .known (hwhole false)
  refine .look looks_allowed fun a => .whenFalse (traces_note _) fun _ => ?_
  exact .skip traces_takeWord fun _ => .known (hwhole true)

/-! ### `switch` and `try` -/

theorem Traced.caseTest (hg : g.Traced) : Traces [] g.caseTest := by
  refine .skip (traces_eatWord _) fun b => .ite (fun _ => .pure (Among.nil _)) fun _ => ?_
  refine .skip (traces_eatWord _) fun b => .ite (fun _ => ?_) fun _ => .of_fails fails_unexpected
  exact .bind hg.expr.withIn fun e => .pure fun s => by simp

theorem Traced.caseClause (hg : g.Traced) : Traces [] g.caseClause := by
  have hstmts := traces_until (hg.stmt .listed) fun t =>
    t.is "\x7d" || t.isEnd || t.isWord "case" || t.isWord "default"
  refine .look looks_here fun start => .bind hg.caseTest fun test => ?_
  refine .skip (traces_expect _) fun _ => .bind hstmts fun stmts => ?_
  refine .look (looks_spanFrom _) fun span => .pure ?_
  exact Node.among_iff.2 fun s => by simp; omega

theorem Traced.switchStatement (hg : g.Traced) : Traces [] g.switchStatement := by
  refine .look looks_here fun start => .skip traces_takeWord fun _ => ?_
  refine .bind hg.condition fun value => .skip (traces_expect _) fun _ => ?_
  refine .bind ((traces_until hg.caseClause fun t => t.is "\x7d" || t.isEnd).within _) fun cases => ?_
  refine .skip (traces_expect _) fun _ => .look (looks_spanFrom _) fun span => .pure ?_
  exact Node.among_iff.2 fun s => by simp; omega

theorem Traced.catchClause (hg : g.Traced) : Traces [] g.catchClause := by
  refine .look looks_here fun start => .skip traces_takeWord fun _ => .skip (traces_eat _) fun b => ?_
  have hrest : ∀ param, Traces (sitesOf param ++ []) (do
      let body ← g.blockStmts
      return (⟨← spanFrom start, param, body.1, body.2⟩ : Catch)) := by
    refine fun param => .bind hg.blockStmts fun body => .look (looks_spanFrom _) fun span => .pure ?_
    obtain ⟨bodySpan, stmts⟩ := body
    exact Node.among_iff.2 fun s => by simp; omega
  refine .ite (fun _ => ?_) fun _ => .known (hrest none)
  refine .bind hg.pattern fun p => .skip (traces_expect _) fun _ => .known ?_
  exact (hrest (some p)).mono fun s => by simp

theorem Traced.tryStatement (hg : g.Traced) : Traces [] g.tryStatement := by
  refine .look looks_here fun start => .skip traces_takeWord fun _ => ?_
  refine .bind hg.blockStmts fun r => ?_
  obtain ⟨bodySpan, body⟩ := r
  refine .look (looks_seesWord _) fun b => ?_
  refine .join (.map hg.catchClause fun c s => by simp) (.pure (Among.nil _)) fun handler => ?_
  refine .skip (traces_eatWord _) fun b => ?_
  refine .join (.map hg.blockStmts fun r s => by simp) (.pure (Among.nil _)) fun final => ?_
  refine .whenTrue (traces_note _) fun _ => .look (looks_spanFrom _) fun span => .pure ?_
  refine Node.among_iff.2 fun s => ?_
  obtain _ | ⟨span, stmts⟩ := final <;> simp <;> omega

/-! ### Jumps -/

theorem Traced.returnStatement (hg : g.Traced) : Traces [] g.returnStatement := by
  refine .look looks_here fun start => .look looks_allowed fun a => ?_
  refine .whenFalse (traces_note _) fun _ => .skip traces_takeWord fun _ => ?_
  refine .look looks_canEndStatement fun b => ?_
  refine .join (.pure (Among.nil _)) (.map hg.expr.withIn fun e s => by simp) fun value => ?_
  refine .skip traces_semicolon fun _ => .look (looks_spanFrom _) fun span => .pure ?_
  exact Node.among_iff.2 fun s => by simp

theorem Traced.throwStatement (hg : g.Traced) : Traces [] g.throwStatement := by
  refine .look looks_here fun start => .skip traces_takeWord fun _ => .look looks_token fun t => ?_
  refine .whenTrue (traces_note _) fun _ => .bind hg.expr.withIn fun value => ?_
  refine .skip traces_semicolon fun _ => .look (looks_spanFrom _) fun span => .pure ?_
  exact Node.among_iff.2 fun s => by simp

theorem traces_jumpStatement {make : Span → Option Ident → Stmt}
    (hmake : ∀ span label, Among (sitesOf (make span label)) (sitesOf label)) :
    Traces [] (jumpStatement make) := by
  refine .look looks_here fun start => .skip traces_takeWord fun _ => .bind traces_label fun label => ?_
  rw [List.append_nil]
  refine .skip traces_semicolon fun _ => .look (looks_spanFrom _) fun span => .pure ?_
  exact hmake span label

/-! ### Declarations -/

theorem Traced.functionStatement (hg : g.Traced) (position : Position) :
    Traces [] (g.functionStatement position) := by
  refine .bind (hg.function _) fun f => ?_
  have hrest : Traces (sitesOf f ++ []) (pure (Stmt.funcDecl f) : Parse Stmt) :=
    .pure (Node.among_iff.2 fun s => by simp)
  refine .ite (fun _ => ?_) fun _ => hrest
  refine .ite (fun _ => .skip (traces_note _) fun _ => hrest) fun _ => ?_
  exact .whenTrue (traces_note _) fun _ => hrest

theorem Traced.classStatement (hg : g.Traced) (position : Position) (start : Nat)
    (marks : List Expr) : Traces (sitesOf marks) (g.classStatement position start marks) := by
  unfold Grammar.classStatement
  refine .whenTrue (traces_note _) fun _ => ?_
  refine .bindOf (Z := []) (fun s => by simp) (hg.classRest start marks) fun c => .pure ?_
  exact Node.among_iff.2 fun s => by simp

theorem Traced.withStatement (hg : g.Traced) : Traces [] g.withStatement := by
  refine .look looks_here fun start => .skip traces_takeWord fun _ => ?_
  refine .bind hg.condition fun object => .bind (hg.stmt _) fun body => ?_
  refine .look (looks_spanFrom _) fun span => .pure ?_
  exact Node.among_iff.2 fun s => by simp; omega

end ModuleBundler.Grammar
