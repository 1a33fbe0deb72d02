/-
ModuleBundler/Proofs/Syntax/Grammar/Declaration.lean

Where import and export declarations begin and end.  A declaration ends where the parser
stops; what is exported opens behind the word `export` (`opens_of_closes`), and a default
export closes with its value or behind it.  Both is said of a statement by `Stands`,
which has nothing to say of other statements (`Plain`).
-/
import ModuleBundler.Proofs.Syntax.Grammar.Extent
import ModuleBundler.Proofs.Syntax.Grammar.Onward
import ModuleBundler.Proofs.Syntax.Placed

namespace ModuleBundler.Grammar

open Parse

variable {g : Grammar}

/-! ### What is exported -/

/-- Where no decorator is found, the parser stays where it is. -/
theorem place_decorators (c : Cursor) :
    Ensures (fun marks c' => marks = [] → c'.place = c.place) g.decorators c := by
  have hstart : ([] : List Expr) = [] → c.place = c.place := fun _ => rfl
  refine .repeating (I := fun taken c' => taken = [] → c'.place = c.place)
    (fun taken c₁ htaken => ?_) hstart
  refine .look (looks_sees _) fun b _ => .ite (.skip fun e c₂ => ?_) (.pure fun h => ?_)
  · exact .pure fun h => nomatch h
  · exact htaken (List.reverse_eq_nil_iff.1 h)

/-- Decorators that are out of place are noted. -/
theorem misplaced_eq (marks : List Expr) (c : Cursor) :
    misplaced marks c = .ok ⟨⟩
      { c with noted := List.replicate marks.length .decoratorMisplaced ++ c.noted } := by
  unfold misplaced
  induction marks generalizing c with
  | nil => rfl
  | cons e marks ih =>
      rw [List.forIn_cons, bind_assoc]
      refine (ih { c with noted := .decoratorMisplaced :: c.noted }).trans ?_
      rw [List.length_cons, List.replicate_succ', List.append_assoc]
      rfl

/-- A class begins with the decorators before it; before anything else they are noted. -/
theorem Traced.closes_decorable {α : Type} [Sited α] (hg : g.Traced) (span : α → Span)
    {make : Class → α} (hmake : ∀ k, span (make k) = k.span) {p : Parse α} (hp : Whole span p)
    (htp : Traces [] p) {c : Cursor} (hc : c.Wf) :
    Ensures (Closes c.place span) (g.decorable make p) c := by
  intro a c' hok
  obtain ⟨start, c₀, hstart, hok⟩ := bind_eq_ok.1 hok
  cases hstart
  obtain ⟨marks, c₁, hmarks, hok⟩ := bind_eq_ok.1 hok
  obtain ⟨ts, hreach, -⟩ := hg.decorators hc hmarks
  obtain ⟨b, c₂, hsees, hok⟩ := bind_eq_ok.1 hok
  rw [looks_seesWord _ hsees] at hok
  split at hok
  · have hclass : Spans c.place span (do
        checkSides marks
        return make (← g.classRest c.place marks)) :=
      .bind fun _ c => .bind (spans_classRest _ _ c) fun k _ hk => .pure fun hn =>
        (hmake k).trans (hk hn)
    exact hclass _ hok
  · obtain ⟨_, c₃, hmisplaced, hok⟩ := bind_eq_ok.1 hok
    rw [misplaced_eq] at hmisplaced
    cases hmisplaced
    intro hn
    -- decorators out of place are noted, so there were none, and nothing has been taken
    have hkept : c₁.Kept { c₁ with
        noted := List.replicate marks.length .decoratorMisplaced ++ c₁.noted } :=
      ⟨rfl, rfl, rfl, rfl, rfl, fun h => (List.append_eq_nil_iff.1 h).2⟩
    obtain ⟨us, hreach', -⟩ := htp (hkept.wf hreach.wf) hok
    have hnone := (List.append_eq_nil_iff.1 (hreach'.clean hn)).1
    rw [List.replicate_eq_nil_iff, List.length_eq_zero_iff] at hnone
    have hplace : c₁.place = c.place := place_decorators c hmarks hnone
    exact (hp _ hok hn).trans (congrArg (Span.mk · c'.prevStop) hplace)

theorem Traced.closes_exportValue (hg : g.Traced) (hw : Whole Expr.span g.assignment) {c : Cursor}
    (hc : c.Wf) : Ensures (Closes c.place DefaultExport.span) g.exportValue c := by
  refine hg.closes_decorable DefaultExport.span (fun _ => rfl) ?_ hg.plainValue hc
  refine .look looks_seesFunction fun b => .ite (.map (whole_function _) fun _ => rfl) ?_
  exact .map (hw.within _) fun _ => rfl

theorem whole_typeAlias : Whole Stmt.span g.typeAlias :=
  .here fun _ => .bind fun _ => .bind fun _ => .bind fun _ => .bind fun _ => .bind fun _ =>
    .done fun _ => rfl

theorem whole_interface : Whole Stmt.span g.interface :=
  .here fun _ => .bind fun _ => .bind fun _ => .bind fun _ => .bind fun _ => .done fun _ => rfl

theorem whole_enumeration : Whole Stmt.span g.enumeration := by
  refine .here fun _ => .bind fun _ => .bind fun _ => .bind fun id => .bind fun _ => .bind fun r => ?_
  obtain ⟨members, comma⟩ := r
  exact .bind fun _ => .done fun _ => rfl

theorem whole_namespaceDeclaration : Whole Stmt.span g.namespaceDeclaration := by
  have hrest : ∀ start, Spans start Stmt.span (do
      let r ← g.blockStmts
      return Stmt.namespaceDecl (← spanFrom start) r.2) :=
    fun start => .bind fun r => .done fun _ => rfl
  refine .here fun start => .bind fun _ => .bind fun t => .ite (.bind fun _ => ?_) (.bind fun _ => ?_)
  · exact hrest start
  · exact hrest start

theorem whole_variableStatement (kind : Declare) (position : Position) :
    Whole Stmt.span (g.variableStatement kind position) := by
  refine .here fun start => .bind fun _ => ?_
  have hrest : Spans start Stmt.span (do
      let items ← g.declarators kind false
      semicolon
      return Stmt.declare (← spanFrom start) kind items) :=
    .bind fun items => .bind fun _ => .done fun _ => rfl
  exact .ite (.bind fun _ => hrest) hrest

theorem Traced.closes_exportedDeclaration (hg : g.Traced) {c : Cursor} (hc : c.Wf) :
    Ensures (Closes c.place Stmt.span) g.exportedDeclaration c := by
  refine hg.closes_decorable Stmt.span (fun _ => rfl) ?_ hg.plainDeclaration hc
  refine .look looks_seesFunction fun b => .ite (.map (whole_function _) fun _ => rfl) ?_
  refine .look looks_token fun t => .ite whole_typeAlias (.ite whole_interface ?_)
  refine .look looks_peek fun next => .ite whole_enumeration (.ite whole_namespaceDeclaration ?_)
  refine .look looks_declareWord fun kind => ?_
  split
  · exact .ite (.of_fails fails_unexpected.left) (whole_variableStatement _ _)
  · exact .of_fails fails_unexpected

/-! ### Fronts and ends of exports -/

/-- Words have been taken on the way from a cursor to another. -/
structure Passes (c c₁ : Cursor) : Prop where
  wf : c₁.Wf
  place_lt : c.place < c₁.place
  waiting : c₁.waiting = c.waiting
  clean : c₁.noted = [] → c.noted = []

theorem Passes.trans {c c₁ c₂ : Cursor} (h : Passes c c₁) (k : Passes c₁ c₂) : Passes c c₂ where
  wf := k.wf
  place_lt := Nat.lt_trans h.place_lt k.place_lt
  waiting := k.waiting.trans h.waiting
  clean := fun hn => h.clean (k.clean hn)

theorem passes_takeWord {c c' : Cursor} {t : Token} (hc : c.Wf) (hkind : c.token.kind = .name)
    (h : takeWord c = .ok t c') : Passes c c' := by
  -- a word with escapes is noted once it is taken
  have hkept : c.advance.Kept c' := by
    obtain ⟨t', c₁, htake, h⟩ := bind_eq_ok.1 h
    cases htake
    split at h
    · cases h
      exact ⟨rfl, rfl, rfl, rfl, rfl, fun hn => (nomatch hn)⟩
    · cases h
      exact .refl _
  have hplace : c.place < c.advance.place := by
    have := hc.place_lt (hkind ▸ rfl)
    have := hc.stop_le
    have := c.pos_le_place_advance
    omega
  exact {
    wf := hkept.wf hc.advance
    place_lt := by
      show c.place < c'.token.span.start
      rwa [hkept.token]
    waiting := hkept.waiting.trans c.waiting_advance
    clean := fun hn => c.noted_advance ▸ hkept.clean hn }

/-- What is read behind a word, and has its span from there on, opens behind the word; only what
waits for a class may stand before the word. -/
theorem opens_of_closes {α : Type} [Sited α] {p : Parse α} {span : α → Span} (hp : Traces [] p)
    (htakes : Takes p) {c c₁ c₂ : Cursor} (hc : c.Wf) (hpasses : Passes c c₁) {a : α}
    (hok : p c₁ = .ok a c₂) (hspan : Closes c₁.place span a c₂) (hn : c₂.noted = []) {hi : Nat}
    (hhi : c₂.prevStop ≤ hi) (stop : Nat) :
    Span.Opens hi ⟨c.place, stop⟩ (span a) (sitesOf a) ∧ (span a).start ≤ (span a).stop ∧
      (span a).stop = c₂.prevStop ∧ ∀ t ∈ sitesOf a, t.stop ≤ (span a).stop := by
  obtain ⟨ts, hreach, hsites⟩ := hp hpasses.wf hok
  have hle := htakes.place_le hp hpasses.wf hok
  have hbefore : ∀ t ∈ c₁.waiting, t.stop ≤ c.prevStop := by
    rw [hpasses.waiting]
    exact hc.waiting_le (hpasses.clean (hreach.clean hn))
  -- a site is one that waited, or comes from a token behind the word
  have hplaces : ∀ t ∈ sitesOf a, t.stop ≤ c.prevStop ∨ c₁.place ≤ t.start ∧ t.stop ≤ c₂.prevStop := by
    intro t ht
    have hmem := (hsites hn).mem (List.mem_append_left _ ht)
    rw [List.nil_append] at hmem
    rcases List.mem_append.1 hmem with hmem | hmem
    · have hwithin := hreach.within t hmem
      exact .inr ⟨hwithin.1, hwithin.2.2⟩
    · exact .inl (hbefore t hmem)
  have hprev := hc.prevStop_le
  have hlt := hpasses.place_lt
  rw [hspan hn]
  refine ⟨⟨hlt, Nat.le_trans hle hhi, fun t ht => ?_⟩, hle, rfl, fun t ht => ?_⟩
  · rcases hplaces t ht with ht | ht
    · exact .inl (Nat.le_trans ht hprev)
    · exact .inr ht.1
  · have := hplaces t ht
    dsimp only
    omega

/-! ### Other statements -/

/-- The parser gives no declaration of a module. -/
def Plain (p : Parse Stmt) : Prop := ∀ c, Ensures (fun s _ => s.isModuleDecl = false) p c

namespace Plain

variable {α : Type} {p q : Parse Stmt} {f : α → Parse Stmt}

theorem pure {s : Stmt} (h : s.isModuleDecl = false) : Plain (Pure.pure s) := fun _ => .pure h

theorem bind {p : Parse α} (hf : ∀ a, Plain (f a)) : Plain (p >>= f) := fun _ => .skip hf

theorem ite {P : Prop} [Decidable P] (hp : Plain p) (hq : Plain q) :
    Plain (if P then p else q) := fun c => .ite (hp c) (hq c)

theorem of_fails (hp : Fails p) : Plain p := fun _ => .of_fails hp

/-- Branches that join again. -/
theorem join {P : Prop} [Decidable P] {p q : Parse α} (hf : ∀ a, Plain (f a)) :
    Plain (if P then p >>= f else q >>= f) := .ite (.bind hf) (.bind hf)

/-- A step that may be left out. -/
theorem whenTrue {P : Prop} [Decidable P] {p : Parse PUnit} {h : PUnit → Parse Stmt}
    (hh : ∀ r, Plain (h r)) : Plain (if P then p >>= h else h ⟨⟩) := .ite (.bind hh) (hh _)

theorem whenFalse {P : Prop} [Decidable P] {p : Parse PUnit} {h : PUnit → Parse Stmt}
    (hh : ∀ r, Plain (h r)) : Plain (if P then h ⟨⟩ else p >>= h) := .ite (hh _) (.bind hh)

/-- What has a span to the end of the last token taken. -/
theorem done {start : Nat} {make : Span → Stmt} (h : ∀ span, (make span).isModuleDecl = false) :
    Plain (spanFrom start >>= fun span => Pure.pure (make span)) := .bind fun _ => .pure (h _)

end Plain

theorem plain_block : Plain (do
    let (span, stmts) ← g.blockStmts
    return Stmt.block span stmts) := by
  refine .bind fun r => ?_
  obtain ⟨span, stmts⟩ := r
  exact .pure rfl

theorem plain_expressionOrLabel : Plain g.expressionOrLabel := by
  have hrest : ∀ start e, Plain (do
      semicolon
      return Stmt.expr (← spanFrom start) e) := fun _ _ => .bind fun _ => .done fun _ => rfl
  refine .bind fun start => .bind fun e => ?_
  split
  · exact .bind fun b => .ite (.bind fun _ => .done fun _ => rfl) (hrest _ _)
  · exact hrest _ _

theorem plain_ifStatement : Plain g.ifStatement :=
  .bind fun _ => .bind fun _ => .bind fun _ => .bind fun _ => .bind fun _ =>
    .join fun _ => .done fun _ => rfl

theorem plain_doStatement : Plain g.doStatement :=
  .bind fun _ => .bind fun _ => .bind fun _ => .bind fun _ => .bind fun _ => .bind fun _ =>
    .done fun _ => rfl

theorem plain_whileStatement : Plain g.whileStatement :=
  .bind fun _ => .bind fun _ => .bind fun _ => .bind fun _ => .done fun _ => rfl

theorem plain_countingLoop (start : Nat) (head : Option ForHead) :
    Plain (g.countingLoop start head) := by
  refine .bind fun _ => .bind fun _ => .bind fun _ => .join fun test => .bind fun _ => ?_
  exact .bind fun _ => .join fun step => .bind fun _ => .bind fun _ => .done fun _ => rfl

theorem plain_loopOver (start : Nat) (isAwait : Bool) (head : ForHead) :
    Plain (g.loopOver start isAwait head) := by
  refine .bind fun b => .ite ?_ ?_
  · exact .bind fun _ => .bind fun _ => .bind fun _ => .done fun _ => rfl
  · exact .bind fun _ => .bind fun _ => .bind fun _ => .bind fun _ => .done fun _ => rfl

theorem plain_forStatement : Plain g.forStatement := by
  refine .bind fun start => .bind fun _ => .bind fun b => ?_
  extract_lets overItems whole begin
  have hwhole : ∀ isAwait, Plain (whole isAwait) := by
    refine fun isAwait => .bind fun _ => .bind fun b => .ite ?_ ?_
    · exact .bind fun _ => plain_countingLoop _ _
    refine .bind fun b => .ite (.of_fails fails_unexpected.left) ?_
    refine .bind fun headStart => .bind fun kind => ?_
    split
    · refine .bind fun _ => .bind fun items => .bind fun span => .bind fun b => .ite ?_ ?_
      · exact .bind fun _ => plain_loopOver _ _ _
      · exact .bind fun _ => .bind fun _ => plain_countingLoop _ _
    · refine .bind fun t => .bind fun e => .bind fun b => .ite ?_ ?_
      · exact .bind fun p => .bind fun _ => plain_loopOver _ _ _
      · exact .bind fun _ => plain_countingLoop _ _
  exact .ite (.bind fun a => .whenFalse fun _ => .bind fun _ => hwhole true) (hwhole false)

theorem plain_switchStatement : Plain g.switchStatement :=
  .bind fun _ => .bind fun _ => .bind fun _ => .bind fun _ => .bind fun _ => .bind fun _ =>
    .done fun _ => rfl

theorem plain_tryStatement : Plain g.tryStatement := by
  refine .bind fun start => .bind fun _ => .bind fun r => ?_
  obtain ⟨bodySpan, body⟩ := r
  refine .bind fun b => .join fun handler => .bind fun b => .join fun final => ?_
  exact .whenTrue fun _ => .done fun _ => rfl

theorem plain_returnStatement : Plain g.returnStatement :=
  .bind fun _ => .bind fun _ => .whenFalse fun _ => .bind fun _ => .bind fun _ => .join fun _ =>
    .bind fun _ => .done fun _ => rfl

theorem plain_throwStatement : Plain g.throwStatement :=
  .bind fun _ => .bind fun _ => .bind fun _ => .whenTrue fun _ => .bind fun _ => .bind fun _ =>
    .done fun _ => rfl

theorem plain_jumpStatement {make : Span → Option Ident → Stmt}
    (hmake : ∀ span label, (make span label).isModuleDecl = false) : Plain (jumpStatement make) :=
  .bind fun _ => .bind fun _ => .bind fun _ => .bind fun _ => .done fun _ => hmake _ _

theorem plain_functionStatement (position : Position) : Plain (g.functionStatement position) := by
  have hrest : ∀ f, Plain (pure (Stmt.funcDecl f)) := fun _ => .pure rfl
  exact .bind fun f => .ite (.ite (.bind fun _ => hrest f) (.whenTrue fun _ => hrest f)) (hrest f)

theorem plain_classStatement (position : Position) (start : Nat) (marks : List Expr) :
    Plain (g.classStatement position start marks) := by
  unfold Grammar.classStatement
  exact .whenTrue fun _ => .bind fun _ => .pure rfl

theorem plain_withStatement : Plain g.withStatement :=
  .bind fun _ => .bind fun _ => .bind fun _ => .bind fun _ => .done fun _ => rfl

theorem plain_variableStatement (kind : Declare) (position : Position) :
    Plain (g.variableStatement kind position) :=
  .bind fun _ => .bind fun _ => .whenTrue fun _ => .bind fun _ => .bind fun _ =>
    .done fun _ => rfl

/-- What is said of a statement and the cursor behind it concerns declarations of a module only, and
of the cursor where the last token ended and whether a diagnostic was noted. -/
structure Declarative (R : Stmt → Cursor → Prop) : Prop where
  plain : ∀ {s c}, s.isModuleDecl = false → R s c
  kept : ∀ {s c c'}, c'.prevStop = c.prevStop → (c'.noted = [] → c.noted = []) → R s c → R s c'

theorem Declarative.of_plain {R : Stmt → Cursor → Prop} (hR : Declarative R) {p : Parse Stmt}
    (hp : Plain p) (c : Cursor) : Ensures R p c := fun _ _ hok => hR.plain (hp c hok)

/-! ### Declarations of a module -/

/-- An import ends where the parser stops; one of the typed dialect declares a type. -/
theorem importDeclaration_eq (c : Cursor) : Ensures (fun s c' => s.isModuleDecl = false ∨
    ∃ start specs source, s = .importDecl ⟨start, c'.prevStop⟩ specs source) importDeclaration c := by
  have hdone : ∀ start specs source c, Ensures (fun s c' => s.isModuleDecl = false ∨
      ∃ start specs source, s = .importDecl ⟨start, c'.prevStop⟩ specs source) (do
        attributes
        semicolon
        return Stmt.importDecl (← spanFrom start) specs source) c :=
    fun start specs source c => .skip fun _ _ => .skip fun _ _ => .spanFrom (.pure (.inr ⟨_, _, _, rfl⟩))
  -- an import with an equals sign declares a type
  have htype : ∀ start, Plain (do
      semicolon
      note .importEquals
      return Stmt.typeDecl (← spanFrom start)) :=
    fun start => .bind fun _ => .bind fun _ => .done fun _ => rfl
  refine .skip fun start _ => .skip fun _ _ => .skip fun t _ => .skip fun next c => .ite ?_ (.ite ?_ ?_)
  · intro s c' hok
    refine .inl (Plain.bind (fun _ => .bind fun _ => .bind fun b => .bind fun next => ?_) c hok)
    refine .ite (.bind fun _ => .bind fun _ => .bind fun _ => .bind fun _ => htype _) ?_
    exact .bind fun _ => htype _
  · exact .skip fun source c => hdone _ none source c
  · extract_lets phase rest whole
    have hrest : ∀ c, Ensures _ (rest ()) c := fun c =>
      .skip fun specs _ => .skip fun _ _ => .skip fun source c => hdone _ (some specs) source c
    have hwhole : ∀ phase c, Ensures _ (whole phase) c :=
      fun phase c => .ite (.skip fun _ c => hrest c) (hrest c)
    exact .ite (.skip fun c' c => hwhole _ c) (hwhole _ c)

theorem exportList_eq (start : Nat) (c : Cursor) : Ensures (fun s c' =>
    ∃ specs source, s = .exportList ⟨start, c'.prevStop⟩ specs source) (exportList start) c := by
  have hdone : ∀ specs source c, Ensures (fun s c' =>
      ∃ specs source, s = .exportList ⟨start, c'.prevStop⟩ specs source) (do
        semicolon
        return Stmt.exportList (← spanFrom start) specs source) c :=
    fun specs source c => .skip fun _ _ => .spanFrom (.pure ⟨_, _, rfl⟩)
  refine .skip fun _ _ => .skip fun r _ => ?_
  obtain ⟨specs, comma⟩ := r
  refine .skip fun _ _ => .skip fun b _ => ?_
  extract_lets whole
  have hwhole : ∀ source c, Ensures _ (whole source) c :=
    fun source c => .ite (.skip fun _ c => hdone _ source c) (hdone _ source c)
  refine .ite (.skip fun source _ => .skip fun _ c => ?_) (hwhole none _)
  exact hwhole (some source) c

theorem exportAll_eq (start : Nat) (c : Cursor) : Ensures (fun s c' =>
    ∃ exported source, s = .exportAll ⟨start, c'.prevStop⟩ exported source) (exportAll start) c := by
  have hrest : ∀ exported c, Ensures (fun s c' =>
      ∃ exported source, s = .exportAll ⟨start, c'.prevStop⟩ exported source) (do
        expectWord "from"
        let source ← stringLiteral
        attributes
        semicolon
        return Stmt.exportAll (← spanFrom start) exported source) c := by
    refine fun exported _ => .skip fun _ _ => .skip fun source _ => .skip fun _ _ => .skip fun _ _ => ?_
    exact .spanFrom (.pure ⟨_, _, rfl⟩)
  refine .skip fun _ _ => .skip fun b _ => .ite (.skip fun _ c => hrest _ c) (.skip fun _ c => hrest _ c)

/-- A declaration ends where the parser stops, and so do its parts. -/
def Stands (s : Stmt) (c : Cursor) : Prop :=
  c.noted = [] → (s.isModuleDecl = true → s.span.stop = c.prevStop) ∧ s.Fits c.prevStop

theorem declarative_stands : Declarative Stands where
  plain := by
    intro s c hplain _
    refine ⟨fun hdecl => absurd (hplain.symm.trans hdecl) Bool.false_ne_true, ?_, ?_, ?_⟩
    · rintro span d rfl
      cases hplain
    · rintro span v rfl
      cases hplain
    · rintro span v rfl
      cases hplain
  kept hstop hclean h := fun hn => hstop ▸ h (hclean hn)

/-- A declaration in which nothing stands that is exported. -/
theorem stands_of_stop {s : Stmt} {c : Cursor} (hdecl : ∀ span d, s ≠ .exportDecl span d)
    (hdefault : ∀ span v, s ≠ .exportDefault span v) (hstop : s.span.stop = c.prevStop) :
    Stands s c := fun _ => ⟨fun _ => hstop, {
  opens_decl := fun h => absurd h (hdecl _ _)
  opens_default := fun h => absurd h (hdefault _ _)
  closes_default := fun h => absurd h (hdefault _ _) }⟩

theorem stands_importDeclaration (c : Cursor) : Ensures Stands importDeclaration c := by
  intro s c' hok
  rcases importDeclaration_eq c hok with hplain | ⟨start, specs, source, rfl⟩
  · exact declarative_stands.plain hplain
  · exact stands_of_stop (fun _ _ => Stmt.noConfusion) (fun _ _ => Stmt.noConfusion) rfl

/-- What a grammar needs so that declarations stand as they should. -/
structure Placing (g : Grammar) : Prop where
  traced : g.Traced
  whole_assignment : Whole Expr.span g.assignment
  takes_assignment : Takes g.assignment
  stands : ∀ position {c : Cursor}, c.Wf → Ensures Stands (g.stmt position) c

/-- A value is exported from the place of the word `export` on. -/
theorem Placing.stands_exportDefault (hg : g.Placing) {c c₁ : Cursor} (hc : c.Wf)
    (hpasses : Passes c c₁) (hkind : c₁.token.kind = .name) :
    Ensures Stands (exportDefault c.place g) c₁ := by
  intro s c' hok hn
  obtain ⟨t, c₂, hword, hok⟩ := bind_eq_ok.1 hok
  have hpasses₂ := hpasses.trans (passes_takeWord hpasses.wf hkind hword)
  obtain ⟨v, c₃, hvalue, hok⟩ := bind_eq_ok.1 hok
  have htraces := hg.traced.exportValue
  have hcloses := hg.traced.closes_exportValue hg.whole_assignment hpasses₂.wf hvalue
  obtain ⟨ts, hreach, -⟩ := htraces hpasses₂.wf hvalue
  -- an expression may have a semicolon behind it
  obtain ⟨hs, hle, hclean⟩ : s = .exportDefault ⟨c.place, c'.prevStop⟩ v ∧
      c₃.prevStop ≤ c'.prevStop ∧ (c'.noted = [] → c₃.noted = []) := by
    split at hok
    · obtain ⟨_, c₄, hsemicolon, hok⟩ := bind_eq_ok.1 hok
      cases hok
      obtain ⟨us, hreach', -⟩ := traces_semicolon (X := []) hreach.wf hsemicolon
      exact ⟨rfl, hreach'.prevStop_le, hreach'.clean⟩
    · cases hok
      exact ⟨rfl, Nat.le_refl _, id⟩
  obtain ⟨hopens, hspan, hstop, hsites⟩ := opens_of_closes htraces
    (takes_exportValue hg.takes_assignment) hc hpasses₂ hvalue hcloses (hclean hn) hle c'.prevStop
  subst hs
  refine ⟨fun _ => rfl, ?_, ?_, ?_⟩
  · rintro span d ⟨⟩
  · rintro span v ⟨⟩
    exact hopens
  · rintro span v ⟨⟩
    exact ⟨hspan, hstop ▸ hle, hsites⟩

/-- A declaration is exported from the place of the word `export` on. -/
theorem Traced.stands_exportedDeclaration (hg : g.Traced) {c c₁ : Cursor} (hc : c.Wf)
    (hpasses : Passes c c₁) :
    Ensures Stands (do
      let d ← g.exportedDeclaration
      return .exportDecl (← spanFrom c.place) d) c₁ := by
  intro s c' hok hn
  obtain ⟨d, c₂, hd, hok⟩ := bind_eq_ok.1 hok
  cases hok
  have hcloses := hg.closes_exportedDeclaration hpasses.wf hd
  obtain ⟨hopens, -⟩ := opens_of_closes hg.exportedDeclaration
    takes_exportedDeclaration hc hpasses hd hcloses hn (Nat.le_refl _) c'.prevStop
  refine ⟨fun _ => rfl, ?_, ?_, ?_⟩
  · rintro span d ⟨⟩ -
    exact hopens
  · rintro span v ⟨⟩
  · rintro span v ⟨⟩

theorem stands_exportList (start : Nat) (c : Cursor) : Ensures Stands (exportList start) c := by
  intro s c' hok
  obtain ⟨specs, source, rfl⟩ := exportList_eq start c hok
  exact stands_of_stop (fun _ _ => Stmt.noConfusion) (fun _ _ => Stmt.noConfusion) rfl

theorem stands_exportAll (start : Nat) (c : Cursor) : Ensures Stands (exportAll start) c := by
  intro s c' hok
  obtain ⟨exported, source, rfl⟩ := exportAll_eq start c hok
  exact stands_of_stop (fun _ _ => Stmt.noConfusion) (fun _ _ => Stmt.noConfusion) rfl

theorem Placing.stands_exportDeclaration (hg : g.Placing) {c : Cursor} (hc : c.Wf)
    (hword : c.token.isWord "export" = true) : Ensures Stands g.exportDeclaration c := by
  simp only [Token.isWord, Bool.and_eq_true, beq_iff_eq] at hword
  intro s c' hok
  obtain ⟨start, c₀, hstart, hok⟩ := bind_eq_ok.1 hok
  cases hstart
  obtain ⟨t, c₁, htake, hok⟩ := bind_eq_ok.1 hok
  have hpasses := passes_takeWord hc hword.1 htake
  obtain ⟨t, c₂, htoken, hok⟩ := bind_eq_ok.1 hok
  cases htoken
  split at hok
  · rename_i hdefault
    simp only [Token.isWord, Bool.and_eq_true, beq_iff_eq] at hdefault
    exact hg.stands_exportDefault hc hpasses hdefault.1 hok
  split at hok
  · exact stands_exportAll _ _ hok
  split at hok
  · exact stands_exportList _ _ hok
  split at hok
  · obtain ⟨_, c₂, -, hok⟩ := bind_eq_ok.1 hok
    cases hok
    -- an import that is exported is kept as a type
    refine fun _ => ⟨fun _ => rfl, ?_, ?_, ?_⟩
    · rintro span d ⟨⟩ htype
      exact absurd rfl (htype _)
    · rintro span v ⟨⟩
    · rintro span v ⟨⟩
  · exact hg.traced.stands_exportedDeclaration hc hpasses hok

/-! ### All statements -/

namespace Declarative

variable {R : Stmt → Cursor → Prop} {position : Position} {c : Cursor}

theorem decorated (hR : Declarative R) (hg : g.Traced)
    (hstmt : ∀ {c : Cursor}, c.Wf → Ensures R (g.stmt position) c) (hc : c.Wf) :
    Ensures R (g.decorated position) c := by
  intro s c' hok
  obtain ⟨start, c₀, hstart, hok⟩ := bind_eq_ok.1 hok
  cases hstart
  obtain ⟨marks, c₁, hmarks, hok⟩ := bind_eq_ok.1 hok
  -- what was read is held back for the first class in the statement
  have hheld := hg.held_decorators hc hmarks
  obtain ⟨b, c₂, hsees, hok⟩ := bind_eq_ok.1 hok
  rw [looks_seesWord _ hsees] at hok
  split at hok
  · exact hR.of_plain (plain_classStatement _ _ _) _ hok
  obtain ⟨_, c₃, hmodify, hok⟩ := bind_eq_ok.1 hok
  cases hmodify
  obtain ⟨s', c₄, hs, hok⟩ := bind_eq_ok.1 hok
  obtain ⟨rest, c₅, htake, hok⟩ := bind_eq_ok.1 hok
  cases htake
  obtain ⟨_, c₆, hmisplaced, hok⟩ := bind_eq_ok.1 hok
  rw [misplaced_eq] at hmisplaced
  cases hmisplaced
  cases hok
  exact hR.kept (c := c₄) rfl (fun hn => (List.append_eq_nil_iff.1 hn).2) (hstmt hheld hs)

/-- What is read by the first token of a statement is a declaration of a module or plain. -/
theorem stmtOf (hR : Declarative R) (himport : ∀ c, Ensures R importDeclaration c)
    (hexport : c.token.isWord "export" = true → Ensures R g.exportDeclaration c)
    (hdecorated : Ensures R (g.decorated position) c) : Ensures R (g.stmtOf position) c := by
  have hexpr : Ensures R g.expressionOrLabel c := hR.of_plain plain_expressionOrLabel c
  refine .token (.look looks_here fun start _ => ?_)
  split
  · split
    · exact hR.of_plain plain_block c
    · exact hR.of_plain (.bind fun _ => .done fun _ => rfl) c
    · exact hdecorated
    · exact hexpr
  · -- of the words that open a statement only two open a declaration of a module
    rename_i hkind
    split
    · exact hR.of_plain plain_ifStatement c
    · exact hR.of_plain plain_doStatement c
    · exact hR.of_plain plain_whileStatement c
    · exact hR.of_plain plain_forStatement c
    · exact hR.of_plain (plain_jumpStatement fun _ _ => rfl) c
    · exact hR.of_plain (plain_jumpStatement fun _ _ => rfl) c
    · exact hR.of_plain plain_withStatement c
    · exact hR.of_plain plain_switchStatement c
    · exact hR.of_plain plain_throwStatement c
    · exact hR.of_plain plain_tryStatement c
    · exact hR.of_plain (.bind fun _ => .bind fun _ => .done fun _ => rfl) c
    · exact hR.of_plain (plain_classStatement _ _ _) c
    · exact hR.of_plain (plain_functionStatement _) c
    · exact .skip fun b c => .ite (hR.of_plain (plain_functionStatement _) c)
        (hR.of_plain plain_expressionOrLabel c)
    · exact hR.of_plain plain_returnStatement c
    · refine .look looks_peek fun next _ => .ite hexpr (himport c)
    · rename_i hword
      exact hexport (by simp [Token.isWord, hkind, hword])
    · refine .look (looks_letDeclares position) fun b _ => .ite ?_ hexpr
      exact hR.of_plain (plain_variableStatement _ _) c
    · refine .look looks_declareWord fun kind _ => ?_
      split
      · exact hR.of_plain (plain_variableStatement _ _) c
      · exact hexpr
  · exact hexpr

end Declarative

theorem isModuleDecl_markPureDeclaration (s : Stmt) :
    markPureDeclaration s = s ∨ (markPureDeclaration s).isModuleDecl = false := by
  unfold markPureDeclaration
  split
  · exact .inr rfl
  · exact .inr rfl
  · exact .inl rfl

/-- What holds of the declarations of a module as they are read holds of all statements. -/
theorem Declarative.stmtRule {R : Stmt → Cursor → Prop} (hR : Declarative R) (hg : g.Traced)
    {position : Position} {c : Cursor} (himport : ∀ c, Ensures R importDeclaration c)
    (hexport : c.token.isWord "export" = true → Ensures R g.exportDeclaration c)
    (hstmt : ∀ {c : Cursor}, c.Wf → Ensures R (g.stmt position) c) (hc : c.Wf) :
    Ensures R (g.stmtRule position) c := by
  refine .look looks_token fun t _ => ?_
  refine .bind (hR.stmtOf himport hexport (hR.decorated hg hstmt hc)) fun s c₁ hs => .pure ?_
  by_cases h : t.noSideEffects = true
  · rw [if_pos h]
    rcases isModuleDecl_markPureDeclaration s with hsame | hmarked
    · rwa [hsame]
    · exact hR.plain hmarked
  · rwa [if_neg h]

theorem Placing.stands_stmtRule (hg : g.Placing) (position : Position) {c : Cursor} (hc : c.Wf) :
    Ensures Stands (g.stmtRule position) c :=
  declarative_stands.stmtRule hg.traced stands_importDeclaration (hg.stands_exportDeclaration hc)
    (hg.stands position) hc

end ModuleBundler.Grammar
