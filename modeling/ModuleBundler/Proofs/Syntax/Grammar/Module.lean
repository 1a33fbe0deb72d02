/-
ModuleBundler/Proofs/Syntax/Grammar/Module.lean

Import and export declarations, and with them all statements, come from the tokens that
are taken for them.  The word that opens a declaration is one of those tokens, for it is
written without escapes (`TracesAt.keyword`); decorators before a statement wait for the
first class in it (`TracesAt.holding`).
-/
import ModuleBundler.Proofs.Syntax.Grammar.Statement
import ModuleBundler.Syntax.Grammar.Module

namespace ModuleBundler

open Cursor

/-! ### Words that open a declaration -/

namespace Parse

variable {X : List Span} {β : Type} [Sited β]

/-- A word of six letters, which must be written without escapes, ends where its letters do. -/
theorem TracesAt.keyword {c : Cursor} (hc : c.Wf) (hkind : c.token.kind = .name)
    (hlength : c.token.text.length = 6) {f : Token → Parse β}
    (hf : ∀ t, Traces (⟨c.place, c.place + 6⟩ :: X) (f t)) : TracesAt X (takeWord >>= f) c := by
  intro b c' hok
  obtain ⟨t, c₁, htake, hok⟩ := bind_eq_ok.1 hok
  obtain ⟨t', c₂, htake', hnote⟩ := bind_eq_ok.1 htake
  cases htake'
  by_cases hescaped : c.token.escaped = true
  · rw [if_pos hescaped] at hnote
    cases hnote
    obtain ⟨ts, hreach, -⟩ := traces_takeWord (X := X) hc htake
    obtain ⟨us, hreach', -⟩ := hf _ hreach.wf hok
    -- the note keeps the text from being accepted
    refine ⟨ts ++ us, hreach.trans hreach', fun hn => ?_⟩
    cases hreach'.clean hn
  · rw [if_neg hescaped] at hnote
    cases hnote
    have hspan : c.token.span = ⟨c.place, c.place + 6⟩ := by
      have hstop := hc.name_length hkind (by simpa using hescaped)
      rw [hlength] at hstop
      rw [← hstop]
      rfl
    have htaken : TracesAt X (Parse.take >>= f) c :=
      .takeName hc (by rw [hkind]; rfl) (hspan ▸ hf c.token)
    exact htaken hok

/-- Decorators wait for a class in what is parsed, and no longer. -/
theorem TracesAt.holding {α : Type} [Sited α] {p : Parse α} {c : Cursor} {marks : List Expr}
    (hwf : Cursor.Wf { c with marks }) (hp : Traces [] p) :
    TracesAt (sitesOf marks) (do
      modify fun c => { c with marks }
      let a ← p
      Grammar.misplaced (← Grammar.takeMarks)
      return a) c := by
  intro a c' hok
  obtain ⟨_, c₁, hmodify, hok⟩ := bind_eq_ok.1 hok
  cases hmodify
  obtain ⟨a', c₂, hpa, hok⟩ := bind_eq_ok.1 hok
  obtain ⟨ts, hreach, hsites⟩ := hp hwf hpa
  obtain ⟨rest, c₃, htake, hok⟩ := bind_eq_ok.1 hok
  obtain ⟨us, hreach', hsites'⟩ := Grammar.traces_takeMarks hreach.wf htake
  have hlast : Traces (sitesOf a') (do
      Grammar.misplaced rest
      return a') :=
    .skip (Grammar.traces_misplaced _) fun _ => .pure (.refl _)
  obtain ⟨vs, hreach'', hsites''⟩ := hlast hreach'.wf hok
  have hnone : c'.marks = [] := by
    refine hreach''.marks ?_
    cases htake
    rfl
  refine ⟨ts ++ us ++ vs, ?_, fun hn s => ?_⟩
  · exact { hreach.trans hreach' |>.trans hreach'' with marks := fun _ => hnone }
  · have := hsites (hreach'.clean (hreach''.clean hn)) s
    have := hsites' (hreach''.clean hn) s
    have := hsites'' hn s
    have : Cursor.waiting { c with marks } = sitesOf marks := rfl
    simp only [List.count_append, List.count_nil, this] at *
    omega

end Parse

namespace Grammar

open Parse

variable {g : Grammar} {X : List Span}

attribute [local simp] List.count_cons

/-! ### Names of modules and of their members -/

theorem sitesOf_moduleName {n : ModuleName} (h : n.quoted = false) : sitesOf n = [n.span] := by
  obtain ⟨text, quoted, lone, span⟩ := n
  cases h
  rfl

@[simp] theorem sitesOf_importSpec (spec : ImportSpec) :
    sitesOf spec = sitesOf spec.localName := rfl

@[simp] theorem sitesOf_exportSpec (spec : ExportSpec) :
    sitesOf spec = sitesOf spec.localName := rfl

theorem traces_moduleName : Traces [] moduleName := by
  refine .look looks_token fun t => .ite (fun _ => ?_) fun _ => ?_
  · refine .skip traces_stringLiteral fun v => .whenTrue (traces_note _) fun _ => ?_
    exact .pure (Among.nil _)
  · refine .bind traces_identifierName fun id => .pure fun s => ?_
    rw [sitesOf_moduleName rfl]
    simp

theorem traces_importAttribute : Traces [] importAttribute := by
  refine .look looks_token fun t => .join (.map traces_stringLiteral fun _ => Among.nil _)
    (.map traces_identifierName fun _ => Among.nil _) fun name => ?_
  refine .skip (traces_expect _) fun _ => .skip traces_stringLiteral fun _ => .pure ?_
  exact Among.nil _

theorem traces_attributes : Traces X attributes := by
  refine .look looks_token fun t => .ite (fun _ => ?_) fun _ => .pure (Among.nil _)
  refine .skip traces_takeWord fun _ => .skip (traces_expect _) fun _ => ?_
  refine .skip (traces_importAttribute.separated _) fun r => .skip (traces_expect _) fun _ => ?_
  refine .skip (.forIn (fun _ _ => ?_) _ _) fun _ => .pure (Among.nil _)
  exact .skip (traces_note _) fun _ => .pure (Among.nil _)

/-! ### Imports -/

/-- A name that can be bound is no string. -/
theorem quoted_of_isBinding {c c' : Cursor} {n : ModuleName} (h : moduleName c = .ok n c')
    (ht : c.token.isBinding = true) : n.quoted = false := by
  have hkind := kind_of_isBinding ht
  obtain ⟨t, c₁, hlook, h⟩ := bind_eq_ok.1 h
  cases hlook
  rw [if_neg (by simp [Token.isString, hkind])] at h
  obtain ⟨id, c₂, hid, h⟩ := bind_eq_ok.1 h
  cases h
  rfl

theorem traces_namedImport : Traces [] namedImport := by
  intro c hc
  refine .token (.bindOf (.refl _) (traces_moduleName hc) fun imported c₁ himported hc₁ => ?_)
  refine Traces.skip (traces_eatWord _) (fun b => .ite (fun _ => ?_) fun _ => ?_) hc₁
  · exact .bind traces_bindingIdentifier fun id => .pure fun s => by simp [ImportSpec.localName]
  refine .ite (fun _ => .of_fails (fails_fail _)) fun _ => ?_
  refine .ite (fun _ => .of_fails (fails_fail _)) fun hbinding => ?_
  have hquoted := quoted_of_isBinding himported (by simpa using hbinding)
  refine .skip (traces_checkOperatorName _) fun _ => .pure fun s => ?_
  simp [ImportSpec.localName, sitesOf_moduleName hquoted]

theorem traces_importMembers : Traces [] importMembers := by
  refine .skip (traces_eat _) fun b => .ite (fun _ => ?_) fun _ => ?_
  · refine .skip (traces_expectWord _) fun _ => .bind traces_bindingIdentifier fun id => ?_
    exact .pure fun s => by simp [ImportSpec.localName]
  refine .skip (traces_eat _) fun b => .ite (fun _ => ?_) fun _ => .pure (Among.nil _)
  refine .bind (traces_namedImport.separated _) fun r => .skip (traces_expect _) fun _ => ?_
  obtain ⟨specs, comma⟩ := r
  exact .pure fun s => by simp

theorem traces_importSpecs : Traces [] importSpecs := by
  have hmembers : Traces [] (do return (← importMembers).getD []) := by
    refine .bind traces_importMembers fun specs => .pure fun s => ?_
    cases specs <;> simp
  refine .look looks_token fun t => .ite (fun _ => ?_) fun _ => hmembers
  refine .bind traces_bindingIdentifier fun id => .skip (traces_eat _) fun b => ?_
  refine .ite (fun _ => .bind traces_importMembers fun specs => ?_) fun _ => .pure fun s => ?_
  · split
    · exact .pure fun s => by simp [ImportSpec.localName]
    · exact .of_fails fails_unexpected
  · simp [ImportSpec.localName]

/-- The words after which a declaration imports. -/
theorem tracesAt_importDeclaration {c : Cursor} (hc : c.Wf) (hword : c.token.isWord "import" = true) :
    TracesAt [] importDeclaration c := by
  refine .here ?_
  simp only [Token.isWord, Bool.and_eq_true, beq_iff_eq] at hword
  refine .keyword hc hword.1 (by rw [hword.2]; rfl) fun _ => ?_
  -- the word is a site of the declaration, beside the names that it binds
  have hdone : ∀ specs source, Traces (sitesOf specs ++ [⟨c.place, c.place + 6⟩]) (do
      attributes
      semicolon
      return Stmt.importDecl (← spanFrom c.place) specs source) := by
    refine fun specs source => .skip traces_attributes fun _ => .skip traces_semicolon fun _ => ?_
    refine .spanFrom fun stop => .pure (Node.among_iff.2 fun s => ?_)
    cases specs <;> simp [Stmt.span]
  refine .look looks_token fun t => .look looks_peek fun next => .ite (fun _ => ?_) fun _ => ?_
  · have hdone : Traces [⟨c.place, c.place + 6⟩] (do
        semicolon
        note .importEquals
        return Stmt.typeDecl (← spanFrom c.place)) :=
      .skip traces_semicolon fun _ => .skip (traces_note _) fun _ =>
        .spanFrom fun stop => .pure fun s => by simp
    refine .skip traces_take fun _ => .skip traces_take fun _ => ?_
    refine .look (looks_seesWord _) fun b => .look looks_peek fun next => ?_
    refine .ite (fun _ => ?_) fun _ => .skip traces_entityName fun _ => hdone
    refine .skip traces_take fun _ => .skip traces_take fun _ => .skip traces_stringLiteral fun _ => ?_
    exact .skip (traces_expect _) fun _ => hdone
  refine .ite (fun _ => .skip traces_stringLiteral fun source => hdone none source) fun _ => ?_
  extract_lets phase rest whole
  have hrest : Traces [⟨c.place, c.place + 6⟩] (rest ()) := by
    refine .bind traces_importSpecs fun specs => .skip (traces_expectWord _) fun _ => ?_
    refine .skip traces_stringLiteral fun source => ?_
    simpa using hdone (some specs) source
  have hwhole : ∀ phase, Traces [⟨c.place, c.place + 6⟩] (whole phase) :=
    fun phase => .ite (fun _ => .skip traces_takeWord fun _ => hrest) fun _ => hrest
  exact .ite (fun _ => .look looks_get fun c => .known (hwhole _)) fun _ => .known (hwhole _)

/-! ### Exports -/

theorem traces_exportSpec : Traces [] exportSpec := by
  refine .look looks_token fun t => .bind traces_moduleName fun localName => ?_
  refine .skip (traces_eatWord _) fun b => .ite (fun _ => ?_) fun _ => ?_
  · exact .skip traces_moduleName fun _ => .pure fun s => by simp
  · exact .pure fun s => by simp

@[simp] theorem sitesOf_map_fst {α β : Type} [Sited α] (as : List (α × β)) :
    sitesOf (as.map (·.1)) = sitesOf as := by
  induction as with
  | nil => rfl
  | cons a as ih =>
      obtain ⟨a, b⟩ := a
      simp [ih]

theorem traces_exportList (start : Nat) :
    Traces [⟨start, start + 6⟩] (exportList start) := by
  refine .skip (traces_expect _) fun _ => .bind (traces_exportSpec.separated _) fun r => ?_
  obtain ⟨specs, comma⟩ := r
  refine .skip (traces_expect _) fun _ => .skip (traces_eatWord _) fun b => ?_
  extract_lets whole
  have hwhole : ∀ source, Traces (sitesOf specs ++ [⟨start, start + 6⟩]) (whole source) := by
    intro source
    have hdone : Traces (sitesOf specs ++ [⟨start, start + 6⟩]) (do
        semicolon
        return Stmt.exportList (← spanFrom start) (specs.map (·.1)) source) := by
      refine .skip traces_semicolon fun _ => .spanFrom fun stop => .pure fun s => ?_
      simp [Node.sitesOf_exportList]
    refine .ite (fun _ => .skip (.forIn (fun a r => ?_) _ _) fun _ => hdone) fun _ => hdone
    obtain ⟨spec, t⟩ := a
    refine .ite (fun _ => .skip (traces_note _) fun _ => .pure (Among.nil _)) fun _ => ?_
    exact .whenTrue (traces_note _) fun _ => .pure (Among.nil _)
  -- the tokens that are kept beside the entries are for the checks only
  have hspecs : Among (sitesOf specs ++ [⟨start, start + 6⟩])
      (sitesOf (specs, comma) ++ [⟨start, start + 6⟩]) := fun s => by simp
  refine .mono ?_ hspecs
  refine .ite (fun _ => .skip traces_stringLiteral fun source => ?_) fun _ => .known (hwhole none)
  exact .skip traces_attributes fun _ => .known (hwhole (some source))

theorem traces_exportAll (start : Nat) : Traces [⟨start, start + 6⟩] (exportAll start) := by
  refine .skip (traces_expect _) fun _ => .skip (traces_eatWord _) fun b => ?_
  refine .join (.map traces_moduleName fun n s => by simp) (.pure (Among.nil _)) fun exported => ?_
  refine .skip (traces_expectWord _) fun _ => .skip traces_stringLiteral fun source => ?_
  refine .skip traces_attributes fun _ => .skip traces_semicolon fun _ => ?_
  refine .spanFrom fun stop => .pure (Node.among_iff.2 fun s => ?_)
  simp [Stmt.span]

theorem traces_checkSides (after : List Expr) : Traces X (checkSides after) :=
  .look looks_get fun _ => .whenFalse (traces_note _) fun _ => .pure (Among.nil _)

/-- A class takes the decorators before it; before anything else they are out of place. -/
def decorable {α : Type} (g : Grammar) (make : Class → α) (p : Parse α) : Parse α := do
  let start ← here
  let marks ← g.decorators
  if ← seesWord "class" then
    checkSides marks
    return make (← g.classRest start marks)
  else
    misplaced marks
    p

theorem Traced.decorable {α : Type} [Sited α] (hg : g.Traced) {make : Class → α}
    (hmake : ∀ k, Among (sitesOf (make k)) (sitesOf k)) {p : Parse α} (hp : Traces [] p) :
    Traces [] (g.decorable make p) := by
  refine .look looks_here fun start => .bind hg.decorators fun marks => ?_
  refine .look (looks_seesWord _) fun b => .ite (fun _ => ?_) fun _ => ?_
  · refine .skip (traces_checkSides _) fun _ => .bindOf (.refl _) (hg.classRest _ _) fun k => ?_
    exact .pure fun s => by simpa using hmake k s
  · exact .mono (.skip (traces_misplaced _) fun _ => hp) (Among.nil _)

/-- A value that is exported and no class. -/
theorem Traced.plainValue (hg : g.Traced) : Traces [] (do
    if ← seesFunction then return DefaultExport.funcDecl (← g.function .standard)
    return DefaultExport.expr (← withIn g.assignment)) := by
  refine .look looks_seesFunction fun b => .ite (fun _ => ?_) fun _ => ?_
  · exact .bind (hg.function _) fun f => .pure (Node.among_iff.2 fun s => by simp)
  · exact .bind hg.assignment.withIn fun e => .pure (Node.among_iff.2 fun s => by simp)

theorem Traced.exportValue (hg : g.Traced) : Traces [] g.exportValue :=
  hg.decorable (fun k => Node.among_iff.2 fun s => by simp) hg.plainValue

theorem Traced.exportDefault (hg : g.Traced) (start : Nat) :
    Traces [⟨start, start + 6⟩] (exportDefault start g) := by
  refine .skip traces_takeWord fun _ => .bind hg.exportValue fun value => ?_
  have hdone : Traces (sitesOf value ++ [⟨start, start + 6⟩]) (do
      return Stmt.exportDefault (← spanFrom start) value) := by
    refine .spanFrom fun stop => .pure (Node.among_iff.2 fun s => ?_)
    simp [Stmt.span]
  split
  · exact .skip traces_semicolon fun _ => hdone
  · exact hdone

/-! ### Declarations of the typed dialect -/

theorem Traced.typeAlias (hg : g.Traced) : Traces [] g.typeAlias := by
  refine .look looks_here fun start => .skip traces_takeWord fun _ => ?_
  refine .skip traces_bindingIdentifier fun _ => .skip (traces_expect _) fun _ => ?_
  refine .skip hg.type fun _ => .skip traces_semicolon fun _ => ?_
  exact .look (looks_spanFrom _) fun span => .pure fun s => by simp

theorem Traced.interface (hg : g.Traced) : Traces [] g.interface := by
  refine .look looks_here fun start => .skip traces_takeWord fun _ => ?_
  refine .skip traces_bindingIdentifier fun _ => .skip hg.heritage fun _ => ?_
  refine .skip hg.typeMembers fun _ => .look (looks_spanFrom _) fun span => ?_
  exact .pure fun s => by simp

theorem Traced.enumMember (hg : g.Traced) : Traces [] g.enumMember := by
  refine .skip hg.key fun k => ?_
  extract_lets whole
  have hwhole : ∀ name, Traces [] (whole name) := by
    refine fun name => .skip (traces_eat _) fun b => ?_
    refine .join (.map hg.assignment.withIn fun e s => by simp) (.pure (Among.nil _)) fun value => ?_
    exact .pure fun s => by simp
  split
  · exact .known (hwhole _)
  · exact .known (hwhole _)
  · exact .known (hwhole _)
  · exact .known (hwhole _)
  · exact .skip (traces_note _) fun _ => .known (hwhole _)
  · exact .skip (traces_note _) fun _ => .known (hwhole _)
  · exact .skip (traces_note _) fun _ => .known (hwhole _)

theorem sitesOf_filterMap_snd {α β : Type} [Sited α] [Sited β] (as : List (α × Option β)) :
    Among (sitesOf (as.filterMap (·.2))) (sitesOf as) := by
  intro s
  induction as with
  | nil => exact Nat.le_refl _
  | cons a as ih =>
      obtain ⟨a, _ | b⟩ := a <;> simp <;> omega

theorem Traced.enumeration (hg : g.Traced) : Traces [] g.enumeration := by
  refine .look looks_here fun start => .skip (traces_eatWord _) fun _ => ?_
  refine .skip traces_takeWord fun _ => .bind traces_bindingIdentifier fun id => ?_
  refine .skip (traces_expect _) fun _ => .bind (hg.enumMember.separated _) fun r => ?_
  obtain ⟨members, comma⟩ := r
  refine .skip (traces_expect _) fun _ => .look (looks_spanFrom _) fun span => .pure ?_
  refine Node.among_iff.2 fun s => ?_
  have := sitesOf_filterMap_snd members s
  simp at *
  omega

theorem Traced.namespaceDeclaration (hg : g.Traced) : Traces [] g.namespaceDeclaration := by
  have hrest : ∀ start, Traces [] (do
      let r ← g.blockStmts
      return Stmt.namespaceDecl (← spanFrom start) r.2) := by
    refine fun start => .bind hg.blockStmts fun r => .look (looks_spanFrom _) fun span => .pure ?_
    obtain ⟨_, stmts⟩ := r
    exact Node.among_iff.2 fun s => by simp
  refine .look looks_here fun start => .skip traces_takeWord fun _ => .look looks_token fun t => ?_
  refine .ite (fun _ => .skip traces_stringLiteral fun _ => hrest start) fun _ => ?_
  exact .skip traces_entityName fun _ => hrest start

/-! ### Exported declarations -/

/-- A declaration that is exported and no class. -/
theorem Traced.plainDeclaration (hg : g.Traced) : Traces [] (do
    if ← seesFunction then return Stmt.funcDecl (← g.function .declaration)
    let t ← token
    if t.isWord "type" then return ← g.typeAlias
    if t.isWord "interface" then return ← g.interface
    if t.isWord "enum" || (t.isWord "const" && (← peek).isWord "enum") then return ← g.enumeration
    if t.isWord "namespace" || t.isWord "module" then return ← g.namespaceDeclaration
    match ← declareWord? with
    | some kind =>
        if kind = .disposed || kind = .awaitDisposed then unexpected
        g.variableStatement kind .listed
    | none => unexpected) := by
  refine .look looks_seesFunction fun b => .ite (fun _ => ?_) fun _ => ?_
  · exact .bind (hg.function _) fun f => .pure (Node.among_iff.2 fun s => by simp)
  refine .look looks_token fun t => .ite (fun _ => hg.typeAlias) fun _ => ?_
  refine .ite (fun _ => hg.interface) fun _ => .look looks_peek fun next => ?_
  refine .ite (fun _ => hg.enumeration) fun _ => .ite (fun _ => hg.namespaceDeclaration) fun _ => ?_
  refine .look looks_declareWord fun kind => ?_
  split
  · exact .refuse fails_unexpected (hg.variableStatement _ _)
  · exact .of_fails fails_unexpected

theorem Traced.exportedDeclaration (hg : g.Traced) : Traces [] g.exportedDeclaration :=
  hg.decorable (fun k => Node.among_iff.2 fun s => by simp) hg.plainDeclaration

theorem Traced.tracesAt_exportDeclaration (hg : g.Traced) {c₀ : Cursor} (hc : c₀.Wf)
    (hword : c₀.token.isWord "export" = true) : TracesAt [] g.exportDeclaration c₀ := by
  refine .here ?_
  simp only [Token.isWord, Bool.and_eq_true, beq_iff_eq] at hword
  refine .keyword hc hword.1 (by rw [hword.2]; rfl) fun _ c hc => ?_
  have hdone : ∀ d, Traces (sitesOf d ++ [⟨c₀.place, c₀.place + 6⟩]) (do
      return Stmt.exportDecl (← spanFrom c₀.place) d) := by
    refine fun d => .spanFrom fun stop => .pure (Node.among_iff.2 fun s => ?_)
    simp [Stmt.span]
  refine .token ?_
  split
  · exact hg.exportDefault _ hc
  split
  · exact traces_exportAll _ hc
  split
  · exact traces_exportList _ hc
  split
  · -- what is imported here is kept as a type, so its names are no sites
    rename_i hword
    refine .bindOf (Z := [⟨c₀.place, c₀.place + 6⟩]) (.refl _)
      (tracesAt_importDeclaration hc hword) fun s c₁ _ hc₁ => ?_
    refine Traces.spanFrom (fun stop => ?_) hc₁
    refine .look (looks_spanFrom _) fun span => .pure (Node.among_iff.2 fun s => ?_)
    simp [Stmt.span]
  · exact Traces.bind hg.exportedDeclaration hdone hc

/-! ### Statements -/

/-- Decorators that were read can be held back for a class. -/
theorem Traced.held_decorators (hg : g.Traced) {c c₁ : Cursor} {marks : List Expr} (hc : c.Wf)
    (hok : g.decorators c = .ok marks c₁) : Cursor.Wf { c₁ with marks } := by
  obtain ⟨ts, hreach, hsites⟩ := hg.decorators hc hok
  refine { hreach.wf with waiting_le := fun hn t ht => ?_ }
  have hmem := (hsites hn).mem (List.mem_append_left _ ht)
  rw [List.nil_append] at hmem
  rcases List.mem_append.1 hmem with hmem | hmem
  · exact (hreach.within t hmem).2.2
  · exact Nat.le_trans (hc.waiting_le (hreach.clean hn) t hmem) hreach.prevStop_le

theorem Traced.decorated (hg : g.Traced) (position : Position) :
    Traces [] (g.decorated position) := by
  refine .look looks_here fun start c hc => .bindOf (.refl _) (hg.decorators hc) fun marks c₁ hok hc₁ => ?_
  rw [List.append_nil]
  refine .look (looks_seesWord _) fun b _ => ?_
  split
  · exact hg.classStatement position start marks hc₁
  · exact .holding (hg.held_decorators hc hok) (hg.stmt position)

theorem among_markPureDeclaration (s : Stmt) :
    Among (sitesOf (markPureDeclaration s)) (sitesOf s) := by
  unfold markPureDeclaration
  split
  · rename_i f
    refine Node.among_iff.2 fun s => ?_
    have := Node.count_sites (.stmt (.funcDecl f)) s
    simp [sitesOf_func_pure] at *
    omega
  · rename_i span d more
    refine Node.among_iff.2 fun s => ?_
    have := Node.count_sites (.stmt (.declare span .constant (d :: more))) s
    have := Node.count_sites (.declarator d) s
    have := Node.count_sites (.declarator { d with value := d.value.map markPureFunction }) s
    obtain ⟨place, target, _ | e⟩ := d
    · simp at *
      omega
    · have := among_markPureFunction e s
      simp at *
      omega
  · exact .refl _

theorem Traced.stmtOf (hg : g.Traced) (position : Position) : Traces [] (g.stmtOf position) := by
  intro c hc
  refine .token (.look looks_here fun start _ => ?_)
  split
  · split
    · have hblock : Traces [] (do
          let r ← g.blockStmts
          return Stmt.block r.1 r.2) := by
        refine .bind hg.blockStmts fun r => ?_
        obtain ⟨span, stmts⟩ := r
        exact .pure (Node.among_iff.2 fun s => by simp)
      exact hblock hc
    · have hempty : Traces [] (do
          let _ ← Parse.take
          return Stmt.empty (← spanFrom start)) := by
        refine .skip traces_take fun _ => .look (looks_spanFrom _) fun span => .pure ?_
        exact Node.among_iff.2 fun s => by simp
      exact hempty hc
    · exact hg.decorated position hc
    · exact hg.expressionOrLabel hc
  · -- statements that open with a word of their own
    rename_i hkind
    split
    · exact hg.ifStatement hc
    · exact hg.doStatement hc
    · exact hg.whileStatement hc
    · exact hg.forStatement hc
    · exact traces_jumpStatement (fun _ _ => Node.among_iff.2 fun s => by simp) hc
    · exact traces_jumpStatement (fun _ _ => Node.among_iff.2 fun s => by simp) hc
    · exact hg.withStatement hc
    · exact hg.switchStatement hc
    · exact hg.throwStatement hc
    · exact hg.tryStatement hc
    · have hdebugger : Traces [] (do
          let _ ← takeWord
          semicolon
          return Stmt.debugger (← spanFrom start)) := by
        refine .skip traces_takeWord fun _ => .skip traces_semicolon fun _ => ?_
        refine .look (looks_spanFrom _) fun span => .pure ?_
        exact Node.among_iff.2 fun s => by simp
      exact hdebugger hc
    · exact hg.classStatement position start [] hc
    · exact hg.functionStatement position hc
    · refine .look looks_seesFunction fun b _ => ?_
      exact Traces.ite (fun _ => hg.functionStatement position) (fun _ => hg.expressionOrLabel) hc
    · exact hg.returnStatement hc
    · rename_i hword
      refine .look looks_peek fun next _ => ?_
      split
      · exact hg.expressionOrLabel hc
      · exact tracesAt_importDeclaration hc (by simp [Token.isWord, hkind, hword])
    · rename_i hword
      exact hg.tracesAt_exportDeclaration hc (by simp [Token.isWord, hkind, hword])
    · refine .look (looks_letDeclares position) fun b _ => ?_
      refine Traces.ite (fun _ => ?_) (fun _ => hg.expressionOrLabel) hc
      exact hg.variableStatement _ _
    · refine .look looks_declareWord fun kind _ => ?_
      split
      · exact hg.variableStatement _ _ hc
      · exact hg.expressionOrLabel hc
  · exact hg.expressionOrLabel hc

theorem Traced.stmtRule (hg : g.Traced) (position : Position) :
    Traces [] (g.stmtRule position) := by
  refine .look looks_token fun t => .bind (hg.stmtOf position) fun s => .pure ?_
  rw [List.append_nil]
  by_cases h : t.noSideEffects = true
  · rw [if_pos h]
    exact among_markPureDeclaration s
  · rw [if_neg h]
    exact .refl _

end Grammar

end ModuleBundler
