/-
ModuleBundler/Proofs/Module/Body.lean

The body of a script is the text of its module with the edits carried out.  However the
edits were recorded, there is one order for them, in which none begins before the one
before it has ended, and each is carried out once (`edits_carried_out`).  So the body has
a piece for each statement of the module (`statements_become`).

The names in a statement that is left in the script become what they should.  A reference
that resolves to an import at the top of the module (`Program.Resolves`) becomes the text
that reads the import; any other name stays as it is (`names_become`).
-/
import ModuleBundler.Proofs.Module.Edits
import ModuleBundler.Proofs.Module.Reads
import ModuleBundler.Proofs.Syntax.Grammar.Level

namespace ModuleBundler

namespace Program

variable {text : List Char} {parsed : Parsed}

/-- **The body of a script is the text of its module with each edit carried out once.** -/
theorem edits_carried_out (h : parse false text = .ok parsed) {es : List Edit}
    (hes : es.Perm parsed.program.edits) :
    (Edit.inOrder es).Perm parsed.program.edits ∧
      Edit.Disjoint (Edit.inOrder es) 0 ∧
      Edit.Replaced (Edit.inOrder es) 0 text (Edit.applyAll es text) ∧
      Edit.applyAll es text = parsed.program.scriptBody text := by
  have hfit := fit_edits (isPlaced_of_parse h)
  rw [span_of_parse h] at hfit
  have hfit' := hfit.perm hes
  refine ⟨(Edit.inOrder_perm es).trans hes, hfit'.disjoint, hfit'.replaced, ?_⟩
  rw [Edit.applyAll, scriptBody, Edit.applyAll, hfit.inOrder_eq hes]

/-- The edits of a module may be recorded the other way round. -/
theorem edits_carried_out_reverse : ∃ parsed,
    parse false "import \x7b a \x7d from './a.js';\nexport default a".toList = .ok parsed ∧
      parsed.program.edits.length = 4 ∧
      Edit.Disjoint (Edit.inOrder parsed.program.edits.reverse) 0 ∧
      Edit.applyAll parsed.program.edits.reverse
        "import \x7b a \x7d from './a.js';\nexport default a".toList =
          ";\nexports.default = __parcela_dep_0.a;".toList := by
  obtain ⟨parsed, hparse, hedits⟩ := exists_parsed
    (a := (4, ";\nexports.default = __parcela_dep_0.a;".toList))
    (fun parsed => (parsed.program.edits.length,
      parsed.program.scriptBody "import \x7b a \x7d from './a.js';\nexport default a".toList)) false
    "import \x7b a \x7d from './a.js';\nexport default a".toList (by decide +kernel)
  obtain ⟨hlength, hbody⟩ := Prod.mk.inj hedits
  obtain ⟨-, hdisjoint, -, hbody'⟩ := edits_carried_out hparse (List.reverse_perm _)
  exact ⟨parsed, hparse, hlength, hdisjoint, hbody'.trans hbody⟩

end Program

/-! ### Statements -/

namespace Stmt

variable {l : Link} {scope : Scope} {text : List Char} {s : Stmt} {stmts : List Stmt}
  {lo hi last : Nat}

/-- What the stretch of a statement becomes. -/
def piece (s : Stmt) (l : Link) (scope : Scope) (text : List Char) (lo hi : Nat) : List Char :=
  Edit.apply (Edit.inOrder (l.contribution scope s).edits) lo (Edit.slice text ⟨lo, hi⟩)

/-- What the statements of a module become from a place on: a piece for each, in their order, and
what stands behind the last. -/
inductive Pieces (l : Link) (scope : Scope) (text : List Char) : Nat → List Stmt → List Char → Prop
  | nil {lo : Nat} : Pieces l scope text lo [] (text.drop lo)
  | cons {lo hi : Nat} {s : Stmt} {rest : List Stmt} {out : List Char} :
      s.Placed lo hi → Pieces l scope text hi rest out →
      Pieces l scope text lo (s :: rest) (s.piece l scope text lo hi ++ out)

/-- The edits of statements that stand one after the other. -/
theorem AllPlaced.fit_edits (h : AllPlaced last lo stmts) (l : Link) (scope : Scope) :
    Edit.Fit last (stmts.flatMap fun s => (l.contribution scope s).edits) ∧
      ∀ e ∈ stmts.flatMap fun s => (l.contribution scope s).edits,
        lo ≤ e.span.start ∧ lo < e.span.stop := by
  obtain ⟨hfit, hwithin⟩ := h.fit_places
  have hsub : ((stmts.flatMap fun s => (l.contribution scope s).edits).map (·.span)).Sublist
      (stmts.flatMap places) := by
    rw [List.map_flatMap]
    refine List.Sublist.flatMap_right _ fun s _ => ?_
    exact (s.edits_sublist_edited l scope).trans (List.sublist_append_left _ _)
  exact ⟨Edit.fit_of_spans hfit hsub,
    fun e he => hwithin e.span (hsub.subset (List.mem_map_of_mem he))⟩

theorem AllPlaced.pieces (h : AllPlaced last lo stmts) :
    Pieces l scope text lo stmts
      (Edit.apply (Edit.inOrder (stmts.flatMap fun s => (l.contribution scope s).edits)) lo
        (text.drop lo)) := by
  induction h with
  | nil => exact .nil
  | @cons lo hi s rest hfirst hrest ih =>
      obtain ⟨hfit, -⟩ := (AllPlaced.cons hfirst hrest).fit_edits l scope
      obtain ⟨-, hbehind⟩ := hrest.fit_edits l scope
      obtain ⟨hfitFirst, hwithin⟩ :=
        (AllPlaced.cons hfirst (.nil (Nat.le_refl hi))).fit_edits l scope
      rw [List.flatMap_cons] at hfit ⊢
      rw [List.flatMap_singleton] at hfitFirst hwithin
      -- no edit crosses the place where the first statement ends
      rw [hfit.apply_inOrder_append hfirst.le
        (fun e he => ⟨(hwithin e he).1, hfitFirst.stop_le e he⟩) hbehind, List.drop_drop,
        Nat.add_sub_cancel' hfirst.le]
      exact .cons hfirst ih

end Stmt

namespace Program

variable {text : List Char} {parsed : Parsed}

/-- The body of a script is that of its first line, then a piece for each statement. -/
theorem exists_pieces {p : Program} (hp : p.IsPlaced) (text : List Char) :
    ∃ lo rest, Stmt.Pieces (.ofProgram p) p.scope text lo p.stmts rest ∧
      p.scriptBody text =
        Edit.applyAll (p.hashbang.toList.map (.ofString · "")) (text.take lo) ++ rest := by
  have hfit := fit_edits hp
  obtain ⟨lo, hhashbang, hall⟩ := hp
  obtain ⟨-, hbehind⟩ := hall.fit_edits (.ofProgram p) p.scope
  refine ⟨lo, _, hall.pieces, ?_⟩
  have hsplit : p.edits = p.hashbang.toList.map (.ofString · "") ++
      p.stmts.flatMap fun s => ((Link.ofProgram p).contribution p.scope s).edits := by
    rw [edits, contributions, List.flatMap_map]
  rw [hsplit] at hfit
  rw [scriptBody, hsplit, Edit.applyAll,
    hfit.apply_inOrder_append (Nat.zero_le lo) (fun e he => ?_) hbehind, Nat.sub_zero,
    Edit.applyAll]
  obtain ⟨span, hspan, rfl⟩ := List.mem_map.1 he
  exact ⟨Nat.zero_le _, (hhashbang span (Option.mem_toList.1 hspan)).2⟩

/-- **The body of a script has a piece for each statement of its module, in their order.**  In it a
statement that is taken out becomes a semicolon, and what is exported loses the words before it, or
is assigned. -/
theorem statements_become (h : parse false text = .ok parsed) :
    (∃ lo rest, Stmt.Pieces (.ofProgram parsed.program) parsed.program.scope text lo
        parsed.program.stmts rest ∧
      parsed.program.scriptBody text =
        Edit.applyAll (parsed.program.hashbang.toList.map (.ofString · "")) (text.take lo) ++ rest) ∧
    (∀ s ∈ parsed.program.stmts, s.isRemoved = true →
      Edit.Becomes parsed.program.edits text s.span [';']) ∧
    ∀ s ∈ parsed.program.stmts, s.isRemoved = false → ∀ e ∈ s.rim,
      Edit.Becomes parsed.program.edits text e.span e.text := by
  have hp := isPlaced_of_parse h
  have hfit := fit_edits hp
  refine ⟨exists_pieces hp text, fun s hs hremoved => ?_, fun s hs hkept e he => ?_⟩
  · refine hfit.becomes_of_mem (e := .removal s.span) (mem_edits.2 (.inr ⟨s, hs, ?_⟩))
    rw [Stmt.edits_contribution, if_pos hremoved]
    exact List.mem_singleton_self _
  · refine hfit.becomes_of_mem (mem_edits.2 (.inr ⟨s, hs, ?_⟩))
    rw [Stmt.edits_contribution, hkept]
    exact List.mem_append_left _ he

/-- A call of an imported function is joined to the statement before it, if there is but a line end
between the two.  Of the three statements of the module, two are left in the script behind the two
of its head. -/
example :
    let text := "import \x7b f \x7d from './f.js';\nlet a = 1\nf()".toList
    (parse false text).toOption.map (fun parsed => (parsed.program.stmts.length,
      (parse true (parsed.program.script text).toList).toOption.map (·.program.stmts.length))) =
        some (3, some 4) := by
  decide +kernel

end Program

/-! ### Names -/

/-- The text that takes the place of a reference that is read as the text tells. -/
def Reference.written (r : Reference) (read : String) : String :=
  match r.role with
  | .plain => read
  | .shorthand => r.id.name ++ ": " ++ read
  | .callee => "(0, " ++ read ++ ")"

/-- A reference resolves to an import at the top of the module: the innermost frame that declares
the name is that of the module, and there the name means the import. -/
structure Program.Resolves (p : Program) (r : Reference) (k : Nat) (source : String)
    (spec : ImportSpec) : Prop where
  home : ∃ frame, r.home = some frame ∧ frame.kind = .program
  imports : p.Imports r.id.name k source spec

theorem Program.readOf?_eq_some {p : Program} {r : Reference} {read : String} :
    (Link.ofProgram p).readOf? r = some read ↔
      ∃ k source spec, p.Resolves r k source spec ∧ read = Link.readOf (temporary k) spec := by
  constructor
  · intro h
    unfold Link.readOf? at h
    split at h
    · rename_i frame hhome
      split at h
      · rename_i hkind
        obtain ⟨k, source, spec, himports, hread⟩ := read?_ofProgram.1 h
        exact ⟨k, source, spec, ⟨⟨frame, hhome, hkind⟩, himports⟩, hread⟩
      · cases h
    · cases h
  · rintro ⟨k, source, spec, ⟨⟨frame, hhome, hkind⟩, himports⟩, hread⟩
    simp only [Link.readOf?, hhome, if_pos hkind]
    exact read?_ofProgram.2 ⟨k, source, spec, himports, hread⟩

/-! ### What is left of a statement -/

namespace Stmt

variable {s : Stmt} {lo hi : Nat} {l : Link} {scope : Scope}

theorem references_inner (scope : Scope) (s : Stmt) :
    s.inner.references scope = (Node.stmt s).references scope := by
  cases s with
  | exportDecl span d =>
      rw [Node.references_eq (n := .stmt (.exportDecl span d))]
      simp [inner, Node.own, Node.framed, Node.stmtParts, Node.under]
  | exportDefault span v =>
      rw [Node.references_eq (n := .stmt (.exportDefault span v))]
      simp [inner, Node.own, Node.framed, Node.stmtParts, Node.under]
  | _ => rfl

theorem allIdents_inner (s : Stmt) : s.inner.allIdents = (Node.stmt s).allIdents := by
  have hpart : ∀ (n m : Node) (frames : List Frame), n.framed = [(frames, m)] → n.idents = [] →
      m.allIdents = n.allIdents := by
    intro n m frames hframed hidents
    rw [Node.allIdents, Node.allIdents, n.descendants_eq, hframed, List.flatMap_cons, hidents]
    simp
  cases s with
  | exportDecl span d => exact hpart (.stmt (.exportDecl span d)) _ [] rfl rfl
  | exportDefault span v => exact hpart (.stmt (.exportDefault span v)) _ [] rfl rfl
  | _ => rfl

/-- A name that no edit is for lies apart from the edits of its statement. -/
theorem Placed.ahead_of_mem_edits (hs : s.Placed lo hi) (hkept : s.isRemoved = false) {id : Ident}
    (hid : id ∈ s.inner.allIdents)
    (hfree : ∀ r ∈ s.inner.references scope, l.readOf? r ≠ none → r.id ≠ id) {e : Edit}
    (he : e ∈ (l.contribution scope s).edits) : e.span.Ahead id.span ∨ id.span.Ahead e.span := by
  have hfit := (hs.fit_kept hkept).perm
    ((List.Perm.refl _).append s.inner.sites_perm.symm)
  rw [← List.append_assoc] at hfit
  obtain ⟨hnames, -, -⟩ := List.pairwise_append.1 hfit.apart
  obtain ⟨-, hinner, hrim⟩ := List.pairwise_append.1 hnames
  -- the names in a statement lie apart from each other and from its rim
  have hspan : id.span ∈ s.inner.names :=
    s.inner.map_span_allIdents ▸ List.mem_map_of_mem hid
  rw [edits_contribution, hkept] at he
  rcases List.mem_append.1 he with he | he
  · exact hrim e.span (List.mem_map_of_mem he) _ hspan
  · obtain ⟨r, hr, hedit⟩ := List.mem_filterMap.1 he
    obtain ⟨read, hread, rfl⟩ := Option.map_eq_some_iff.1 hedit
    have hne := hfree r hr (by rw [hread]; exact Option.some_ne_none _)
    have hmem : r.id ∈ s.inner.allIdents :=
      (s.inner.references_sublist_allIdents scope).subset (List.mem_map_of_mem hr)
    rw [← s.inner.map_span_allIdents, List.pairwise_map] at hinner
    have : Std.Symm fun a b : Ident => a.span.Ahead b.span ∨ b.span.Ahead a.span :=
      ⟨fun _ _ h => h.symm⟩
    exact hinner.forall hmem hid hne

end Stmt

/-! ### Names in the body -/

namespace Program

variable {p : Program} {s t : Stmt}

/-- Places of different statements lie apart. -/
theorem ahead_of_ne (hp : p.IsPlaced) (hs : s ∈ p.stmts) (ht : t ∈ p.stmts) (hne : s ≠ t)
    {u v : Span} (hu : u ∈ s.edited) (hv : v ∈ t.edited) : u.Ahead v ∨ v.Ahead u := by
  have hedited := (List.pairwise_append.1 (fit_places hp).apart).1
  have hstmts := (List.pairwise_flatMap.1 (List.pairwise_append.1 hedited).2.1).2
  have : Std.Symm fun a b : Stmt =>
      ∀ x ∈ a.edited, ∀ y ∈ b.edited, x.Ahead y ∨ y.Ahead x :=
    ⟨fun _ _ h x hx y hy => (h y hy x hx).symm⟩
  exact hstmts.forall hs ht hne u hu v hv

/-- A name that no edit is for lies apart from all edits. -/
theorem ahead_of_mem_edits (hp : p.IsPlaced) (hs : s ∈ p.stmts) (hkept : s.isRemoved = false)
    {id : Ident} (hid : id ∈ s.inner.allIdents)
    (hfree : ∀ r ∈ s.inner.references p.scope, (Link.ofProgram p).readOf? r ≠ none → r.id ≠ id)
    {e : Edit} (he : e ∈ p.edits) : e.span.Ahead id.span ∨ id.span.Ahead e.span := by
  have hspan : id.span ∈ s.edited := by
    rw [Stmt.edited, hkept]
    exact List.mem_append_right _ (s.inner.map_span_allIdents ▸ List.mem_map_of_mem hid)
  rcases mem_edits.1 he with ⟨span, hspan', rfl⟩ | ⟨t, ht, he⟩
  · have hedited := (List.pairwise_append.1 (fit_places hp).apart).1
    have hcross := (List.pairwise_append.1 hedited).2.2
    exact hcross span (Option.mem_toList.2 hspan') _ (List.mem_flatMap.2 ⟨s, hs, hspan⟩)
  · by_cases hne : t = s
    · subst hne
      obtain ⟨lo, -, hall⟩ := hp
      obtain ⟨lo', hi', hplaced, -⟩ := hall.exists_placed hs
      exact hplaced.ahead_of_mem_edits hkept hid hfree he
    · refine ahead_of_ne hp ht hs hne ?_ hspan
      exact (t.edits_sublist_edited _ _).subset (List.mem_map_of_mem he)

/-- **Each name in what is left of a module becomes what it should.**  A reference that resolves to
an import becomes the text that reads the import through the temporary of its own declaration; any
other name stays as it is. -/
theorem names_become {text : List Char} {parsed : Parsed} (h : parse false text = .ok parsed)
    (hs : s ∈ parsed.program.stmts) (hkept : s.isRemoved = false) :
    (∀ r ∈ (Node.stmt s).references parsed.program.scope, ∀ k source spec,
      parsed.program.Resolves r k source spec →
        .bound k source ∈ (Link.ofProgram parsed.program).requirements ∧
        Edit.Becomes parsed.program.edits text r.id.span
          (r.written (Link.readOf (temporary k) spec)).toList) ∧
    ∀ id ∈ (Node.stmt s).allIdents,
      (∀ r ∈ (Node.stmt s).references parsed.program.scope, ∀ k source spec,
        parsed.program.Resolves r k source spec → r.id ≠ id) →
      Edit.Becomes parsed.program.edits text id.span (Edit.slice text id.span) := by
  have hp := isPlaced_of_parse h
  have hfit := fit_edits hp
  rw [← s.references_inner, ← s.allIdents_inner]
  constructor
  · intro r hr k source spec hresolves
    refine ⟨bound_mem_requirements hresolves.imports, ?_⟩
    have hread := readOf?_eq_some.2 ⟨k, source, spec, hresolves, rfl⟩
    refine hfit.becomes_of_mem
      (e := .ofString r.id.span (r.written (Link.readOf (temporary k) spec))) ?_
    refine mem_edits.2 (.inr ⟨s, hs, ?_⟩)
    rw [Stmt.edits_contribution, hkept]
    refine List.mem_append_right _ (List.mem_filterMap.2 ⟨r, hr, ?_⟩)
    rw [Link.edit?, hread]
    rfl
  · intro id hid hfree
    have hspan : id.span ∈ parsed.program.edited := by
      refine List.mem_append_right _ (List.mem_flatMap.2 ⟨s, hs, ?_⟩)
      rw [Stmt.edited, hkept]
      exact List.mem_append_right _ (s.inner.map_span_allIdents ▸ List.mem_map_of_mem hid)
    -- the name keeps its text, as it lies apart from all that is edited
    have hle := (fit_places hp).start_le _ (List.mem_append_left _ hspan)
    refine hfit.becomes_of_ahead hle fun e he => ahead_of_mem_edits hp hs hkept hid ?_ he
    intro r hr hread
    obtain ⟨read, hread⟩ := Option.ne_none_iff_exists'.1 hread
    obtain ⟨k, source, spec, hresolves, -⟩ := readOf?_eq_some.1 hread
    exact hfree r hr k source spec hresolves

/-- A call of an imported function reads it through the temporary. -/
theorem names_become_of_call : ∃ parsed,
    parse false "import \x7b f \x7d from './f.js';\nf(1)".toList = .ok parsed ∧
      ∃ s ∈ parsed.program.stmts, ∃ r ∈ (Node.stmt s).references parsed.program.scope,
        Edit.Becomes parsed.program.edits "import \x7b f \x7d from './f.js';\nf(1)".toList r.id.span
          "(0, __parcela_dep_0.f)".toList := by
  obtain ⟨parsed, hparse, hstmts⟩ := exists_parsed (a := true)
    (fun parsed => parsed.program.stmts.any fun s => !s.isRemoved &&
      ((Node.stmt s).references parsed.program.scope).any fun r =>
        (Link.ofProgram parsed.program).readOf? r == some "__parcela_dep_0.f" &&
          decide (r.role = .callee)) false
    "import \x7b f \x7d from './f.js';\nf(1)".toList (by decide +kernel)
  obtain ⟨s, hs, hcall⟩ := List.any_eq_true.1 hstmts
  obtain ⟨hkept, hcall⟩ := Bool.and_eq_true_iff.1 hcall
  obtain ⟨r, hr, hcall⟩ := List.any_eq_true.1 hcall
  obtain ⟨hread, hrole⟩ := Bool.and_eq_true_iff.1 hcall
  obtain ⟨k, source, spec, hresolves, htext⟩ := readOf?_eq_some.1 (eq_of_beq hread)
  have hbecomes := (names_become hparse hs (by simpa using hkept)).1 r hr k source spec hresolves
  refine ⟨parsed, hparse, s, hs, r, hr, ?_⟩
  have hwritten : r.written (Link.readOf (temporary k) spec) = "(0, __parcela_dep_0.f)" := by
    rw [← htext, Reference.written, of_decide_eq_true hrole]
    rfl
  exact hwritten ▸ hbecomes.2

/-- An import in a block is bound there, and its uses stay as they are. -/
theorem nested_import_stays : ∃ parsed,
    parse false "\x7b import \x7b a \x7d from './a.js'; a; \x7d".toList = .ok parsed ∧
      (parsed.program.stmts.flatMap fun s =>
        ((Node.stmt s).references parsed.program.scope).map fun r =>
          (r.id.name, r.home.map (·.kind))) = [("a", some .block)] ∧
      parsed.program.scriptBody "\x7b import \x7b a \x7d from './a.js'; a; \x7d".toList =
        "\x7b import \x7b a \x7d from './a.js'; a; \x7d".toList := by
  obtain ⟨parsed, hparse, hbody⟩ := exists_parsed
    (a := ([("a", some .block)], "\x7b import \x7b a \x7d from './a.js'; a; \x7d".toList))
    (fun parsed => (parsed.program.stmts.flatMap fun s =>
        ((Node.stmt s).references parsed.program.scope).map fun r =>
          (r.id.name, r.home.map (·.kind)),
      parsed.program.scriptBody "\x7b import \x7b a \x7d from './a.js'; a; \x7d".toList)) false
    "\x7b import \x7b a \x7d from './a.js'; a; \x7d".toList (by decide +kernel)
  exact ⟨parsed, hparse, Prod.mk.inj hbody⟩

end Program

end ModuleBundler
