/-
ModuleBundler/Proofs/Syntax/Grammar/Level.lean

The grammar, its levels tied together, and whole texts.  What holds of a level holds of
the next one; what holds of the statements read so far (`Reading`) holds of all of them
when the text has ended.

Main result: `isPlaced_of_parse`.
-/
import ModuleBundler.Proofs.Syntax.Grammar.Declaration
import ModuleBundler.Syntax.Grammar

namespace ModuleBundler

open Parse

namespace Grammar

/-! ### Levels -/

theorem traced_level (n : Nat) : (level n).Traced := by
  induction n with
  | zero => exact traced_exhausted
  | succ n ih =>
      exact {
        expr := ih.exprRule
        assignment := ih.assignmentRule
        binary := ih.binaryRule
        unary := ih.unaryRule
        leftHand := ih.leftHandRule
        callee := ih.calleeRule
        pattern := ih.patternRule
        target := ih.toTarget
        stmt := ih.stmtRule
        type := ih.typeRule }

theorem placing_level (n : Nat) : (level n).Placing := by
  induction n with
  | zero =>
      exact {
        traced := traced_exhausted
        whole_assignment := .of_fails fails_unexpected
        takes_assignment := takes_unexpected
        stands := fun _ _ _ => .of_fails fails_unexpected }
  | succ n ih =>
      exact {
        traced := traced_level (n + 1)
        whole_assignment := whole_assignmentRule
        takes_assignment := takes_assignmentRule
        stands := ih.stands_stmtRule }

/-! ### Statements one after the other -/

variable {g : Grammar} {lo limit : Nat} {stmts : List Stmt} {c : Cursor}

/-- Statements that have been read from a place on in a text of some length. -/
structure Reading (lo limit : Nat) (stmts : List Stmt) (c : Cursor) : Prop where
  wf : c.Wf
  marks : c.marks = []
  horizon_le : c.horizon ≤ limit
  placed : c.noted = [] → ∃ last ≤ c.place, Stmt.AllPlaced last lo stmts

/-- A statement that was read stands between the place where it was begun and the one where the
parser stopped. -/
theorem Placing.placed (hg : g.Placing) (hc : c.Wf) (hmarks : c.marks = []) {last : Nat}
    (hlast : last ≤ c.place) {position : Position} {s : Stmt} {c' : Cursor}
    (hok : g.stmt position c = .ok s c') (hn : c'.noted = []) :
    s.Placed last (max last c'.prevStop) := by
  obtain ⟨ts, hreach, hsites⟩ := hg.traced.stmt position hc hok
  obtain ⟨hstop, hfits⟩ := hg.stands position hc hok hn
  -- no decorators wait, so all sites come from the tokens of the statement
  have hamong : Among (Node.stmt s).sites ts := by
    intro t
    have := hsites hn t
    have hwaiting : c.waiting = [] := by rw [Cursor.waiting, hmarks, sitesOf_nil]
    simp only [hwaiting, List.nil_append, List.append_nil, List.count_append] at this
    exact Nat.le_trans (Nat.le_add_right _ _) this
  have hwithin : ∀ t ∈ (Node.stmt s).sites,
      last ≤ t.start ∧ t.start < t.stop ∧ t.stop ≤ c'.prevStop := by
    intro t ht
    have := hreach.within t (hamong.mem ht)
    exact ⟨Nat.le_trans hlast this.1, this.2⟩
  have hhi : c'.prevStop ≤ max last c'.prevStop := Nat.le_max_right _ _
  exact {
    le := Nat.le_max_left _ _
    apart := hamong.pairwise (hreach.ordered.imp .inl)
    within := fun t ht => ⟨(hwithin t ht).1, (hwithin t ht).2.1, Nat.le_trans (hwithin t ht).2.2 hhi⟩
    span_within := by
      intro hdecl
      rw [hstop hdecl]
      obtain ⟨-, hlt, hle⟩ := hwithin _ (Node.word_mem_sites hdecl)
      exact ⟨Nat.lt_of_lt_of_le hlt hle, hhi⟩
    fits := hfits.mono hhi }

theorem Placing.reading_stmt (hg : g.Placing) (h : Reading lo limit stmts c) :
    Ensures (fun s c' => Reading lo limit stmts c' ∧ Reading lo limit (stmts ++ [s]) c')
      (g.stmt .listed) c := by
  intro s c' hok
  obtain ⟨ts, hreach, hsites⟩ := hg.traced.stmt .listed h.wf hok
  have hnext : ∀ stmts', (c'.noted = [] → ∃ last ≤ c'.place, Stmt.AllPlaced last lo stmts') →
      Reading lo limit stmts' c' := fun _ hplaced => {
    wf := hreach.wf
    marks := hreach.marks h.marks
    horizon_le := Nat.le_trans hreach.horizon_le h.horizon_le
    placed := hplaced }
  refine ⟨hnext _ fun hn => ?_, hnext _ fun hn => ?_⟩
  · obtain ⟨last, hlast, hplaced⟩ := h.placed (hreach.clean hn)
    exact ⟨last, Nat.le_trans hlast hreach.place_le, hplaced⟩
  · obtain ⟨last, hlast, hplaced⟩ := h.placed (hreach.clean hn)
    refine ⟨max last c'.prevStop, ?_, hplaced.concat (hg.placed h.wf h.marks hlast hok hn)⟩
    exact Nat.max_le.2 ⟨Nat.le_trans hlast hreach.place_le, hreach.wf.prevStop_le⟩

theorem Placing.reading_statements (hg : g.Placing) (h : Reading lo limit [] c) :
    Ensures (fun r c' => Reading lo limit r.2 c') (g.statements false) c := by
  refine .repeating (I := fun s c => Reading lo limit s.2.1.reverse c) (fun s c h => ?_) h
  obtain ⟨directives, taken, heading⟩ := s
  refine .look looks_token fun t _ => .ite (.pure h) (.bind (hg.reading_stmt h) fun s c₁ hs => ?_)
  have hmore : Reading lo limit (s :: taken).reverse c₁ := by
    rw [List.reverse_cons]
    exact hs.2
  split
  · exact .ite (.pure hs.1) (.pure hmore)
  · exact .pure hmore

/-- At the beginning of a text nothing has been read. -/
theorem reading_start (script : Bool) (skipped : Nat) (text : List Char) :
    Reading skipped (skipped + text.length) [] (Cursor.start script skipped text) := by
  obtain ⟨c, hstart, hwf, hmarks, hhorizon, hpos⟩ : ∃ c : Cursor,
      Cursor.start script skipped text = c.advance ∧ c.Wf ∧ c.marks = [] ∧
        c.horizon = skipped + text.length ∧ c.pos = skipped := by
    refine ⟨_, rfl, ?_, rfl, rfl, rfl⟩
    exact {
      prevStop_le := Nat.le_refl _
      stop_eq := rfl
      stop_le := Nat.zero_le _
      raw_ne := fun h => Bool.noConfusion h
      name_length := fun h => nomatch h
      waiting_le := fun _ _ h => absurd h List.not_mem_nil }
  rw [hstart]
  exact {
    wf := hwf.advance
    marks := c.marks_advance.trans hmarks
    horizon_le := Nat.le_trans c.horizon_advance (Nat.le_of_eq hhorizon)
    placed := fun _ => ⟨skipped, hpos ▸ c.pos_le_place_advance, .nil (Nat.le_refl _)⟩ }

end Grammar

/-! ### Whole texts -/

/-- What is computed of an accepted text. -/
theorem Program.exists_parsed {α : Type} {a : α} (f : Parsed → α) (script : Bool)
    (text : List Char) (h : (parse script text).toOption.map f = some a) :
    ∃ parsed, parse script text = .ok parsed ∧ f parsed = a := by
  rcases hparse : parse script text with ds | parsed
  · rw [hparse] at h
    cases h
  · rw [hparse] at h
    exact ⟨parsed, rfl, Option.some.inj h⟩

theorem Program.hashbangLength_le (text : List Char) : hashbangLength text ≤ text.length := by
  unfold hashbangLength
  split
  · rename_i rest
    have := (rest.takeWhile_sublist fun c => !isLineEnd c).length_le
    simp only [List.length_cons]
    omega
  · exact Nat.zero_le _

/-- An accepted text has been read to its end without a diagnostic, and exports nothing twice. -/
theorem Program.exists_statements {script : Bool} {text : List Char} {parsed : Parsed}
    (h : parse script text = .ok parsed) : ∃ directives stmts c,
      Grammar.statements (Grammar.level (8 * text.length + 64)) false
        (Cursor.start script (hashbangLength text) (text.drop (hashbangLength text))) =
          .ok (directives, stmts) c ∧
      c.noted = [] ∧ duplicateExports stmts = [] ∧
      parsed.program = ⟨⟨0, text.length⟩,
        if hashbangLength text = 0 then none else some ⟨0, hashbangLength text⟩, directives, stmts⟩ := by
  simp only [parse] at h
  split at h
  · cases h
  rename_i directives stmts c hok
  split at h
  · rename_i hempty
    simp only [Cursor.report, List.isEmpty_iff, List.append_eq_nil_iff,
      List.reverse_eq_nil_iff] at hempty
    cases h
    exact ⟨directives, stmts, c, hok, hempty.1.1.2, hempty.2, rfl⟩
  · cases h

theorem Program.span_of_parse {script : Bool} {text : List Char} {parsed : Parsed}
    (h : parse script text = .ok parsed) : parsed.program.span = ⟨0, text.length⟩ := by
  obtain ⟨directives, stmts, c, -, -, -, hprogram⟩ := exists_statements h
  rw [hprogram]

/-- **The places in the tree of an accepted text are where they should be.** -/
theorem Program.isPlaced_of_parse {script : Bool} {text : List Char} {parsed : Parsed}
    (h : parse script text = .ok parsed) : parsed.program.IsPlaced := by
  have hskipped := hashbangLength_le text
  have hstart := Grammar.reading_start script (hashbangLength text) (text.drop (hashbangLength text))
  rw [List.length_drop, Nat.add_sub_cancel' hskipped] at hstart
  obtain ⟨directives, stmts, c, hok, hnoted, -, hprogram⟩ := exists_statements h
  have hread := (Grammar.placing_level _).reading_statements hstart hok
  obtain ⟨last, hlast, hplaced⟩ := hread.placed hnoted
  rw [hprogram]
  refine ⟨hashbangLength text, fun span hspan => ?_, hplaced.mono ?_⟩
  · by_cases hnone : hashbangLength text = 0
    · simp only [if_pos hnone] at hspan
      cases hspan
    · simp only [if_neg hnone] at hspan
      cases hspan
      exact ⟨Nat.zero_le _, Nat.le_refl _⟩
  · -- the last token ends in the text
    have hpos : c.pos ≤ c.horizon := Nat.le_add_right _ _
    have := hread.wf.place_le
    have := hread.wf.stop_le
    have := hread.horizon_le
    show last ≤ text.length
    omega

end ModuleBundler
