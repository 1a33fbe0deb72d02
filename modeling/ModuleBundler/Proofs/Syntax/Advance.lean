/-
ModuleBundler/Proofs/Syntax/Advance.lean

Where a cursor stands.  A cursor that can be reached (`Cursor.Wf`) has its token behind
the one before and before what is left; the token is as long as it is written, and a
name or punctuator holds at least one character.  Moving on keeps that (`Cursor.Wf.advance`), and the
cursor does not get beyond the end of the text (`Cursor.horizon_advance`).
-/
import ModuleBundler.Syntax.Cursor
import ModuleBundler.Proofs.Syntax.Lexeme
import ModuleBundler.Proofs.Syntax.Sited

namespace ModuleBundler

/-! ### Cursors -/

namespace Cursor

/-- Where the current token begins. -/
def place (c : Cursor) : Nat := c.token.span.start

/-- The sites in the decorators that wait for a class. -/
def waiting (c : Cursor) : List Span := sitesOf c.marks

/-- The end of the text, as far as the cursor knows. -/
def horizon (c : Cursor) : Nat := c.pos + c.rest.length

structure Wf (c : Cursor) : Prop where
  prevStop_le : c.prevStop ≤ c.place
  stop_eq : c.token.span.stop = c.place + c.token.raw.length
  stop_le : c.token.span.stop ≤ c.pos
  raw_ne : c.token.kind.isSolid = true → c.token.raw ≠ []
  name_length : c.token.kind = .name → c.token.escaped = false →
    c.token.span.stop = c.place + c.token.text.length
  waiting_le : c.noted = [] → ∀ t ∈ c.waiting, t.stop ≤ c.prevStop

theorem marks_advance (c : Cursor) : c.advance.marks = c.marks := by
  simp only [advance]
  split <;> rfl

theorem waiting_advance (c : Cursor) : c.advance.waiting = c.waiting :=
  congrArg sitesOf c.marks_advance

theorem noted_advance (c : Cursor) : c.advance.noted = c.noted := by
  simp only [advance]
  split <;> rfl

theorem prevStop_advance (c : Cursor) : c.advance.prevStop = c.token.span.stop := by
  simp only [advance]
  split <;> rfl

/-- The cursor does not get further than the end of the text. -/
theorem horizon_advance (c : Cursor) : c.advance.horizon ≤ c.horizon := by
  have hgap := Gap.pos_scanFrom c.script
    (c.token.kind == .punctuator && (c.token.text == "=" || c.token.text == "(")) .blank
    { sawNewline := c.pos == 0, newline := c.pos == 0 } c.pos c.rest
  simp only [advance, horizon]
  generalize Gap.scanFrom _ _ _ _ _ _ = g at hgap ⊢
  split
  · simp only [List.length_nil]
    omega
  · have hscan := congrArg List.length (Lexeme.whole_scan g.rest)
    simp only [Scan.whole, List.length_append] at hscan
    show g.pos + (Lexeme.scan g.rest).raw.length + (Lexeme.scan g.rest).rest.length ≤ _
    omega

theorem pos_le_place_advance (c : Cursor) : c.pos ≤ c.advance.place := by
  simp only [advance, place]
  split <;> exact Gap.le_pos_scanFrom _ _ _ _ _ _

/-- A token ends where it begins or later. -/
theorem Wf.place_le {c : Cursor} (h : c.Wf) : c.place ≤ c.token.span.stop := by
  rw [h.stop_eq]
  exact Nat.le_add_right _ _

/-- A name or punctuator holds a character. -/
theorem Wf.place_lt {c : Cursor} (h : c.Wf) (hsolid : c.token.kind.isSolid = true) :
    c.place < c.token.span.stop := by
  rw [h.stop_eq]
  exact Nat.lt_add_of_pos_right (List.length_pos_of_ne_nil (h.raw_ne hsolid))

/-- The next token is placed behind the one before. -/
theorem Wf.advance {c : Cursor} (h : c.Wf) : c.advance.Wf where
  prevStop_le := by
    rw [prevStop_advance]
    exact Nat.le_trans h.stop_le c.pos_le_place_advance
  stop_eq := by
    simp only [Cursor.advance, place]
    split <;> rfl
  raw_ne := by
    simp only [Cursor.advance]
    split
    · exact fun h => Bool.noConfusion h
    · exact Lexeme.raw_scan_ne_nil
  stop_le := by
    simp only [Cursor.advance]
    split <;> exact Nat.le_refl _
  name_length := by
    simp only [Cursor.advance, place]
    split
    · rintro ⟨⟩
    · intro hkind hescaped
      exact congrArg _ (Lexeme.length_raw_scan hkind hescaped)
  waiting_le := by
    intro hn t ht
    rw [prevStop_advance]
    rw [noted_advance] at hn
    rw [waiting_advance] at ht
    -- what waits ended before the token that is taken
    have hprev := h.waiting_le hn t ht
    have := h.prevStop_le
    have := h.place_le
    omega

end Cursor

end ModuleBundler
