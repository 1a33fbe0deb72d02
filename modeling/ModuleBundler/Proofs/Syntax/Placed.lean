/-
ModuleBundler/Proofs/Syntax/Placed.lean

What the places in a syntax tree have to do with the text.  Each statement at the top
of a module has a stretch of the text of its own (`Stmt.Placed`): its sites lie in
there and share no character, and so does its span, if it is a declaration.  Between
the word `export` and what is exported nothing else stands, decorators aside, which
may come before the word; nothing of a default export stands behind its span.

That the tree of an accepted text is like this is proved in
`ModuleBundler.Proofs.Syntax.Grammar`.
-/
import ModuleBundler.Proofs.Syntax.Sites

namespace ModuleBundler

/-- What is inside an exported declaration begins behind the word `export` and at a place at most;
only decorators come before the word. -/
structure Span.Opens (hi : Nat) (span inner : Span) (sites : List Span) : Prop where
  start_lt : span.start < inner.start
  inner_le : inner.start ≤ hi
  apart : ∀ t ∈ sites, t.stop ≤ span.start ∨ inner.start ≤ t.start

/-- The fronts and ends of a statement that is done with at a place.  An exported type has no front
of its own. -/
structure Stmt.Fits (hi : Nat) (s : Stmt) : Prop where
  opens_decl : ∀ {span d}, s = .exportDecl span d → (∀ place, d ≠ .typeDecl place) →
    span.Opens hi d.span (Node.stmt d).sites
  opens_default : ∀ {span v}, s = .exportDefault span v →
    span.Opens hi v.span (Node.value v).sites
  closes_default : ∀ {span v}, s = .exportDefault span v →
    v.span.start ≤ v.span.stop ∧ v.span.stop ≤ span.stop ∧
      ∀ t ∈ (Node.value v).sites, t.stop ≤ v.span.stop

theorem Stmt.Fits.mono {hi hi' : Nat} {s : Stmt} (h : s.Fits hi) (hle : hi ≤ hi') : s.Fits hi' where
  opens_decl hs htype :=
    { h.opens_decl hs htype with inner_le := Nat.le_trans (h.opens_decl hs htype).inner_le hle }
  opens_default hs :=
    { h.opens_default hs with inner_le := Nat.le_trans (h.opens_default hs).inner_le hle }
  closes_default := h.closes_default

/-- A statement that stands between two places. -/
structure Stmt.Placed (lo hi : Nat) (s : Stmt) : Prop where
  le : lo ≤ hi
  apart : (Node.stmt s).sites.Pairwise Span.Apart
  within : ∀ t ∈ (Node.stmt s).sites, lo ≤ t.start ∧ t.start < t.stop ∧ t.stop ≤ hi
  span_within : s.isModuleDecl = true → s.span.start < s.span.stop ∧ s.span.stop ≤ hi
  fits : s.Fits hi

/-- Statements that stand one after the other, from one place to another. -/
inductive Stmt.AllPlaced (last : Nat) : Nat → List Stmt → Prop
  | nil {lo : Nat} : lo ≤ last → AllPlaced last lo []
  | cons {lo hi : Nat} {s : Stmt} {rest : List Stmt} :
      s.Placed lo hi → AllPlaced last hi rest → AllPlaced last lo (s :: rest)

namespace Stmt.AllPlaced

variable {lo hi last : Nat} {s : Stmt} {stmts : List Stmt}

theorem le (h : AllPlaced last lo stmts) : lo ≤ last := by
  induction h with
  | nil hle => exact hle
  | cons hfirst _ ih => exact Nat.le_trans hfirst.le ih

theorem mono (h : AllPlaced hi lo stmts) (hle : hi ≤ last) : AllPlaced last lo stmts := by
  induction h with
  | nil hlo => exact .nil (Nat.le_trans hlo hle)
  | cons hfirst _ ih => exact .cons hfirst ih

/-- One more statement, behind the others. -/
theorem concat (h : AllPlaced hi lo stmts) (hs : s.Placed hi last) :
    AllPlaced last lo (stmts ++ [s]) := by
  induction h with
  | nil hlo =>
      refine cons { hs with le := Nat.le_trans hlo hs.le, within := fun t ht => ?_ } ?_
      · exact ⟨Nat.le_trans hlo (hs.within t ht).1, (hs.within t ht).2⟩
      · exact .nil (Nat.le_refl _)
  | cons hfirst _ ih => exact .cons hfirst ih

theorem exists_placed (h : AllPlaced last lo stmts) (hs : s ∈ stmts) :
    ∃ lo' hi, s.Placed lo' hi ∧ lo ≤ lo' ∧ hi ≤ last := by
  induction h with
  | nil => exact absurd hs List.not_mem_nil
  | cons hfirst hrest ih =>
      rcases List.mem_cons.1 hs with rfl | hs
      · exact ⟨_, _, hfirst, Nat.le_refl _, hrest.le⟩
      · obtain ⟨lo', hi, hplaced, hlo, hhi⟩ := ih hs
        exact ⟨lo', hi, hplaced, Nat.le_trans hfirst.le hlo, hhi⟩

end Stmt.AllPlaced

/-- The tree of a module, as far as places go: all of them are places in the text, and those of the
statements lie behind a line that begins with `#!`. -/
def Program.IsPlaced (p : Program) : Prop :=
  ∃ lo, (∀ span ∈ p.hashbang, span.start ≤ span.stop ∧ span.stop ≤ lo) ∧
    Stmt.AllPlaced p.span.stop lo p.stmts

end ModuleBundler
