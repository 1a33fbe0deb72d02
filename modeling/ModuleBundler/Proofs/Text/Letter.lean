/-
ModuleBundler/Proofs/Text/Letter.lean

Letters and numbers beside the characters of identifiers.  Both are classes of Unicode given by
tables of ranges, and neither contains the other: a mark that joins a letter can stand in an
identifier and is no letter, and a superscript or an enclosed letter is a number or a letter that
cannot stand in an identifier.  The characters of the second kind are listed here
(`strayLetters`, `strayNumbers`).

That there are no others (`isStray_iff`) is decided on the tables.  The ranges of the list and those
of identifiers are put together in order (`Char.merge`): no two of them meet, so nothing is in both,
and each range of letters or numbers lies in one of them, those that touch made one.
-/
import ModuleBundler.Proofs.Syntax.Lexeme
import ModuleBundler.Text.Letter

namespace ModuleBundler

/-! ### Tables of ranges -/

namespace Char

variable {rs qs : List (Nat × Nat)} {r q : Nat × Nat} {n : Nat} {c : Char}

/-- Puts a range before the first that begins behind it, and goes on with `more` there. -/
def insertBefore (r : Nat × Nat) (more : List (Nat × Nat) → List (Nat × Nat)) :
    List (Nat × Nat) → List (Nat × Nat)
  | [] => r :: more []
  | q :: qs => if r.1 ≤ q.1 then r :: more (q :: qs) else q :: insertBefore r more qs

/-- The ranges of two tables in order. -/
def merge : List (Nat × Nat) → List (Nat × Nat) → List (Nat × Nat)
  | [], qs => qs
  | r :: rs, qs => insertBefore r (merge rs) qs

theorem perm_insertBefore {more : List (Nat × Nat) → List (Nat × Nat)}
    (h : ∀ qs, (more qs).Perm (rs ++ qs)) (qs : List (Nat × Nat)) :
    (insertBefore r more qs).Perm (r :: rs ++ qs) := by
  induction qs with
  | nil => exact (h []).cons r
  | cons q qs ih =>
      rw [insertBefore]
      split
      · exact (h (q :: qs)).cons r
      · exact (ih.cons q).trans List.perm_middle.symm

theorem perm_merge (rs qs : List (Nat × Nat)) : (merge rs qs).Perm (rs ++ qs) := by
  induction rs generalizing qs with
  | nil => exact List.Perm.refl qs
  | cons r rs ih => exact perm_insertBefore ih qs

/-- Each range ends where it begins or later, and before the next begins. -/
def apart : List (Nat × Nat) → Bool
  | [] | [_] => true
  | r :: s :: rest => r.2 < s.1 && s.1 ≤ s.2 && apart (s :: rest)

theorem lt_of_apart (h : apart (r :: rs) = true) : ∀ s ∈ rs, r.2 < s.1 := by
  induction rs generalizing r with
  | nil => exact fun s hs => absurd hs List.not_mem_nil
  | cons t rs ih =>
      simp only [apart, Bool.and_eq_true, decide_eq_true_eq] at h
      obtain ⟨⟨hlt, hle⟩, hrest⟩ := h
      refine List.forall_mem_cons.2 ⟨hlt, fun s hs => ?_⟩
      have := ih hrest s hs
      omega

theorem apart_tail (h : apart (r :: rs) = true) : apart rs = true := by
  cases rs with
  | nil => rfl
  | cons s rs => exact (Bool.and_eq_true_iff.1 h).2

/-- Where the ranges of two tables do not meet, no character lies in both. -/
theorem inRanges_eq_false_of_apart (h : apart (merge rs qs) = true) (hc : inRanges rs c = true) :
    inRanges qs c = false := by
  have hpairwise : (merge rs qs).Pairwise fun r s => r.2 < s.1 ∨ s.2 < r.1 := by
    generalize merge rs qs = ranges at h
    induction ranges with
    | nil => exact List.Pairwise.nil
    | cons r ranges ih =>
        exact List.pairwise_cons.2 ⟨fun s hs => .inl (lt_of_apart h s hs), ih (apart_tail h)⟩
  have happend := ((perm_merge rs qs).pairwise_iff fun {r s} h => h.symm).1 hpairwise
  obtain ⟨r, hr, hlo, hhi⟩ := inRanges_iff.1 hc
  refine Bool.eq_false_iff.2 fun hq => ?_
  obtain ⟨q, hq, hqlo, hqhi⟩ := inRanges_iff.1 hq
  have := (List.pairwise_append.1 happend).2.2 r hr q hq
  omega

/-- A range, and those behind it, put together with what touches them. -/
def fuseFrom (r : Nat × Nat) : List (Nat × Nat) → List (Nat × Nat)
  | [] => [r]
  | s :: rest => if s.1 ≤ r.2 + 1 then fuseFrom (r.1, max r.2 s.2) rest else r :: fuseFrom s rest

/-- Ranges in order, those that touch made one. -/
def fuse : List (Nat × Nat) → List (Nat × Nat)
  | [] => []
  | r :: rest => fuseFrom r rest

theorem exists_of_mem_fuseFrom (hq : q ∈ fuseFrom r rs) (hlo : q.1 ≤ n) (hhi : n ≤ q.2) :
    ∃ s ∈ r :: rs, s.1 ≤ n ∧ n ≤ s.2 := by
  induction rs generalizing r with
  | nil => exact ⟨q, hq, hlo, hhi⟩
  | cons s rs ih =>
      rw [fuseFrom] at hq
      split at hq
      next htouch =>
        obtain ⟨t, ht, htlo, hthi⟩ := ih hq
        rcases List.mem_cons.1 ht with rfl | ht
        · -- between two ranges that touch there is no number
          by_cases hn : n ≤ r.2
          · exact ⟨r, List.mem_cons_self, htlo, hn⟩
          · have hthi : n ≤ max r.2 s.2 := hthi
            exact ⟨s, List.mem_cons_of_mem r List.mem_cons_self, by omega, by omega⟩
        · exact ⟨t, List.mem_cons_of_mem r (List.mem_cons_of_mem s ht), htlo, hthi⟩
      next =>
        rcases List.mem_cons.1 hq with rfl | hq
        · exact ⟨q, List.mem_cons_self, hlo, hhi⟩
        · obtain ⟨t, ht, hbounds⟩ := ih hq
          exact ⟨t, List.mem_cons_of_mem r ht, hbounds⟩

/-- What lies in a range of those put together lies in one of them. -/
theorem inRanges_of_fuse (h : inRanges (fuse rs) c = true) : inRanges rs c = true := by
  obtain ⟨q, hq, hlo, hhi⟩ := inRanges_iff.1 h
  cases rs with
  | nil => exact absurd hq List.not_mem_nil
  | cons r rs => exact inRanges_iff.2 (exists_of_mem_fuseFrom hq hlo hhi)

theorem inRanges_merge (rs qs : List (Nat × Nat)) (c : Char) :
    inRanges (merge rs qs) c = (inRanges rs c || inRanges qs c) := by
  rw [inRanges, (perm_merge rs qs).any_eq, List.any_append, inRanges, inRanges]

end Char

namespace Letter

/-- The letters that are enclosed in circles or squares, and the vertical tilde, a letter that is
punctuation. -/
def strayLetters : List (Nat × Nat) := [
  (0x24b6, 0x24e9), (0x2e2f, 0x2e2f), (0x1f130, 0x1f149), (0x1f150, 0x1f169), (0x1f170, 0x1f189)]

/-- The numbers that are neither decimal digits nor written as letters: superscripts, fractions,
enclosed numbers and the like. -/
def strayNumbers : List (Nat × Nat) := [
  (0xb2, 0xb3), (0xb9, 0xb9), (0xbc, 0xbe), (0x9f4, 0x9f9), (0xb72, 0xb77), (0xbf0, 0xbf2),
  (0xc78, 0xc7e), (0xd58, 0xd5e), (0xd70, 0xd78), (0xf2a, 0xf33), (0x1372, 0x137c),
  (0x17f0, 0x17f9), (0x2070, 0x2070), (0x2074, 0x2079), (0x2080, 0x2089), (0x2150, 0x215f),
  (0x2189, 0x2189), (0x2460, 0x249b), (0x24ea, 0x24ff), (0x2776, 0x2793), (0x2cfd, 0x2cfd),
  (0x3192, 0x3195), (0x3220, 0x3229), (0x3248, 0x324f), (0x3251, 0x325f), (0x3280, 0x3289),
  (0x32b1, 0x32bf), (0xa830, 0xa835), (0x10107, 0x10133), (0x10175, 0x10178), (0x1018a, 0x1018b),
  (0x102e1, 0x102fb), (0x10320, 0x10323), (0x10858, 0x1085f), (0x10879, 0x1087f),
  (0x108a7, 0x108af), (0x108fb, 0x108ff), (0x10916, 0x1091b), (0x109bc, 0x109bd),
  (0x109c0, 0x109cf), (0x109d2, 0x109ff), (0x10a40, 0x10a48), (0x10a7d, 0x10a7e),
  (0x10a9d, 0x10a9f), (0x10aeb, 0x10aef), (0x10b58, 0x10b5f), (0x10b78, 0x10b7f),
  (0x10ba9, 0x10baf), (0x10cfa, 0x10cff), (0x10e60, 0x10e7e), (0x10f1d, 0x10f26),
  (0x10f51, 0x10f54), (0x10fc5, 0x10fcb), (0x11052, 0x11065), (0x111e1, 0x111f4),
  (0x1173a, 0x1173b), (0x118ea, 0x118f2), (0x11c5a, 0x11c6c), (0x11fc0, 0x11fd4),
  (0x16b5b, 0x16b61), (0x16e80, 0x16e96), (0x1d2c0, 0x1d2d3), (0x1d2e0, 0x1d2f3),
  (0x1d360, 0x1d378), (0x1e8c7, 0x1e8cf), (0x1ec71, 0x1ecab), (0x1ecad, 0x1ecaf),
  (0x1ecb1, 0x1ecb4), (0x1ed01, 0x1ed2d), (0x1ed2f, 0x1ed3d), (0x1f100, 0x1f10c)]

/-- A letter or number that cannot stand in an identifier. -/
def isStray (c : Char) : Bool := Char.inRanges (Char.merge strayLetters strayNumbers) c

variable {c : Char}

/-! ### What the tables say -/

/-- The ranges of identifiers and of the characters listed here, put together. -/
def knownRanges : List (Nat × Nat) :=
  Char.fuse (Char.merge (Char.merge strayLetters strayNumbers) Identifier.continueRanges)

/-- What is decided on the tables. -/
structure Tables : Prop where
  letters : Identifier.covers alphabeticRanges strayLetters = true
  numbers : Identifier.covers numberRanges strayNumbers = true
  /-- No character that is listed is one of the first 128. -/
  beyond : (Char.merge strayLetters strayNumbers).all (fun r => 0x80 ≤ r.1) = true
  apart : Char.apart
    (Char.merge (Char.merge strayLetters strayNumbers) Identifier.continueRanges) = true
  knownLetters : Identifier.covers knownRanges alphabeticRanges = true
  knownNumbers : Identifier.covers knownRanges numberRanges = true
  /-- The two joiners are in the table of identifiers. -/
  joiners : Char.inRanges Identifier.continueRanges '\u200c' = true ∧
    Char.inRanges Identifier.continueRanges '\u200d' = true

theorem tables : Tables := by
  constructor <;> decide +kernel

theorem le_of_isStray (h : isStray c = true) : 0x80 ≤ c.toNat := by
  obtain ⟨r, hr, hlo, -⟩ := Char.inRanges_iff.1 h
  exact Nat.le_trans (of_decide_eq_true (List.all_eq_true.1 tables.beyond r hr)) hlo

theorem isStray_or_of_knownRanges (h : Char.inRanges knownRanges c = true) :
    isStray c = true ∨ Char.inRanges Identifier.continueRanges c = true := by
  have := Char.inRanges_of_fuse h
  rwa [Char.inRanges_merge, Bool.or_eq_true] at this

/-! ### Characters -/

theorem isAlphanumeric_of_isStray (h : isStray c = true) : isAlphanumeric c = true := by
  have hbig := Nat.not_lt.2 (le_of_isStray h)
  rw [isStray, Char.inRanges_merge, Bool.or_eq_true] at h
  rw [isAlphanumeric, isAlphabetic, if_neg hbig, isNumber, if_neg hbig, Bool.or_eq_true]
  exact h.imp (Identifier.inRanges_of_covers tables.letters)
    (Identifier.inRanges_of_covers tables.numbers)

theorem isPart_of_isStray (h : isStray c = true) : Identifier.isPart c = false := by
  have hnone := Char.inRanges_eq_false_of_apart tables.apart h
  have hne : ∀ d, Char.inRanges Identifier.continueRanges d = true → (c == d) = false := by
    intro d hd
    refine beq_eq_false_iff_ne.2 ?_
    rintro rfl
    exact Bool.noConfusion (hnone.symm.trans hd)
  rw [Identifier.isPart, if_neg (Nat.not_lt.2 (le_of_isStray h)), hnone,
    hne _ tables.joiners.1, hne _ tables.joiners.2]
  rfl

/-- A letter or number that cannot stand in an identifier is listed. -/
theorem isStray_of_isPart (h : isAlphanumeric c = true) (hpart : Identifier.isPart c = false) :
    isStray c = true := by
  unfold isAlphanumeric isAlphabetic isNumber at h
  unfold Identifier.isPart at hpart
  by_cases hascii : c.toNat < 0x80
  · rw [if_pos hascii, if_pos hascii] at h
    rw [if_pos hascii] at hpart
    simp [Char.isAlphanum, h] at hpart
  · rw [if_neg hascii, if_neg hascii, Bool.or_eq_true] at h
    rw [if_neg hascii] at hpart
    have hknown : Char.inRanges knownRanges c = true :=
      h.elim (Identifier.inRanges_of_covers tables.knownLetters)
        (Identifier.inRanges_of_covers tables.knownNumbers)
    refine (isStray_or_of_knownRanges hknown).resolve_right fun hin => ?_
    simp [hin] at hpart

/-- **The letters and numbers that cannot stand in an identifier are those that are listed.** -/
theorem isStray_iff :
    isStray c = true ↔ isAlphanumeric c = true ∧ Identifier.isPart c = false :=
  ⟨fun h => ⟨isAlphanumeric_of_isStray h, isPart_of_isStray h⟩, fun h => isStray_of_isPart h.1 h.2⟩

end Letter

end ModuleBundler
