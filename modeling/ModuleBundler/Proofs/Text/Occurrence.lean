/-
ModuleBundler/Proofs/Text/Occurrence.lean

Where a word occurs in a text.  Its matches are found from left to right: the first occurrence of
the word, then the first one behind the end of this, and so on (`Matches`).  An occurrence that
overlaps a match is none itself.

Occurrences of a word overlap only if a proper end of the word is a beginning of it
(`Unbordered.length_le`).  If the word has no such border, all its occurrences are matches
(`Matches.mem_iff`).
-/
import Mathlib.Data.List.Infix

namespace ModuleBundler

namespace Occurrence

variable {α : Type} {word text rest : List α} {rests : List (List α)}

/-! ### Words without a border -/

/-- No proper end of the word is a beginning of it. -/
def Unbordered (word : List α) : Prop :=
  ∀ k < word.length, 0 < k → ¬ word.drop k <+: word

instance [DecidableEq α] (word : List α) : Decidable (Unbordered word) :=
  inferInstanceAs (Decidable (∀ k < word.length, 0 < k → ¬ word.drop k <+: word))

/-- An occurrence that begins behind the beginning of another begins behind its end. -/
theorem Unbordered.length_le (hword : Unbordered word) {front back : List α} (hfront : front ≠ [])
    (htext : word ++ rest = front ++ (word ++ back)) : word.length ≤ front.length := by
  by_contra hlt
  rw [not_le] at hlt
  -- the end of the first occurrence lies in the second, at its beginning
  have hend : word.drop front.length ++ rest = word ++ back := by
    rw [← List.drop_append_of_le_length hlt.le, htext, List.drop_left]
  apply hword front.length hlt (List.length_pos_iff.2 hfront)
  refine List.prefix_of_prefix_length_le ⟨rest, hend⟩ (List.prefix_append word back) ?_
  rw [List.length_drop]
  exact Nat.sub_le ..

/-! ### Matches -/

/-- What stands behind each match of a word in a text. -/
inductive Matches (word : List α) : List α → List (List α) → Prop
  /-- The word does not occur. -/
  | done {text : List α} (hnone : ¬ word <:+: text) : Matches word text []
  /-- The word occurs behind `front`, and not before. -/
  | found {front rest : List α} {rests : List (List α)}
      (hfirst : ∀ front' back, front ++ (word ++ rest) = front' ++ (word ++ back) →
        front.length ≤ front'.length)
      (hrest : Matches word rest rests) : Matches word (front ++ (word ++ rest)) (rest :: rests)

namespace Matches

/-- A match is an occurrence. -/
theorem exists_of_mem (hmatches : Matches word text rests) (hmem : rest ∈ rests) :
    ∃ front, text = front ++ (word ++ rest) := by
  induction hmatches with
  | done => cases hmem
  | @found first behind rests _ _ ih =>
      rcases List.mem_cons.1 hmem with rfl | hmem
      · exact ⟨first, rfl⟩
      · obtain ⟨front, rfl⟩ := ih hmem
        exact ⟨first ++ (word ++ front), by simp⟩

/-- **Every occurrence of a word without a border is a match.** -/
theorem mem_iff (hmatches : Matches word text rests) (hword : Unbordered word) :
    rest ∈ rests ↔ ∃ front, text = front ++ (word ++ rest) := by
  refine ⟨hmatches.exists_of_mem, ?_⟩
  rintro ⟨front, htext⟩
  induction hmatches generalizing front with
  | done hnone => exact absurd ⟨front, rest, by rw [htext, List.append_assoc]⟩ hnone
  | @found first behind rests hfirst _ ih =>
      -- the occurrence is the first match, or begins further on
      have hbegin : first <+: front :=
        List.prefix_of_prefix_length_le ⟨word ++ behind, htext⟩ (List.prefix_append front _)
          (hfirst front rest htext)
      obtain ⟨between, rfl⟩ := hbegin
      rw [List.append_assoc, List.append_cancel_left_eq] at htext
      by_cases hbetween : between = []
      · subst hbetween
        rw [List.nil_append, List.append_cancel_left_eq] at htext
        exact htext ▸ List.mem_cons_self
      · -- there it begins behind the end of the match
        have hend : word <+: between :=
          List.prefix_of_prefix_length_le ⟨behind, htext⟩ (List.prefix_append between _)
            (hword.length_le hbetween htext)
        obtain ⟨front, rfl⟩ := hend
        rw [List.append_assoc, List.append_cancel_left_eq] at htext
        exact List.mem_cons_of_mem behind (ih front htext)

/-- If a text does not begin with the word, its matches are those from its second character on. -/
theorem cons (hmatches : Matches word text rests) {c : α} (hbegin : ¬ word <+: c :: text) :
    Matches word (c :: text) rests := by
  cases hmatches with
  | done hnone =>
      refine .done fun hoccurs => ?_
      rcases List.infix_cons_iff.1 hoccurs with h | h
      · exact hbegin h
      · exact hnone h
  | @found front rest rests hfirst hrest =>
      show Matches word ((c :: front) ++ (word ++ rest)) (rest :: rests)
      refine .found (fun front' back heq => ?_) hrest
      cases front' with
      | nil => exact absurd ⟨back, heq.symm⟩ hbegin
      | cons d front' =>
          have htail := (List.cons.inj heq).2
          exact Nat.succ_le_succ (hfirst front' back htail)

end Matches

end Occurrence

/-! ### Texts -/

/-- The word stands somewhere in the text. -/
def StandsIn (word text : String) : Prop := ∃ front back, text = front ++ word ++ back

theorem standsIn_iff {word text : String} : StandsIn word text ↔ word.toList <:+: text.toList := by
  constructor
  · rintro ⟨front, back, rfl⟩
    exact ⟨front.toList, back.toList, by simp⟩
  · rintro ⟨front, back, htext⟩
    refine ⟨String.ofList front, String.ofList back, String.ext ?_⟩
    simpa using htext.symm

instance (word text : String) : Decidable (StandsIn word text) :=
  decidable_of_iff _ standsIn_iff.symm

end ModuleBundler
