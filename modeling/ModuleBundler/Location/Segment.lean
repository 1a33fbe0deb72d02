/-
ModuleBundler/Location/Segment.lean

Paths as text.  A path is a list of segments with `/` between them.  `split` and
`join` are inverse to each other (`join_split`, `split_join`): a text without segments
is the empty list joined, and every other text has one list of segments.
-/

namespace ModuleBundler.Segment

/-- The segments of a text, one more than it has separators. -/
def split : List Char → List (List Char)
  | [] => [[]]
  | c :: rest =>
      if c = '/' then [] :: split rest
      else
        match split rest with
        | first :: others => (c :: first) :: others
        | [] => [[c]]

/-- Segments with separators between them. -/
def join : List (List Char) → List Char
  | [] => []
  | [s] => s
  | s :: t :: rest => s ++ '/' :: join (t :: rest)

theorem split_ne_nil (text : List Char) : split text ≠ [] := by
  fun_induction split text <;> simp

theorem join_cons_cons (s t : List Char) (rest : List (List Char)) :
    join (s :: t :: rest) = s ++ '/' :: join (t :: rest) := rfl

/-- No character of a text is lost. -/
theorem join_split (text : List Char) : join (split text) = text := by
  fun_induction split text with
  | case1 => rfl
  | case2 rest ih =>
      obtain ⟨t, ts, e⟩ := List.exists_cons_of_ne_nil (split_ne_nil rest)
      rw [e] at ih ⊢
      simp [join, ih]
  | case3 c rest hc first others e ih =>
      rw [e] at ih
      cases others with
      | nil => simp_all [join]
      | cons t ts => simp_all [join]
  | case4 c rest hc e => exact absurd e (split_ne_nil rest)

/-- A segment without separators stays whole. -/
theorem split_append {s : List Char} (h : '/' ∉ s) (text : List Char) :
    split (s ++ '/' :: text) = s :: split text := by
  induction s with
  | nil => simp [split]
  | cons c s ih =>
      simp only [List.mem_cons, not_or] at h
      simp [split, ih h.2, Ne.symm h.1]

theorem split_eq_singleton {s : List Char} (h : '/' ∉ s) : split s = [s] := by
  induction s with
  | nil => rfl
  | cons c s ih =>
      simp only [List.mem_cons, not_or] at h
      simp [split, ih h.2, Ne.symm h.1]

/-- Segments that hold no separators are found again. -/
theorem split_join {ss : List (List Char)} (hne : ss ≠ []) (h : ∀ s ∈ ss, '/' ∉ s) :
    split (join ss) = ss := by
  fun_induction join ss with
  | case1 => exact absurd rfl hne
  | case2 s => exact split_eq_singleton (h s (by simp))
  | case3 s t rest ih =>
      rw [split_append (h s (by simp)), ih (by simp) (fun u hu => h u (by simp [hu]))]

end ModuleBundler.Segment
