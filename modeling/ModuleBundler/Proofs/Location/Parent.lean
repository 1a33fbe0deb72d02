/-
ModuleBundler/Proofs/Location/Parent.lean

The path above a path.  Of the segments of a path only those count that are not idle
(`Segment.active`), and `parent?` drops the last of them:

    active (split up) = (active (split path)).dropLast        (`active_split_parent?`)

Besides, what it leaves is a beginning of the path (`parent?_isPrefix`), segment by segment
(`exists_split_of_parent?`), that begins at the root if the path does (`head?_parent?`), and it is
shorter (`length_parent?_lt`), so a recursion along `parent?` ends.
-/
import ModuleBundler.Proofs.Location.Directory

namespace ModuleBundler

namespace Segment

/-! ### Segments that count -/

/-- The segments at which a walk does not stay. -/
def active (ss : List (List Char)) : List (List Char) := ss.filter fun s => !isIdle s

theorem active_append (ss ts : List (List Char)) : active (ss ++ ts) = active ss ++ active ts :=
  List.filter_append ..

theorem active_cons_of_idle {s : List Char} (h : isIdle s = true) (ss : List (List Char)) :
    active (s :: ss) = active ss :=
  List.filter_cons_of_neg (by simp [h])

theorem active_cons_of_not_idle {s : List Char} (h : isIdle s = false) (ss : List (List Char)) :
    active (s :: ss) = s :: active ss :=
  List.filter_cons_of_pos (by simp [h])

theorem active_eq_nil_iff {ss : List (List Char)} :
    active ss = [] ↔ ∀ s ∈ ss, isIdle s = true := by
  simp [active]

/-- What trimming leaves is nothing, or ends with a segment that counts; only idle ones went. -/
theorem exists_trim (ss : List (List Char)) :
    (∃ idle, active idle = [] ∧ ss = trim ss ++ idle) ∧
      (trim ss = [] ∨ ∃ front s, trim ss = front ++ [s] ∧ isIdle s = false) := by
  refine ⟨⟨(ss.reverse.takeWhile isIdle).reverse, ?_, ?_⟩, ?_⟩
  · refine active_eq_nil_iff.2 fun s hs => ?_
    exact List.all_eq_true.1 List.all_takeWhile s (List.mem_reverse.1 hs)
  · unfold trim
    rw [← List.reverse_append, List.takeWhile_append_dropWhile, List.reverse_reverse]
  · unfold trim
    rcases hdrop : ss.reverse.dropWhile isIdle with - | ⟨s, rest⟩
    · exact .inl rfl
    · refine .inr ⟨rest.reverse, s, by simp, ?_⟩
      have hhead := List.head?_dropWhile_not isIdle ss.reverse
      rw [hdrop] at hhead
      simpa using hhead

theorem active_trim (ss : List (List Char)) : active (trim ss) = active ss := by
  obtain ⟨⟨idle, hidle, hss⟩, -⟩ := exists_trim ss
  calc active (trim ss) = active (trim ss ++ idle) := by
        rw [active_append, hidle, List.append_nil]
    _ = active ss := by rw [← hss]

theorem active_trim_eq_nil_iff {ss : List (List Char)} : trim ss = [] ↔ active ss = [] := by
  rw [← active_trim]
  rcases (exists_trim ss).2 with hnil | ⟨front, s, htrim, hs⟩
  · rw [hnil]
    exact iff_of_true rfl rfl
  · rw [htrim, active_append, active_cons_of_not_idle hs]
    exact iff_of_false (by simp) (by simp)

theorem trim_isPrefix (ss : List (List Char)) : trim ss <+: ss := by
  obtain ⟨⟨idle, -, hss⟩, -⟩ := exists_trim ss
  exact ⟨idle, hss.symm⟩

/-- Fewer segments are written as a beginning of the text. -/
theorem join_isPrefix {ss ts : List (List Char)} (h : ss <+: ts) : join ss <+: join ts := by
  obtain ⟨rest, rfl⟩ := h
  fun_induction join ss with
  | case1 => exact List.nil_prefix
  | case2 s =>
      cases rest with
      | nil => exact List.prefix_rfl
      | cons t ts => exact List.prefix_append _ _
  | case3 s t ss ih =>
      show _ <+: s ++ '/' :: join (t :: ss ++ rest)
      exact (List.prefix_append_right_inj _).2 (List.cons_prefix_cons.2 ⟨rfl, ih⟩)

/-- Segments without separators keep those that count when they are written and split again. -/
theorem active_split_join {ss : List (List Char)} (h : ∀ s ∈ ss, '/' ∉ s) :
    active (split (join ss)) = active ss := by
  rcases ss with - | ⟨s, ss⟩
  · rfl
  · rw [split_join (List.cons_ne_nil s ss) h]

end Segment

open Segment

/-! ### The path above -/

/-- A head of a path and the segments behind it. -/
inductive Cut : List Char → List Char → List (List Char) → Prop where
  | plain {path : List Char} (h : path.head? ≠ some '/') : Cut path [] (split path)
  | root (rest : List Char) : Cut ('/' :: rest) ['/'] (split rest)
  | dot : Cut ['.'] ['.'] [[]]
  | dotSlash (rest : List Char) : Cut ('.' :: '/' :: rest) ['.'] ([] :: split rest)

theorem cut_pathHead (path : List Char) :
    Cut path (pathHead path) (split (path.drop (pathHead path).length)) := by
  unfold pathHead
  split
  · exact .root _
  · exact .dot
  · simpa [split] using Cut.dotSlash _
  · rename_i hroot _ _
    refine .plain fun h => ?_
    rcases path with - | ⟨c, rest⟩
    · cases h
    · exact hroot rest (by simpa using h)

namespace Cut

variable {path head : List Char} {ss : List (List Char)}

theorem no_separator (h : Cut path head ss) : ∀ s ∈ ss, '/' ∉ s := by
  cases h with
  | plain | root => exact fun s hs => no_separator_of_mem_split hs
  | dot => simp
  | dotSlash rest =>
      intro s hs
      rcases List.mem_cons.1 hs with rfl | hs
      · exact List.not_mem_nil
      · exact no_separator_of_mem_split hs

/-- The head of a path does not count. -/
theorem active_split (h : Cut path head ss) : active (split path) = active ss := by
  cases h <;> rfl

/-- Some of the segments behind the head are written as a beginning of the path. -/
theorem isPrefix (h : Cut path head ss) {ts : List (List Char)} (hts : ts <+: ss) :
    head ++ join ts <+: path := by
  have hjoin := join_isPrefix hts
  cases h with
  | plain => rwa [join_split] at hjoin
  | root rest =>
      rw [join_split] at hjoin
      exact (List.prefix_append_right_inj ['/']).2 hjoin
  | dot => exact (List.prefix_append_right_inj ['.']).2 hjoin
  | dotSlash rest =>
      refine (List.prefix_append_right_inj ['.']).2 (hjoin.trans ?_)
      obtain ⟨t, ts, hsplit⟩ := List.exists_cons_of_ne_nil (split_ne_nil rest)
      rw [hsplit, join_cons_cons, ← hsplit, join_split]
      exact List.prefix_rfl

/-- A `.` before what begins with a separator is a segment of its own. -/
theorem active_split_dot {ts : List (List Char)} (hts : ts <+: [] :: ss)
    (hplain : ∀ s ∈ ts, '/' ∉ s) : active (split ('.' :: join ts)) = active ts := by
  rcases List.prefix_cons_iff.1 hts with rfl | ⟨us, rfl, -⟩
  · rfl
  rcases us with - | ⟨u, us⟩
  · rfl
  · have hsplit : split ('.' :: join ([] :: u :: us)) = ['.'] :: u :: us := by
      rw [join_cons_cons, List.nil_append, ← List.singleton_append, split_append (by decide),
        split_join (List.cons_ne_nil u us) fun s hs => hplain s (List.mem_cons_of_mem _ hs)]
    rw [hsplit]
    rfl

/-- Some of the segments behind the head are found again when they are written. -/
theorem active_split_append (h : Cut path head ss) {ts : List (List Char)} (hts : ts <+: ss) :
    active (split (head ++ join ts)) = active ts := by
  have hplain : ∀ s ∈ ts, '/' ∉ s := fun s hs => h.no_separator s (hts.subset hs)
  cases h with
  | plain | root => exact active_split_join hplain
  | dot | dotSlash => exact active_split_dot hts hplain

/-- Some of the segments behind the head are written as some of the segments of the path. -/
theorem exists_front (h : Cut path head ss) {ts rest : List (List Char)} (hss : ss = ts ++ rest)
    (hup : head ++ join ts ≠ []) (hrest : ¬ rest.all List.isEmpty = true) :
    ∃ front behind tail, split path = front ++ behind ∧ ¬ behind.all List.isEmpty = true ∧
      split (head ++ join ts) = front ++ tail ∧ tail.all List.isEmpty = true := by
  have hplain : ∀ s ∈ ts, '/' ∉ s := fun s hs =>
    h.no_separator s (hss ▸ List.mem_append_left rest hs)
  cases h with
  | plain =>
      have hts : ts ≠ [] := by
        rintro rfl
        exact hup rfl
      exact ⟨ts, rest, [], hss, hrest, (split_join hts hplain).trans (List.append_nil ts).symm, rfl⟩
  | root text =>
      have hsplit : split ('/' :: text) = [] :: ts ++ rest := congrArg ([] :: ·) hss
      by_cases hts : ts = []
      · subst hts
        exact ⟨[[]], rest, [[]], hsplit, hrest, rfl, rfl⟩
      · refine ⟨[] :: ts, rest, [], hsplit, hrest, ?_, rfl⟩
        rw [List.append_nil]
        exact congrArg ([] :: ·) (split_join hts hplain)
  | dot =>
      refine absurd ?_ hrest
      rcases ts with - | ⟨t, ts⟩
      · rw [← List.nil_append rest, ← hss]
        rfl
      · obtain ⟨-, hnil⟩ := List.cons.inj hss
        rw [(List.append_eq_nil_iff.1 hnil.symm).2]
        rfl
  | dotSlash text =>
      have hsplit : split ('.' :: '/' :: text) = ['.'] :: split text :=
        split_append (s := ['.']) (by decide) text
      rcases ts with - | ⟨t, ts⟩
      · refine ⟨[['.']], split text, [], hsplit, ?_, rfl, rfl⟩
        rw [← List.nil_append rest, ← hss] at hrest
        exact hrest
      obtain ⟨rfl, htext⟩ := List.cons.inj hss
      rw [htext] at hsplit
      rcases ts with - | ⟨t, ts⟩
      · exact ⟨[['.']], rest, [], hsplit, hrest, rfl, rfl⟩
      · refine ⟨['.'] :: t :: ts, rest, [], hsplit, hrest, ?_, rfl⟩
        rw [List.append_nil]
        show split (['.'] ++ '/' :: join (t :: ts)) = _
        rw [split_append (by decide),
          split_join (List.cons_ne_nil t ts) fun s hs => hplain s (List.mem_cons_of_mem _ hs)]

theorem head?_append (h : Cut path head ss) {rest : List Char} (hrest : head ++ rest <+: path) :
    (head ++ rest).head? = some '/' ↔ path.head? = some '/' := by
  obtain ⟨tail, htail⟩ := hrest
  cases h with
  | plain h =>
      refine ⟨fun hhead => ?_, fun hhead => absurd hhead h⟩
      rw [← htail, List.head?_append, hhead]
      rfl
  | root rest => simp
  | dot => simp
  | dotSlash rest => simp

end Cut

/-- What is behind the head of the path above. -/
theorem exists_of_parent? {path up : List Char} (h : parent? path = some up) :
    ∃ head ss ts, Cut path head ss ∧ up = head ++ join ts ∧ ts <+: ss ∧
      active ts = (active ss).dropLast := by
  have hcut := cut_pathHead path
  unfold parent? at h
  dsimp only at h
  generalize pathHead path = head at h hcut
  generalize split (path.drop head.length) = ss at h hcut
  split at h
  next htrim =>
    -- nothing counts in a path without a last segment, and one that has a `.` lies in the start
    split at h
    next hdot =>
      obtain rfl := Option.some.inj h
      subst hdot
      have hhead : path.head? ≠ some '/' := by cases hcut <;> simp
      have hactive : active (split path) = [] := by
        rw [hcut.active_split, ← active_trim, htrim]
        rfl
      refine ⟨[], split path, [], .plain hhead, rfl, List.nil_prefix, ?_⟩
      rw [hactive]
      rfl
    next => cases h
  next htrim =>
    refine ⟨head, ss, _, hcut, (Option.some.inj h).symm, ?_, ?_⟩
    · exact (trim_isPrefix _).trans ((List.dropLast_prefix _).trans (trim_isPrefix ss))
    · rw [active_trim, ← active_trim ss]
      rcases (exists_trim ss).2 with hnil | ⟨front, s, htrim, hs⟩
      · rw [hnil]
        rfl
      · rw [htrim, List.dropLast_concat, active_append, active_cons_of_not_idle hs]
        exact (List.dropLast_concat ..).symm

variable {path up : List Char}

/-- **The path above a path lacks the last segment that counts.** -/
theorem active_split_parent? (h : parent? path = some up) :
    active (split up) = (active (split path)).dropLast := by
  obtain ⟨head, ss, ts, hcut, rfl, hts, hactive⟩ := exists_of_parent? h
  rw [hcut.active_split_append hts, hactive, hcut.active_split]

theorem parent?_isPrefix (h : parent? path = some up) : up <+: path := by
  obtain ⟨head, ss, ts, hcut, rfl, hts, -⟩ := exists_of_parent? h
  exact hcut.isPrefix hts

theorem head?_parent? (h : parent? path = some up) :
    up.head? = some '/' ↔ path.head? = some '/' := by
  obtain ⟨head, ss, ts, hcut, rfl, hts, -⟩ := exists_of_parent? h
  exact hcut.head?_append (hcut.isPrefix hts)

/-- A path in which a segment counts lies in another. -/
theorem exists_parent? (h : active (split path) ≠ []) : ∃ up, parent? path = some up := by
  have hcut := cut_pathHead path
  unfold parent?
  dsimp only
  generalize pathHead path = head at hcut ⊢
  generalize split (path.drop head.length) = ss at hcut ⊢
  split
  next htrim =>
    refine absurd ?_ h
    rw [hcut.active_split, ← active_trim, htrim]
    rfl
  next => exact ⟨_, rfl⟩

/-- Where no segment counts, the path above is empty, if there is one. -/
theorem active_ne_nil_of_parent? (h : parent? path = some up) (hup : up ≠ []) :
    active (split path) ≠ [] := by
  have hcut := cut_pathHead path
  unfold parent? at h
  dsimp only at h
  rw [hcut.active_split]
  intro hnil
  rw [active_trim_eq_nil_iff.2 hnil] at h
  dsimp only at h
  split at h
  · exact hup (Option.some.inj h).symm
  · cases h

/-- **The segments of the path above are the first of those of the path.**  A separator may end
it. -/
theorem exists_split_of_parent? (h : parent? path = some up) (hup : up ≠ []) :
    ∃ front behind tail, split path = front ++ behind ∧ ¬ behind.all List.isEmpty = true ∧
      split up = front ++ tail ∧ tail.all List.isEmpty = true := by
  have hne := active_ne_nil_of_parent? h hup
  obtain ⟨head, ss, ts, hcut, rfl, ⟨rest, hss⟩, hactive⟩ := exists_of_parent? h
  refine hcut.exists_front hss.symm hup fun hall => ?_
  -- one of the segments that count is left out
  have hrest : active rest = [] :=
    active_eq_nil_iff.2 fun s hs => by rw [isIdle, List.all_eq_true.1 hall s hs, Bool.true_or]
  have hlength := congrArg List.length hactive
  rw [← hss, active_append, hrest, List.append_nil, List.length_dropLast] at hlength
  rw [hcut.active_split, ← hss, active_append, hrest, List.append_nil] at hne
  have := List.length_pos_iff.2 hne
  omega

/-- The path above is shorter. -/
theorem length_parent?_lt (h : parent? path = some up) : up.length < path.length := by
  have hbegin := parent?_isPrefix h
  refine Nat.lt_of_le_of_ne hbegin.length_le fun hlength => ?_
  obtain rfl := hbegin.eq_of_length hlength
  by_cases hup : up = []
  · subst hup
    cases h
  -- a segment that counts is gone
  have hshort := congrArg List.length (active_split_parent? h)
  have := List.length_pos_iff.2 (active_ne_nil_of_parent? h hup)
  rw [List.length_dropLast] at hshort
  omega

end ModuleBundler
