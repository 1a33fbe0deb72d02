/-
ModuleBundler/Proofs/Location/Directory.lean

Locations under a directory.  `directory` works on texts and `walk` on locations, and here they
meet: for a file, that is a location with a name, the directory of its text is the text
of the location without its last name (`directory_text`), so a specifier is walked from there
(`resolveLocation_text`).

A walk that begins below a directory and never climbs above its first level does not
notice the directory (`walk_down`).  So a path that stays inside a project leads to the same place
in it when it is put behind the path of the project (`ofText_under`).
-/
import ModuleBundler.Proofs.Location.Canonical

namespace ModuleBundler

namespace Segment

/-- Paths put one behind the other have the segments of both. -/
theorem split_append_separator (a b : List Char) : split (a ++ '/' :: b) = split a ++ split b := by
  induction a with
  | nil => simp [split]
  | cons c a ih =>
      by_cases hc : c = '/'
      · simp [split, hc, ih]
      · obtain ⟨first, others, e⟩ := List.exists_cons_of_ne_nil (split_ne_nil a)
        simp [split, hc, ih, e]

theorem IsName.isIdle_eq_false {s : List Char} (h : IsName s) : isIdle s = false := by
  simp [isIdle, h.ne_nil, h.ne_dot]

/-- Without idle segments nothing is trimmed. -/
theorem trim_eq_self {ss : List (List Char)} (h : ∀ s ∈ ss, isIdle s = false) : trim ss = ss := by
  unfold trim
  rcases hss : ss.reverse with - | ⟨s, rest⟩
  · rw [List.reverse_eq_nil_iff.1 hss]
    rfl
  · -- the last segment stands first in the reverse, and it is not idle
    have hs : s ∈ ss := List.mem_reverse.1 (by rw [hss]; exact List.mem_cons_self)
    rw [List.dropWhile_cons_of_neg (by rw [h s hs]; decide), ← hss, List.reverse_reverse]

/-- A path whose first segment is not idle has no head. -/
theorem pathHead_eq_nil {path s : List Char} {ss : List (List Char)} (h : split path = s :: ss)
    (hs : isIdle s = false) : pathHead path = [] := by
  unfold pathHead
  split
  · simp only [split, if_true, List.cons.injEq] at h
    rw [← h.1] at hs
    cases hs
  · obtain rfl : ['.'] = s := by simpa [split] using congrArg List.head? h
    cases hs
  · obtain rfl : ['.'] = s := by simpa [split] using congrArg List.head? h
    cases hs
  · rfl

end Segment

/-- A path without idle segments lies in the one without its last segment. -/
theorem parent?_eq_of_split {path head : List Char} {segments : List (List Char)}
    (hhead : pathHead path = head) (hsplit : Segment.split (path.drop head.length) = segments)
    (hidle : ∀ s ∈ segments, Segment.isIdle s = false) :
    parent? path = some (head ++ Segment.join segments.dropLast) := by
  obtain ⟨s, ss, hcons⟩ := List.exists_cons_of_ne_nil
    (fun e => Segment.split_ne_nil _ (hsplit.trans e))
  have hup : Segment.trim segments.dropLast = segments.dropLast :=
    Segment.trim_eq_self fun t ht => hidle t (List.dropLast_subset _ ht)
  unfold parent?
  dsimp only
  rw [hhead, hsplit, Segment.trim_eq_self hidle, hcons]
  dsimp only
  rw [← hcons, hup]

namespace Location

/-! ### The directory of a file -/

/-- The location without its last name. -/
def up : Location → Location
  | rooted ns => rooted ns.dropLast
  | relative ups ns => relative ups ns.dropLast

theorem IsProper.up {l : Location} (h : l.IsProper) : l.up.IsProper := by
  intro s hs
  cases l with
  | rooted ns => exact h s (List.dropLast_subset _ hs)
  | relative ups ns => exact h s (List.dropLast_subset _ hs)

/-- No segment that a relative location is written with is idle. -/
theorem IsProper.isIdle_eq_false {ups : Nat} {ns : List (List Char)}
    (h : (relative ups ns).IsProper) :
    ∀ s ∈ (relative ups ns).segments, Segment.isIdle s = false := by
  intro s hs
  rcases List.mem_append.1 hs with hs | hs
  · rw [(List.mem_replicate.1 hs).2]
    decide
  · exact (h s hs).isIdle_eq_false

/-- The segments of a relative location are found again in its text, unless it is the start. -/
theorem split_chars_relative {ups : Nat} {ns : List (List Char)} (h : (relative ups ns).IsProper)
    {s : List Char} {ss : List (List Char)} (hseg : (relative ups ns).segments = s :: ss) :
    Segment.split (relative ups ns).chars = s :: ss := by
  have hplain := h.segments_plain
  rw [hseg] at hplain
  rw [chars_relative hseg]
  exact Segment.split_join (List.cons_ne_nil _ _) fun t ht => (hplain t ht).2

theorem directoryChars_rooted {ns : List (List Char)} (h : (rooted ns).IsProper) (hne : ns ≠ []) :
    directoryChars (rooted ns).chars = (rooted ns).up.chars := by
  have hsplit : Segment.split (Segment.join ns) = ns :=
    Segment.split_join hne fun s hs => (h s hs).no_separator
  have hparent : parent? (rooted ns).chars = some (['/'] ++ Segment.join ns.dropLast) :=
    parent?_eq_of_split rfl hsplit fun s hs => (h s hs).isIdle_eq_false
  unfold directoryChars
  rw [hparent]
  rfl

theorem directoryChars_relative {ups : Nat} {ns : List (List Char)}
    (h : (relative ups ns).IsProper) (hne : ns ≠ []) :
    directoryChars (relative ups ns).chars = (relative ups ns).up.chars := by
  have hidle := h.isIdle_eq_false
  have hplain := h.segments_plain
  obtain ⟨s, ss, hseg⟩ : ∃ s ss, (relative ups ns).segments = s :: ss :=
    List.exists_cons_of_ne_nil (List.append_ne_nil_of_right_ne_nil _ hne)
  have hsplit : Segment.split (relative ups ns).chars = (relative ups ns).segments := by
    rw [split_chars_relative h hseg, hseg]
  have hhead : pathHead (relative ups ns).chars = [] :=
    Segment.pathHead_eq_nil (hsplit.trans hseg) (hidle s (by rw [hseg]; exact List.mem_cons_self))
  have hup : (relative ups ns).segments.dropLast = (relative ups ns.dropLast).segments :=
    List.dropLast_append_of_ne_nil hne
  have hparent := parent?_eq_of_split hhead hsplit hidle
  rw [hup, List.nil_append] at hparent
  unfold directoryChars
  rw [hparent]
  show _ = (relative ups ns.dropLast).chars
  -- a file at the start lies in `.`, which is not what its segments join to
  rcases hsegs : (relative ups ns.dropLast).segments with - | ⟨t, ts⟩
  · show _ = if (relative ups ns.dropLast).segments.isEmpty then ['.'] else _
    rw [hsegs]
    rfl
  · rw [chars_relative hsegs]
    have ht : t ≠ [] := (hplain t (List.dropLast_subset _ (by
      rw [hup, hsegs]; exact List.mem_cons_self))).1
    obtain ⟨c, cs, rfl⟩ := List.exists_cons_of_ne_nil ht
    cases ts <;> rfl

/-- The directory of a file is where its last name is left out. -/
theorem directory_text {l : Location} (h : l.IsProper) (hne : l.names ≠ []) :
    directory l.text = l.up.text := by
  unfold directory text
  rw [String.toList_ofList]
  cases l with
  | rooted ns => rw [directoryChars_rooted h hne]
  | relative ups ns => rw [directoryChars_relative h hne]

/-- A specifier is walked from where the file lies. -/
theorem resolveLocation_text {l : Location} (h : l.IsProper) (hne : l.names ≠ [])
    (specifier : String) :
    resolveLocation l.text specifier = l.up.walk (Segment.split specifier.toList) := by
  unfold resolveLocation
  rw [directory_text h hne, ofText_text h.up]

/-- Locations that are written alike are the same. -/
theorem text_injective {l m : Location} (hl : l.IsProper) (hm : m.IsProper)
    (h : l.text = m.text) : l = m := by
  rw [← ofText_text hl, h, ofText_text hm]

/-! ### Below a directory -/

/-- The location some names further down. -/
def down (l : Location) (below : List (List Char)) : Location :=
  match l with
  | rooted ns => rooted (ns ++ below)
  | relative ups ns => relative ups (ns ++ below)

theorem down_nil (l : Location) : l.down [] = l := by
  cases l <;> simp [down]

theorem names_down (l : Location) (below : List (List Char)) :
    (l.down below).names = l.names ++ below := by
  cases l <;> rfl

theorem IsProper.down {l : Location} (h : l.IsProper) {below : List (List Char)}
    (hbelow : ∀ s ∈ below, Segment.IsName s) : (l.down below).IsProper := by
  intro s hs
  rw [names_down, List.mem_append] at hs
  exact hs.elim (h s) (hbelow s)

theorem down_injective {l : Location} {below below' : List (List Char)}
    (h : l.down below = l.down below') : below = below' := by
  have hnames := congrArg names h
  rw [names_down, names_down] at hnames
  exact List.append_cancel_left hnames

theorem up_down (l : Location) {below : List (List Char)} (h : below ≠ []) :
    (l.down below).up = l.down below.dropLast := by
  cases l <;> simp only [down, up, List.dropLast_append_of_ne_nil h]

theorem step_rooted (ns : List (List Char)) (s : List Char) :
    ∃ ns', (rooted ns).step s = rooted ns' := by
  unfold step
  split <;> simp_all

theorem walk_rooted (ns ss : List (List Char)) : ∃ ns', (rooted ns).walk ss = rooted ns' := by
  induction ss generalizing ns with
  | nil => exact ⟨ns, rfl⟩
  | cons s ss ih =>
      obtain ⟨ns₁, hstep⟩ := step_rooted ns s
      show ∃ ns', ((rooted ns).step s).walk ss = rooted ns'
      rw [hstep]
      exact ih ns₁

/-- From a relative location a segment leads to one that is as many levels up, or more. -/
theorem step_relative (ups : Nat) (ns : List (List Char)) (s : List Char) :
    ∃ ups' ns', (relative ups ns).step s = relative ups' ns' ∧ ups ≤ ups' := by
  unfold step
  split <;> simp_all

theorem walk_relative (ups : Nat) (ns ss : List (List Char)) :
    ∃ ups' ns', (relative ups ns).walk ss = relative ups' ns' ∧ ups ≤ ups' := by
  induction ss generalizing ups ns with
  | nil => exact ⟨ups, ns, rfl, Nat.le_refl _⟩
  | cons s ss ih =>
      obtain ⟨ups₁, ns₁, hstep, hle₁⟩ := step_relative ups ns s
      obtain ⟨ups₂, ns₂, hwalk, hle₂⟩ := ih ups₁ ns₁
      refine ⟨ups₂, ns₂, ?_, Nat.le_trans hle₁ hle₂⟩
      show ((relative ups ns).step s).walk ss = _
      rw [hstep, hwalk]

/-- A segment that is neither idle nor `..` leads down, whatever characters it has. -/
theorem step_eq_down {s : List Char} (hnil : s ≠ []) (hdot : s ≠ ['.']) (hdots : s ≠ ['.', '.'])
    (l : Location) : l.step s = l.down [s] := step_of_ne hnil hdot hdots l

/-- A step that does not climb above the start is the same step below a directory. -/
theorem step_down (l : Location) {ns ns' : List (List Char)} {s : List Char}
    (h : (relative 0 ns).step s = relative 0 ns') : (l.down ns).step s = l.down ns' := by
  by_cases hidle : s = [] ∨ s = ['.']
  · rcases hidle with rfl | rfl <;> cases h <;> cases l <;> rfl
  by_cases hdots : s = ['.', '.']
  · subst hdots
    rcases ns with - | ⟨n, ns⟩
    · cases h
    · obtain rfl : (n :: ns).dropLast = ns' := by cases h; rfl
      rw [← up_down l (List.cons_ne_nil n ns)]
      cases l with
      | rooted ms => rfl
      | relative ups ms => cases ms <;> rfl
  · have hname : ∀ m : Location, m.step s = m.down [s] :=
      step_eq_down (fun h => hidle (.inl h)) (fun h => hidle (.inr h)) hdots
    rw [hname] at h ⊢
    cases h
    cases l <;> simp [down]

/-- **A walk that does not climb above its start is the same walk below a directory.** -/
theorem walk_down (l : Location) {ns ms ss : List (List Char)}
    (h : (relative 0 ns).walk ss = relative 0 ms) : (l.down ns).walk ss = l.down ms := by
  induction ss generalizing ns with
  | nil =>
      cases h
      rfl
  | cons s ss ih =>
      obtain ⟨ups, ns', hstep, -⟩ := step_relative 0 ns s
      replace h : ((relative 0 ns).step s).walk ss = relative 0 ms := h
      rw [hstep] at h
      -- once above the start, a walk does not come back
      obtain rfl : ups = 0 := by
        obtain ⟨ups', _, hwalk, hle⟩ := walk_relative ups ns' ss
        rw [h] at hwalk
        cases hwalk
        exact Nat.le_zero.1 hle
      show ((l.down ns).step s).walk ss = _
      rw [step_down l hstep]
      exact ih h

theorem start_append {a : List Char} (ha : a ≠ []) (b : List Char) : start (a ++ b) = start a := by
  obtain ⟨c, cs, rfl⟩ := List.exists_cons_of_ne_nil ha
  rfl

/-- A path that leads to a relative location does not begin at the root. -/
theorem head?_ne_of_ofText {path : String} {ups : Nat} {ns : List (List Char)}
    (h : ofText path = relative ups ns) : path.toList.head? ≠ some '/' := by
  intro hroot
  obtain ⟨ns', hrooted⟩ := walk_rooted [] (Segment.split path.toList)
  unfold ofText start at h
  rw [if_pos hroot, hrooted] at h
  cases h

/-- A path put behind that of a directory is walked from there. -/
theorem ofText_append_separator {directory : String} (hdir : directory ≠ "") (path : String) :
    ofText (directory ++ "/" ++ path) = (ofText directory).walk (Segment.split path.toList) := by
  have hne : directory.toList ≠ [] := fun e => hdir (String.toList_injective e)
  have htext : (directory ++ "/" ++ path).toList = directory.toList ++ '/' :: path.toList := by
    simp
  unfold ofText
  rw [htext, start_append hne, Segment.split_append_separator, walk_append]

/-- A path put behind that of a directory leads below it, if it stays below its own start. -/
theorem ofText_under {directory path : String} {ns : List (List Char)} (hdir : directory ≠ "")
    (h : ofText path = relative 0 ns) :
    ofText (directory ++ "/" ++ path) = (ofText directory).down ns := by
  -- the path does not begin at the root, or else it would lead to a rooted location
  have hwalk : (relative 0 []).walk (Segment.split path.toList) = relative 0 ns := by
    have hstart := head?_ne_of_ofText h
    unfold ofText start at h
    rwa [if_neg hstart] at h
  have hbelow := walk_down (ofText directory) hwalk
  rw [down_nil] at hbelow
  rw [ofText_append_separator hdir, hbelow]

end Location

/-! ### Paths that stay inside -/

/-- The first segment of a path is `..`. -/
def Ascends (path : String) : Prop :=
  (Segment.split path.toList).head? = some ['.', '.']

/-- A path that does not begin at the root leads to a relative location. -/
theorem Location.exists_relative {path : String} (h : path.toList.head? ≠ some '/') :
    ∃ ups ns, ofText path = relative ups ns := by
  obtain ⟨ups, ns, hwalk, -⟩ := walk_relative 0 [] (Segment.split path.toList)
  refine ⟨ups, ns, ?_⟩
  unfold ofText start
  rw [if_neg h, hwalk]

/-- The text of a location above the start begins with `..`. -/
theorem Location.ups_eq_zero {ups : Nat} {ns : List (List Char)} (h : (relative ups ns).IsProper)
    (hascends : ¬ Ascends (relative ups ns).text) : ups = 0 := by
  rcases ups with - | ups
  · rfl
  · refine absurd ?_ hascends
    unfold Ascends text
    rw [String.toList_ofList, split_chars_relative h rfl]
    rfl

/-- A path that neither begins at the root nor climbs stays where it starts. -/
theorem Location.exists_relative_zero {path : String} (hnormal : normalize path = path)
    (hroot : path.toList.head? ≠ some '/') (hascends : ¬ Ascends path) :
    ∃ ns, ofText path = relative 0 ns := by
  obtain ⟨ups, ns, hns⟩ := exists_relative hroot
  have hproper := isProper_ofText path
  have htext : (relative ups ns).text = path := by rw [← hns]; exact hnormal
  rw [hns] at hproper
  rw [← htext] at hascends
  obtain rfl := ups_eq_zero hproper hascends
  exact ⟨ns, hns⟩

/-- A path leads to a file below where it starts. -/
def LeadsInside (path : String) : Prop :=
  ∃ ns, ns ≠ [] ∧ Location.ofText path = .relative 0 ns

theorem LeadsInside.of_normal {path : String} (hnormal : normalize path = path)
    (hroot : path.toList.head? ≠ some '/') (hdot : path ≠ ".") (hascends : ¬ Ascends path) :
    LeadsInside path := by
  obtain ⟨ns, hns⟩ := Location.exists_relative_zero hnormal hroot hascends
  refine ⟨ns, ?_, hns⟩
  rintro rfl
  refine hdot ?_
  rw [← hnormal, normalize, hns]
  rfl

end ModuleBundler
