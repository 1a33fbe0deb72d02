/-
ModuleBundler/Proofs/Location/Canonical.lean

Writing a location and reading it again.  A walk never leaves a location with a
segment in it that a walk would treat as anything but a name (`IsProper`), and a
location of that form is found again in its text:

    ofText (text l) = l        (`ofText_text`)

So `normalize` is idempotent (`normalize_normalize`), and what a specifier
resolves to is normal already (`normalize_resolve`).  This is what lets a file be
looked up by the path it resolves to and stored by the name it was built under.
-/
import ModuleBundler.Location.Resolve

namespace ModuleBundler

/-! ### Names -/

/-- A segment that leads down: neither idle nor `..`, and without separators. -/
structure Segment.IsName (s : List Char) : Prop where
  ne_nil : s ≠ []
  ne_dot : s ≠ ['.']
  ne_dots : s ≠ ['.', '.']
  no_separator : '/' ∉ s

/-- What is split off a text holds no separators. -/
theorem Segment.no_separator_of_mem_split {text s : List Char} (h : s ∈ split text) :
    '/' ∉ s := by
  fun_induction split text generalizing s with
  | case1 =>
      rw [List.mem_singleton.1 h]
      exact List.not_mem_nil
  | case2 rest ih =>
      rcases List.mem_cons.1 h with rfl | h
      · exact List.not_mem_nil
      · exact ih h
  | case3 c rest hc first others e ih =>
      rw [e] at ih
      rcases List.mem_cons.1 h with rfl | h
      · have := ih List.mem_cons_self
        simp [this, Ne.symm hc]
      · exact ih (List.mem_cons_of_mem _ h)
  | case4 c rest hc e => exact absurd e (split_ne_nil rest)

/-- The text of names does not begin with a separator. -/
theorem Segment.head?_join_ne {s : List Char} {ss : List (List Char)} (hne : s ≠ [])
    (h : '/' ∉ s) : (join (s :: ss)).head? ≠ some '/' := by
  obtain ⟨c, cs, rfl⟩ := List.exists_cons_of_ne_nil hne
  have hc : c ≠ '/' := fun e => h (e ▸ List.mem_cons_self)
  cases ss with
  | nil => simpa [join] using hc
  | cons t ts => simpa [join] using hc

namespace Location

/-! ### Proper locations -/

/-- The names of a location. -/
def names : Location → List (List Char)
  | rooted ns | relative _ ns => ns

/-- Every name of the location is one at which a walk goes down. -/
def IsProper (l : Location) : Prop := ∀ s ∈ l.names, Segment.IsName s

theorem step_of_ne {s : List Char} (hnil : s ≠ []) (hdot : s ≠ ['.']) (hdots : s ≠ ['.', '.'])
    (l : Location) :
    l.step s = match l with
      | rooted ns => rooted (ns ++ [s])
      | relative ups ns => relative ups (ns ++ [s]) := by
  unfold step
  split <;> simp_all

theorem step_name {s : List Char} (h : Segment.IsName s) (l : Location) :
    l.step s = match l with
      | rooted ns => rooted (ns ++ [s])
      | relative ups ns => relative ups (ns ++ [s]) :=
  step_of_ne h.ne_nil h.ne_dot h.ne_dots l

theorem IsProper.step {l : Location} (hl : l.IsProper) {s : List Char} (hs : '/' ∉ s) :
    (l.step s).IsProper := by
  intro t ht
  by_cases hidle : s = [] ∨ s = ['.']
  · rcases hidle with rfl | rfl <;> exact hl t ht
  by_cases hdots : s = ['.', '.']
  · subst hdots
    cases l with
    | rooted ns => exact hl t (List.dropLast_subset _ ht)
    | relative ups ns =>
        cases ns with
        | nil => exact absurd ht List.not_mem_nil
        | cons n ns => exact hl t (List.dropLast_subset _ ht)
  · have hname : Segment.IsName s :=
      ⟨fun e => hidle (.inl e), fun e => hidle (.inr e), hdots, hs⟩
    rw [step_name hname] at ht
    cases l with
    | rooted ns =>
        rcases List.mem_append.1 ht with ht | ht
        · exact hl t ht
        · rw [List.mem_singleton.1 ht]; exact hname
    | relative ups ns =>
        rcases List.mem_append.1 ht with ht | ht
        · exact hl t ht
        · rw [List.mem_singleton.1 ht]; exact hname

theorem IsProper.walk {l : Location} (hl : l.IsProper) {ss : List (List Char)}
    (hs : ∀ s ∈ ss, '/' ∉ s) : (l.walk ss).IsProper := by
  induction ss generalizing l with
  | nil => exact hl
  | cons s ss ih =>
      exact ih (hl.step (hs s List.mem_cons_self)) fun t ht => hs t (List.mem_cons_of_mem _ ht)

theorem isProper_ofText (text : String) : (ofText text).IsProper := by
  refine IsProper.walk (fun s hs => ?_) fun s hs => Segment.no_separator_of_mem_split hs
  unfold start at hs
  split at hs <;> exact absurd hs List.not_mem_nil

/-! ### Writing and reading -/

/-- Names are walked down one after the other. -/
theorem walk_names {ns : List (List Char)} (h : ∀ s ∈ ns, Segment.IsName s) (l : Location) :
    l.walk ns = match l with
      | rooted ms => rooted (ms ++ ns)
      | relative ups ms => relative ups (ms ++ ns) := by
  induction ns generalizing l with
  | nil => cases l <;> simp [walk]
  | cons n ns ih =>
      have htail : ∀ s ∈ ns, Segment.IsName s := fun s hs => h s (List.mem_cons_of_mem _ hs)
      show (l.step n).walk ns = _
      rw [step_name (h n List.mem_cons_self), ih htail]
      cases l <;> simp

theorem walk_replicate_dots (ups n : Nat) :
    (relative ups []).walk (List.replicate n ['.', '.']) = relative (ups + n) [] := by
  induction n generalizing ups with
  | zero => rfl
  | succ n ih =>
      rw [List.replicate_succ]
      show (relative (ups + 1) []).walk (List.replicate n ['.', '.']) = _
      rw [ih]
      congr 1
      omega

theorem walk_append (l : Location) (ss ts : List (List Char)) :
    l.walk (ss ++ ts) = (l.walk ss).walk ts := List.foldl_append

/-- The segments that a relative location is written with hold no separators and are not
empty. -/
theorem IsProper.segments_plain {ups : Nat} {ns : List (List Char)}
    (h : (relative ups ns).IsProper) :
    ∀ s ∈ (relative ups ns).segments, s ≠ [] ∧ '/' ∉ s := by
  intro s hs
  rcases List.mem_append.1 hs with hs | hs
  · rw [(List.mem_replicate.1 hs).2]
    decide
  · exact ⟨(h s hs).ne_nil, (h s hs).no_separator⟩

/-- The text of a relative location that is not the start itself. -/
theorem chars_relative {ups : Nat} {ns : List (List Char)} {s : List Char} {ss : List (List Char)}
    (h : (relative ups ns).segments = s :: ss) :
    (relative ups ns).chars = Segment.join (s :: ss) := by
  show (if (relative ups ns).segments.isEmpty then _ else Segment.join _) = _
  rw [h]
  rfl

/-- The text of a location leads to it. -/
theorem ofText_text {l : Location} (h : l.IsProper) : ofText l.text = l := by
  unfold ofText text
  rw [String.toList_ofList]
  cases l with
  | rooted ns =>
      show (rooted []).walk (Segment.split ('/' :: Segment.join ns)) = _
      show ((rooted []).step []).walk (Segment.split (Segment.join ns)) = _
      rcases ns with - | ⟨n, ns⟩
      · rfl
      · rw [Segment.split_join (List.cons_ne_nil _ _) fun s hs => (h s hs).no_separator]
        exact walk_names h (rooted [])
  | relative ups ns =>
      rcases hseg : (relative ups ns).segments with - | ⟨s, ss⟩
      · -- the text is that of no segments at all
        obtain ⟨hups, rfl⟩ := List.append_eq_nil_iff.1 hseg
        rw [List.replicate_eq_nil_iff] at hups
        subst hups
        rfl
      · have hplain := h.segments_plain
        rw [hseg] at hplain
        obtain ⟨hs, hs'⟩ := hplain s List.mem_cons_self
        have hstart : start (Segment.join (s :: ss)) = relative 0 [] :=
          if_neg (Segment.head?_join_ne hs hs')
        have hsplit : Segment.split (Segment.join (s :: ss)) = s :: ss :=
          Segment.split_join (List.cons_ne_nil _ _) fun t ht => (hplain t ht).2
        rw [chars_relative hseg, hstart, hsplit, ← hseg]
        -- the steps up come first, so that nothing is left for them to take back
        show (relative 0 []).walk (List.replicate ups ['.', '.'] ++ ns) = _
        have hnames : ∀ s ∈ ns, Segment.IsName s := h
        rw [walk_append, walk_replicate_dots, walk_names hnames]
        simp

theorem isProper_resolveLocation (importer specifier : String) :
    (resolveLocation importer specifier).IsProper :=
  (isProper_ofText _).walk fun _ hs => Segment.no_separator_of_mem_split hs

end Location

/-! ### Normal paths -/

theorem normalize_text {l : Location} (h : l.IsProper) : normalize l.text = l.text :=
  congrArg Location.text (Location.ofText_text h)

theorem normalize_normalize (path : String) : normalize (normalize path) = normalize path :=
  normalize_text (Location.isProper_ofText path)

/-- A specifier resolves to a path that is normal already. -/
theorem normalize_resolve (importer specifier : String) :
    normalize (resolve importer specifier) = resolve importer specifier :=
  normalize_text (Location.isProper_resolveLocation importer specifier)

end ModuleBundler
