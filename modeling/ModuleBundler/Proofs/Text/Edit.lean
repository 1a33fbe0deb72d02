/-
ModuleBundler/Proofs/Text/Edit.lean

Carrying out edits.  Edits fit a text (`Edit.Fit`) if their spans lie in it and of any
two of them one lies ahead of the other.  Then there is only one order in which they can
be carried out, however they were recorded (`Fit.inOrder_eq`), and in that order none
begins before the one before it has ended (`Fit.disjoint`).

What comes of a text is told in two ways.  `Edit.Replaced` goes through the text: what
lies between two edits is kept, each span is replaced.  `Edit.Becomes` picks one span:
the text before it and the text behind it are edited for themselves, and between the two
stands what the span has become.
-/
import Mathlib.Data.List.Pairwise
import Mathlib.Data.List.Sort
import ModuleBundler.Text.Edit

namespace ModuleBundler

/-! ### Spans in order -/

/-- A span lies ahead of another.  It may end where the other begins; only one of them may be
empty there. -/
def Span.Ahead (s t : Span) : Prop := s.stop ≤ t.start ∧ s.start < t.stop

namespace Span.Ahead

variable {s t u : Span}

instance : Decidable (s.Ahead t) := by
  unfold Span.Ahead
  infer_instance

theorem asymm (h : s.Ahead t) : ¬ t.Ahead s :=
  fun k => Nat.lt_irrefl _ (Nat.lt_of_lt_of_le h.2 k.1)

theorem irrefl (s : Span) : ¬ s.Ahead s := fun h => h.asymm h

theorem trans (h : s.Ahead t) (k : t.Ahead u) (hs : s.start ≤ s.stop) (ht : t.start ≤ t.stop) :
    s.Ahead u := by
  have := h.1
  have := k.1
  have := k.2
  exact ⟨by omega, by omega⟩

end Span.Ahead

/-- Spans in a text that ends at a place, of any two of which one lies ahead of the other. -/
structure Span.Fit (limit : Nat) (spans : List Span) : Prop where
  start_le : ∀ s ∈ spans, s.start ≤ s.stop
  stop_le : ∀ s ∈ spans, s.stop ≤ limit
  apart : spans.Pairwise fun s t => s.Ahead t ∨ t.Ahead s

namespace Span.Fit

variable {limit mid : Nat} {as bs : List Span}

theorem perm (h : Fit limit as) (hperm : bs.Perm as) : Fit limit bs where
  start_le s hs := h.start_le s (hperm.mem_iff.1 hs)
  stop_le s hs := h.stop_le s (hperm.mem_iff.1 hs)
  apart := (hperm.pairwise_iff fun h => h.symm).2 h.apart

theorem nil : Fit limit [] := ⟨by simp, by simp, .nil⟩

/-- Spans up to a place, and spans from there on. -/
theorem append (ha : Fit mid as) (hb : Fit limit bs) (hmid : mid ≤ limit)
    (hbehind : ∀ t ∈ bs, mid ≤ t.start ∧ mid < t.stop) : Fit limit (as ++ bs) where
  start_le s hs := (List.mem_append.1 hs).elim (ha.start_le s) (hb.start_le s)
  stop_le s hs := (List.mem_append.1 hs).elim
    (fun hs => Nat.le_trans (ha.stop_le s hs) hmid) (hb.stop_le s)
  apart := by
    refine List.pairwise_append.2 ⟨ha.apart, hb.apart, fun s hs t ht => .inl ?_⟩
    have := ha.start_le s hs
    have := ha.stop_le s hs
    have := hbehind t ht
    exact ⟨by omega, by omega⟩

/-- One more span, which lies ahead of each of the others or behind it. -/
theorem cons (h : Fit limit as) {s : Span} (hle : s.start ≤ s.stop) (hstop : s.stop ≤ limit)
    (hs : ∀ t ∈ as, s.Ahead t ∨ t.Ahead s) : Fit limit (s :: as) where
  start_le := List.forall_mem_cons.2 ⟨hle, h.start_le⟩
  stop_le := List.forall_mem_cons.2 ⟨hstop, h.stop_le⟩
  apart := List.pairwise_cons.2 ⟨hs, h.apart⟩

end Span.Fit

namespace Edit

/-! ### Sorting -/

instance : Std.Total fun a b : Edit => before a b = true where
  total a b := by
    simp only [before, Bool.or_eq_true, Bool.and_eq_true, decide_eq_true_eq, beq_iff_eq]
    omega

instance : IsTrans Edit fun a b => before a b = true where
  trans a b c := by
    simp only [before, Bool.or_eq_true, Bool.and_eq_true, decide_eq_true_eq, beq_iff_eq]
    omega

theorem inOrder_eq_insertionSort (es : List Edit) :
    inOrder es = es.insertionSort fun a b => before a b = true := by
  have hinsert : ∀ (e : Edit) (l : List Edit),
      insert e l = l.orderedInsert (fun a b => before a b = true) e := by
    intro e l
    induction l with
    | nil => rfl
    | cons x l ih => rw [insert, List.orderedInsert_cons, ih]
  induction es with
  | nil => rfl
  | cons e es ih =>
      show insert e (inOrder es) = _
      rw [ih, hinsert, List.insertionSort_cons]

theorem inOrder_perm (es : List Edit) : (inOrder es).Perm es :=
  inOrder_eq_insertionSort es ▸ List.perm_insertionSort _ es

theorem mem_inOrder {es : List Edit} {e : Edit} : e ∈ inOrder es ↔ e ∈ es :=
  (inOrder_perm es).mem_iff

theorem pairwise_inOrder (es : List Edit) : (inOrder es).Pairwise fun a b => before a b = true :=
  inOrder_eq_insertionSort es ▸ List.pairwise_insertionSort _ es

/-! ### Edits that fit a text -/

/-- The edit lies ahead of another. -/
def Ahead (a b : Edit) : Prop := a.span.Ahead b.span

/-- Edits that can be carried out in a text that ends at a place. -/
structure Fit (limit : Nat) (es : List Edit) : Prop where
  start_le : ∀ e ∈ es, e.span.start ≤ e.span.stop
  stop_le : ∀ e ∈ es, e.span.stop ≤ limit
  apart : es.Pairwise fun a b => a.Ahead b ∨ b.Ahead a

theorem fit_of_spans {limit : Nat} {es : List Edit} {spans : List Span} (h : Span.Fit limit spans)
    (hsub : (es.map (·.span)).Sublist spans) : Fit limit es where
  start_le e he := h.start_le e.span (hsub.subset (List.mem_map_of_mem he))
  stop_le e he := h.stop_le e.span (hsub.subset (List.mem_map_of_mem he))
  apart := List.pairwise_map.1 (h.apart.sublist hsub)

variable {limit : Nat} {es es' : List Edit} {text : List Char}

namespace Fit

theorem perm (h : Fit limit es) (hperm : es'.Perm es) : Fit limit es' where
  start_le e he := h.start_le e (hperm.mem_iff.1 he)
  stop_le e he := h.stop_le e (hperm.mem_iff.1 he)
  apart := (hperm.pairwise_iff fun h => h.symm).2 h.apart

theorem sublist (h : Fit limit es) (hsub : es'.Sublist es) : Fit limit es' where
  start_le e he := h.start_le e (hsub.subset he)
  stop_le e he := h.stop_le e (hsub.subset he)
  apart := h.apart.sublist hsub

/-- In order, each edit lies ahead of all that follow. -/
theorem pairwise_ahead (h : Fit limit es) : (inOrder es).Pairwise Ahead := by
  have h' := h.perm (inOrder_perm es)
  refine ((pairwise_inOrder es).and h'.apart).imp_of_mem fun {a b} ha hb hab => ?_
  obtain ⟨hbefore, hahead | hahead⟩ := hab
  · exact hahead
  · have := h'.start_le a ha
    have := h'.start_le b hb
    have := hahead.1
    have := hahead.2
    simp only [before, Bool.or_eq_true, Bool.and_eq_true, decide_eq_true_eq, beq_iff_eq] at hbefore
    omega

/-- There is one order only. -/
theorem eq_inOrder (h : Fit limit es) (hperm : es'.Perm es) (hes' : es'.Pairwise Ahead) :
    es' = inOrder es := by
  refine (hperm.trans (inOrder_perm es).symm).eq_of_pairwise (fun a b _ _ hab hba => ?_) hes'
    h.pairwise_ahead
  exact absurd hba hab.asymm

theorem inOrder_eq (h : Fit limit es) (hperm : es'.Perm es) : inOrder es' = inOrder es :=
  h.eq_inOrder ((inOrder_perm es').trans hperm) (h.perm hperm).pairwise_ahead

/-- Some of the edits are in order if all are. -/
theorem inOrder_filter (h : Fit limit es) (p : Edit → Bool) :
    inOrder (es.filter p) = (inOrder es).filter p :=
  ((h.sublist List.filter_sublist).eq_inOrder ((inOrder_perm es).filter p)
    (h.pairwise_ahead.sublist List.filter_sublist)).symm

/-- Edits that lie ahead of others come before them. -/
theorem inOrder_append {as bs : List Edit} (h : Fit limit (as ++ bs))
    (hahead : ∀ a ∈ as, ∀ b ∈ bs, a.Ahead b) : inOrder (as ++ bs) = inOrder as ++ inOrder bs := by
  refine (h.eq_inOrder ((inOrder_perm as).append (inOrder_perm bs)) ?_).symm
  refine List.pairwise_append.2 ⟨?_, ?_, fun a ha b hb => ?_⟩
  · exact (h.sublist (List.sublist_append_left _ _)).pairwise_ahead
  · exact (h.sublist (List.sublist_append_right _ _)).pairwise_ahead
  · exact hahead a (mem_inOrder.1 ha) b (mem_inOrder.1 hb)

end Fit

/-! ### One edit after the other -/

theorem disjoint_of_pairwise (h : es.Pairwise Ahead) (hle : ∀ e ∈ es, e.span.start ≤ e.span.stop)
    {pos : Nat} (hpos : ∀ e ∈ es, pos ≤ e.span.start) : Disjoint es pos := by
  induction es generalizing pos with
  | nil => trivial
  | cons e es ih =>
      rw [List.forall_mem_cons] at hle hpos
      rw [List.pairwise_cons] at h
      exact ⟨hpos.1, hle.1, ih h.2 hle.2 fun x hx => (h.1 x hx).1⟩

/-- **No edit begins before the one before it has ended.** -/
theorem Fit.disjoint (h : Fit limit es) : Disjoint (inOrder es) 0 :=
  disjoint_of_pairwise h.pairwise_ahead (h.perm (inOrder_perm es)).start_le
    fun _ _ => Nat.zero_le _

/-- A text, which begins at a place, with its edits carried out: what lies between two edits is
kept, and each span is replaced. -/
inductive Replaced : List Edit → Nat → List Char → List Char → Prop
  | nil {pos : Nat} {kept : List Char} : Replaced [] pos kept kept
  | cons {e : Edit} {more : List Edit} {pos : Nat} {kept taken rest out : List Char} :
      pos + kept.length = e.span.start → e.span.start + taken.length = e.span.stop →
      Replaced more e.span.stop rest out →
      Replaced (e :: more) pos (kept ++ (taken ++ rest)) (kept ++ (e.text ++ out))

theorem Disjoint.replaced {pos : Nat} (h : Disjoint es pos)
    (hstop : ∀ e ∈ es, e.span.stop ≤ pos + text.length) : Replaced es pos text (apply es pos text) := by
  induction es generalizing pos text with
  | nil => exact .nil
  | cons e es ih =>
      obtain ⟨hpos, hle, hmore⟩ := h
      rw [List.forall_mem_cons] at hstop
      -- what is kept before the first edit, what the edit takes, and the rest
      have hsplit : text = text.take (e.span.start - pos) ++
          ((text.drop (e.span.start - pos)).take (e.span.stop - e.span.start) ++
            text.drop (e.span.stop - pos)) := by
        have hdrop : e.span.stop - pos = e.span.start - pos + (e.span.stop - e.span.start) := by omega
        rw [hdrop, ← List.drop_drop, List.take_append_drop, List.take_append_drop]
      have hrest : Replaced es e.span.stop (text.drop (e.span.stop - pos))
          (apply es e.span.stop (text.drop (e.span.stop - pos))) := by
        refine ih hmore fun x hx => ?_
        have := hstop.2 x hx
        have := hstop.1
        rw [List.length_drop]
        omega
      have hkept : pos + (text.take (e.span.start - pos)).length = e.span.start := by
        have := hstop.1
        rw [List.length_take]
        omega
      have htaken : e.span.start +
          ((text.drop (e.span.start - pos)).take (e.span.stop - e.span.start)).length =
            e.span.stop := by
        have := hstop.1
        rw [List.length_take, List.length_drop]
        omega
      have hwhole := Replaced.cons hkept htaken hrest
      rw [← hsplit] at hwhole
      rw [apply, List.append_assoc]
      exact hwhole

/-- **Each edited span is replaced once, and all else is kept once, in order.** -/
theorem Fit.replaced (h : Fit text.length es) :
    Replaced (inOrder es) 0 text (applyAll es text) := by
  refine h.disjoint.replaced fun e he => ?_
  rw [Nat.zero_add]
  exact h.stop_le e (mem_inOrder.1 he)

/-! ### One span -/

theorem apply_append {as bs : List Edit} {pos q : Nat} (hpos : pos ≤ q) (ha : Disjoint as pos)
    (hstop : ∀ e ∈ as, e.span.stop ≤ q) (hb : ∀ e ∈ bs, q ≤ e.span.start ∧ q ≤ e.span.stop) :
    apply (as ++ bs) pos text =
      apply as pos (text.take (q - pos)) ++ apply bs q (text.drop (q - pos)) := by
  induction as generalizing pos text with
  | nil =>
      cases bs with
      | nil => exact (List.take_append_drop _ _).symm
      | cons e bs =>
          obtain ⟨hstart, hstop⟩ := hb e List.mem_cons_self
          -- the text before the first edit behind the place comes from both parts
          have htake : e.span.start - pos = q - pos + (e.span.start - q) := by omega
          have hdrop : e.span.stop - pos = q - pos + (e.span.stop - q) := by omega
          simp only [List.nil_append, apply]
          rw [htake, hdrop, List.take_add, List.drop_drop]
          simp only [List.append_assoc]
  | cons e as ih =>
      obtain ⟨hstart, hle, hmore⟩ := ha
      rw [List.forall_mem_cons] at hstop
      have htake : min (e.span.start - pos) (q - pos) = e.span.start - pos := by omega
      have hrest : q - pos - (e.span.stop - pos) = q - e.span.stop := by omega
      have hdrop : e.span.stop - pos + (q - e.span.stop) = q - pos := by omega
      simp only [List.cons_append, apply]
      rw [ih hstop.1 hmore hstop.2, List.take_take, htake, List.drop_take, hrest, List.drop_drop,
        hdrop]
      simp only [List.append_assoc]

/-- At a place that no edit crosses, the edits can be carried out in two parts. -/
theorem Fit.apply_inOrder_append {as bs : List Edit} {pos q : Nat} (h : Fit limit (as ++ bs))
    (hpos : pos ≤ q) (ha : ∀ e ∈ as, pos ≤ e.span.start ∧ e.span.stop ≤ q)
    (hb : ∀ e ∈ bs, q ≤ e.span.start ∧ q < e.span.stop) :
    apply (inOrder (as ++ bs)) pos text =
      apply (inOrder as) pos (text.take (q - pos)) ++
        apply (inOrder bs) q (text.drop (q - pos)) := by
  have hfront := h.sublist (List.sublist_append_left as bs)
  have hahead : ∀ a ∈ as, ∀ b ∈ bs, a.Ahead b := by
    intro a hmem b hmem'
    have := hfront.start_le a hmem
    have := ha a hmem
    have := hb b hmem'
    exact ⟨by omega, by omega⟩
  have hdisjoint : Disjoint (inOrder as) pos :=
    disjoint_of_pairwise hfront.pairwise_ahead
      (fun e he => hfront.start_le e (mem_inOrder.1 he)) fun e he => (ha e (mem_inOrder.1 he)).1
  rw [h.inOrder_append hahead, apply_append hpos hdisjoint]
  · exact fun e he => (ha e (mem_inOrder.1 he)).2
  · exact fun e he => (hb e (mem_inOrder.1 he)).imp_right Nat.le_of_lt

/-- The span becomes a piece of text.  The text before it and the text behind it are edited for
themselves. -/
def Becomes (es : List Edit) (text : List Char) (span : Span) (piece : List Char) : Prop :=
  applyAll es text =
    applyAll (es.filter (·.span.Ahead span)) (text.take span.start) ++ piece ++
      apply (inOrder (es.filter (span.Ahead ·.span))) span.stop (text.drop span.stop)

/-- What stands in a span. -/
def slice (text : List Char) (span : Span) : List Char :=
  (text.drop span.start).take (span.stop - span.start)

/-- Edits in order ahead of a span, and edits behind it. -/
theorem filter_append_filter {span : Span} {as bs : List Edit} (mid : List Edit)
    (ha : ∀ e ∈ as, e.span.Ahead span) (hb : ∀ e ∈ bs, span.Ahead e.span)
    (hmid : ∀ e ∈ mid, e.span = span) :
    (as ++ (mid ++ bs)).filter (·.span.Ahead span) = as ∧
      (as ++ (mid ++ bs)).filter (span.Ahead ·.span) = bs := by
  have hmid' : ∀ e ∈ mid, ¬ e.span.Ahead span ∧ ¬ span.Ahead e.span := by
    intro e he
    rw [hmid e he]
    exact ⟨Span.Ahead.irrefl _, Span.Ahead.irrefl _⟩
  constructor
  · rw [List.filter_append, List.filter_append, List.filter_eq_self.2 (by simpa using ha),
      List.filter_eq_nil_iff.2 (by simpa using fun e he => (hmid' e he).1),
      List.filter_eq_nil_iff.2 (by simpa using fun e he => (hb e he).asymm), List.append_nil,
      List.append_nil]
  · rw [List.filter_append, List.filter_append,
      List.filter_eq_nil_iff.2 (by simpa using fun e he => (ha e he).asymm),
      List.filter_eq_nil_iff.2 (by simpa using fun e he => (hmid' e he).2),
      List.filter_eq_self.2 (by simpa using hb), List.nil_append, List.nil_append]

/-- **An edited span becomes the text of its edit.** -/
theorem Fit.becomes_of_mem (h : Fit limit es) {e : Edit} (he : e ∈ es) :
    Becomes es text e.span e.text := by
  have h' := h.perm (inOrder_perm es)
  have hpairwise := h.pairwise_ahead
  have hdisjoint := h.disjoint
  obtain ⟨as, bs, hsplit⟩ := List.append_of_mem (mem_inOrder.2 he)
  rw [Becomes, h.inOrder_filter, applyAll, applyAll, h.inOrder_filter]
  rw [hsplit] at h' hpairwise hdisjoint ⊢
  rw [List.pairwise_append, List.pairwise_cons] at hpairwise
  obtain ⟨has, ⟨hb, -⟩, ha⟩ := hpairwise
  replace ha : ∀ a ∈ as, a.span.Ahead e.span := fun a ha' => ha a ha' e List.mem_cons_self
  have hle := h'.start_le e (List.mem_append_right _ List.mem_cons_self)
  -- the edits before it in order are those that lie ahead of it
  obtain ⟨hfront, hback⟩ := filter_append_filter [e] ha hb (by simp)
  rw [List.singleton_append] at hfront hback
  rw [hfront, hback, apply_append (Nat.zero_le e.span.start), apply]
  · rw [Nat.sub_self, Nat.sub_zero, List.take_zero, List.nil_append, List.drop_drop,
      Nat.add_sub_cancel' hle, List.append_assoc]
  · refine disjoint_of_pairwise has (fun a ha' => ?_) fun _ _ => Nat.zero_le _
    exact h'.start_le a (List.mem_append_left _ ha')
  · exact fun a ha' => (ha a ha').1
  · intro b hb'
    have hstart : e.span.start ≤ b.span.start := by
      rcases List.mem_cons.1 hb' with rfl | hb'
      · exact Nat.le_refl _
      · exact Nat.le_trans hle (hb b hb').1
    exact ⟨hstart, Nat.le_trans hstart (h'.start_le b (List.mem_append_right _ hb'))⟩

/-- Edits in order, each ahead of a span or behind it. -/
theorem exists_append_of_ahead {span : Span} (h : es.Pairwise Ahead)
    (hle : ∀ e ∈ es, e.span.start ≤ e.span.stop) (hspan : span.start ≤ span.stop)
    (hes : ∀ e ∈ es, e.span.Ahead span ∨ span.Ahead e.span) :
    ∃ as bs, es = as ++ bs ∧ (∀ e ∈ as, e.span.Ahead span) ∧ ∀ e ∈ bs, span.Ahead e.span := by
  induction es with
  | nil => exact ⟨[], [], rfl, by simp, by simp⟩
  | cons e es ih =>
      rw [List.pairwise_cons] at h
      rw [List.forall_mem_cons] at hle hes
      rcases hes.1 with hahead | hbehind
      · obtain ⟨as, bs, rfl, ha, hb⟩ := ih h.2 hle.2 hes.2
        exact ⟨e :: as, bs, rfl, List.forall_mem_cons.2 ⟨hahead, ha⟩, hb⟩
      · refine ⟨[], e :: es, rfl, by simp, List.forall_mem_cons.2 ⟨hbehind, fun x hx => ?_⟩⟩
        exact hbehind.trans (h.1 x hx) hspan hle.1

/-- **A span that no edit touches stays as it is.** -/
theorem Fit.becomes_of_ahead (h : Fit limit es) {span : Span} (hspan : span.start ≤ span.stop)
    (hes : ∀ e ∈ es, e.span.Ahead span ∨ span.Ahead e.span) :
    Becomes es text span (slice text span) := by
  have h' := h.perm (inOrder_perm es)
  obtain ⟨as, bs, hsplit, ha, hb⟩ := exists_append_of_ahead h.pairwise_ahead h'.start_le hspan
    fun e he => hes e (mem_inOrder.1 he)
  have hdisjoint : Disjoint as 0 := by
    have hpairwise := h.pairwise_ahead
    rw [hsplit] at hpairwise h'
    refine disjoint_of_pairwise (List.pairwise_append.1 hpairwise).1 (fun a ha' => ?_)
      fun _ _ => Nat.zero_le _
    exact h'.start_le a (List.mem_append_left _ ha')
  have hbehind : ∀ e ∈ bs, span.stop ≤ e.span.start ∧ span.stop ≤ e.span.stop := by
    intro e he
    have hstart := h'.start_le e (hsplit ▸ List.mem_append_right _ he)
    exact ⟨(hb e he).1, Nat.le_trans (hb e he).1 hstart⟩
  rw [Becomes, h.inOrder_filter, applyAll, applyAll, h.inOrder_filter, hsplit]
  obtain ⟨hfront, hback⟩ := filter_append_filter [] ha hb (by simp)
  rw [List.nil_append] at hfront hback
  rw [hfront, hback, apply_append (Nat.zero_le span.start) hdisjoint fun e he => (ha e he).1]
  · -- no edit begins between the two ends of the span
    have hrest : apply ([] ++ bs) span.start (text.drop span.start) =
        slice text span ++ apply bs span.stop ((text.drop span.start).drop (span.stop - span.start)) :=
      apply_append hspan trivial (by simp) hbehind
    rw [List.nil_append, List.drop_drop, Nat.add_sub_cancel' hspan] at hrest
    rw [Nat.sub_zero, hrest, List.append_assoc]
  · exact fun e he => ⟨Nat.le_trans hspan (hbehind e he).1, Nat.le_trans hspan (hbehind e he).2⟩

end Edit

end ModuleBundler
