/-
ModuleBundler/Proofs/Syntax/Trace.lean

What a parser returns comes from the tokens that it takes.  `Parse.Traces X p` says of a
parser `p` that is given the sites `X` of what has been read before: each site in what it
returns is among `X`, or is the span of a token that it takes, or is a site in the
decorators that wait for a class.  No token is taken twice, so no site occurs twice.

The rules follow the shape of a parser: what holds of two steps holds of one after the
other (`Traces.bind`), and what holds of a round holds of a loop (`Traces.repeating`).
-/
import ModuleBundler.Proofs.Syntax.Advance

namespace ModuleBundler

/-! ### Ways between cursors -/

/-- A cursor is reached from another, with tokens taken in between that have the spans, in the
order of the text; those that hold no character do not count. -/
structure Cursor.Reaches (c : Cursor) (ts : List Span) (c' : Cursor) : Prop where
  wf : c'.Wf
  clean : c'.noted = [] → c.noted = []
  place_le : c.place ≤ c'.place
  prevStop_le : c.prevStop ≤ c'.prevStop
  horizon_le : c'.horizon ≤ c.horizon
  ordered : ts.Pairwise fun s t => s.stop ≤ t.start
  within : ∀ t ∈ ts, c.place ≤ t.start ∧ t.start < t.stop ∧ t.stop ≤ c'.prevStop
  marks : c.marks = [] → c'.marks = []

/-- Two cursors differ in nothing that has to do with places. -/
structure Cursor.Kept (c c' : Cursor) : Prop where
  token : c'.token = c.token
  prevStop : c'.prevStop = c.prevStop
  pos : c'.pos = c.pos
  rest : c'.rest = c.rest
  marks : c'.marks = c.marks
  clean : c'.noted = [] → c.noted = []

namespace Cursor

variable {c c₁ c' : Cursor} {ts us : List Span}

theorem Kept.waiting (h : c.Kept c') : c'.waiting = c.waiting := by
  rw [Cursor.waiting, h.marks, Cursor.waiting]

theorem Kept.wf (h : c.Kept c') (hc : c.Wf) : c'.Wf where
  prevStop_le := by
    rw [place, h.token, h.prevStop]
    exact hc.prevStop_le
  stop_eq := by
    rw [place, h.token]
    exact hc.stop_eq
  stop_le := by
    rw [h.token, h.pos]
    exact hc.stop_le
  raw_ne := by
    rw [h.token]
    exact hc.raw_ne
  name_length := by
    rw [place, h.token]
    exact hc.name_length
  waiting_le := by
    rw [h.waiting, h.prevStop]
    exact fun hn => hc.waiting_le (h.clean hn)

theorem Kept.reaches (h : c.Kept c') (hc : c.Wf) : c.Reaches [] c' where
  wf := h.wf hc
  clean := h.clean
  place_le := Nat.le_of_eq (by rw [place, place, h.token])
  prevStop_le := Nat.le_of_eq h.prevStop.symm
  horizon_le := Nat.le_of_eq (by rw [horizon, horizon, h.pos, h.rest])
  ordered := List.Pairwise.nil
  within := by simp
  marks := fun hm => h.marks.trans hm

theorem Kept.refl (c : Cursor) : c.Kept c := ⟨rfl, rfl, rfl, rfl, rfl, id⟩

theorem Reaches.refl (hc : c.Wf) : c.Reaches [] c := (Kept.refl c).reaches hc

theorem Reaches.trans (h : c.Reaches ts c₁) (k : c₁.Reaches us c') : c.Reaches (ts ++ us) c' where
  wf := k.wf
  clean := fun hn => h.clean (k.clean hn)
  place_le := Nat.le_trans h.place_le k.place_le
  prevStop_le := Nat.le_trans h.prevStop_le k.prevStop_le
  horizon_le := Nat.le_trans k.horizon_le h.horizon_le
  ordered := by
    -- what the second part takes begins behind all that the first has taken
    refine List.pairwise_append.2 ⟨h.ordered, k.ordered, fun s hs t ht => ?_⟩
    have := (h.within s hs).2.2
    have := (k.within t ht).1
    have := h.wf.prevStop_le
    omega
  within := by
    intro t ht
    rcases List.mem_append.1 ht with ht | ht
    · have := h.within t ht
      have := k.prevStop_le
      omega
    · have := k.within t ht
      have := h.place_le
      omega
  marks := fun hm => k.marks (h.marks hm)

/-- The token is read again: it is no name, and begins where it did. -/
theorem Reaches.again (hc : c.Wf) (hplace : c'.place = c.place) (hprev : c'.prevStop = c.prevStop)
    (hstop : c'.token.span.stop = c'.place + c'.token.raw.length ∧ c'.token.span.stop ≤ c'.pos)
    (hkind : c'.token.kind ≠ .name) (hraw : c'.token.kind.isSolid = true → c'.token.raw ≠ [])
    (hhorizon : c'.horizon ≤ c.horizon)
    (hmarks : c'.marks = c.marks) (hclean : c'.noted = [] → c.noted = []) : c.Reaches [] c' where
  wf := {
    prevStop_le := by
      rw [hplace, hprev]
      exact hc.prevStop_le
    stop_eq := hstop.1
    stop_le := hstop.2
    raw_ne := hraw
    name_length := fun h => absurd h hkind
    waiting_le := by
      rw [waiting, hmarks, hprev]
      exact fun hn => hc.waiting_le (hclean hn) }
  clean := hclean
  place_le := Nat.le_of_eq hplace.symm
  prevStop_le := Nat.le_of_eq hprev.symm
  horizon_le := hhorizon
  ordered := List.Pairwise.nil
  within := by simp
  marks := fun hm => hmarks.trans hm

/-- The token is taken. -/
theorem Reaches.advance (hc : c.Wf) : c.Reaches c.token.span.solid c.advance where
  wf := hc.advance
  clean := fun hn => c.noted_advance ▸ hn
  place_le := by
    have := hc.place_le
    have := hc.stop_le
    have := c.pos_le_place_advance
    omega
  prevStop_le := by
    rw [prevStop_advance]
    exact Nat.le_trans hc.prevStop_le hc.place_le
  horizon_le := c.horizon_advance
  ordered := Span.pairwise_solid _
  within := by
    intro t ht
    obtain ⟨rfl, hlt⟩ := Span.mem_solid.1 ht
    exact ⟨Nat.le_refl _, hlt, Nat.le_of_eq (c.prevStop_advance).symm⟩
  marks := fun hm => c.marks_advance.trans hm

end Cursor

namespace Parse

open Cursor

/-! ### Traces -/

/-- At a cursor, what the parser returns comes from the tokens that it takes, and from `X`. -/
def TracesAt {α : Type} [Sited α] (X : List Span) (p : Parse α) (c : Cursor) : Prop :=
  ∀ ⦃a c'⦄, p c = .ok a c' → ∃ ts, c.Reaches ts c' ∧
    (c'.noted = [] → Among (sitesOf a ++ c'.waiting) (X ++ ts ++ c.waiting))

/-- Wherever it begins, what the parser returns comes from the tokens that it takes, and from
`X`. -/
def Traces {α : Type} [Sited α] (X : List Span) (p : Parse α) : Prop :=
  ∀ ⦃c⦄, c.Wf → TracesAt X p c

/-- The parser takes nothing. -/
def Looks {α : Type} (p : Parse α) : Prop := ∀ ⦃c a c'⦄, p c = .ok a c' → c' = c

/-- The parser always fails. -/
def Fails {α : Type} (p : Parse α) : Prop := ∀ ⦃c a c'⦄, p c ≠ .ok a c'

variable {α β σ : Type} {X Y Z : List Span} {p q : Parse α} {f : α → Parse β}

/-- One step after the other succeeds if both do. -/
theorem bind_eq_ok {c c' : Cursor} {b : β} :
    (p >>= f) c = .ok b c' ↔ ∃ a c₁, p c = .ok a c₁ ∧ f a c₁ = .ok b c' := by
  show EStateM.bind p f c = _ ↔ _
  unfold EStateM.bind
  rcases p c with ⟨a, c₁⟩ | ⟨e, c₁⟩ <;> simp

/-! ### Steps that take nothing -/

theorem Looks.pure (a : α) : Looks (Pure.pure a : Parse α) := by
  rintro c b c' ⟨⟩
  rfl

theorem Looks.bind (hp : Looks p) (hf : ∀ a, Looks (f a)) : Looks (p >>= f) := by
  intro c b c' hok
  obtain ⟨a, c₁, hpa, hfb⟩ := bind_eq_ok.1 hok
  obtain rfl := hp hpa
  exact hf a hfb

theorem Looks.ite {P : Prop} [Decidable P] (hp : Looks p) (hq : Looks q) :
    Looks (if P then p else q) := by
  by_cases h : P
  · rwa [if_pos h]
  · rwa [if_neg h]

theorem looks_get : Looks (get : Parse Cursor) := by
  rintro c a c' ⟨⟩
  rfl

theorem looks_token : Looks token := looks_get.bind fun _ => .pure _

theorem looks_here : Looks here := looks_get.bind fun _ => .pure _

theorem looks_prevStop : Looks prevStop := looks_get.bind fun _ => .pure _

theorem looks_spanFrom (start : Nat) : Looks (spanFrom start) := looks_prevStop.bind fun _ => .pure _

theorem looks_sees (text : String) : Looks (sees text) := looks_token.bind fun _ => .pure _

theorem looks_seesWord (word : String) : Looks (seesWord word) := looks_token.bind fun _ => .pure _

theorem looks_peek : Looks peek := looks_get.bind fun _ => .pure _

theorem looks_allowed : Looks allowed := looks_get.bind fun _ => .pure _

theorem looks_canEndStatement : Looks canEndStatement := looks_token.bind fun _ => .pure _

theorem looks_foresees (step : Parse Bool) : Looks (foresees step) := by
  intro c a c' hok
  unfold foresees at hok
  split at hok <;> · cases hok; rfl

/-! ### Steps that fail -/

theorem fails_throw (e : Failure) : Fails (throw e : Parse α) := by
  rintro c a c' ⟨⟩

theorem fails_fail (d : Diagnostic) : Fails (fail d : Parse α) := fails_throw _

theorem Fails.right (hf : ∀ a, Fails (f a)) : Fails (p >>= f) := by
  intro c b c' hok
  obtain ⟨a, c₁, -, hfb⟩ := bind_eq_ok.1 hok
  exact hf a hfb

theorem Fails.left (hp : Fails p) : Fails (p >>= f) := by
  intro c b c' hok
  obtain ⟨a, c₁, hpa, -⟩ := bind_eq_ok.1 hok
  exact hp hpa

theorem fails_missing (wanted : String) : Fails (missing wanted : Parse α) :=
  Fails.right fun _ => fails_throw _

theorem fails_unexpected : Fails (unexpected : Parse α) := by
  refine Fails.right fun c => ?_
  split
  · split
    · exact Fails.right fun _ => fails_throw _
    · exact fails_throw _
  · exact fails_throw _

/-! ### Rules -/

section Rules

variable [Sited β]

theorem TracesAt.look {c : Cursor} (hp : Looks p)
    (hf : ∀ a, p c = .ok a c → TracesAt X (f a) c) : TracesAt X (p >>= f) c := by
  intro b c' hok
  obtain ⟨a, c₁, hpa, hfb⟩ := bind_eq_ok.1 hok
  obtain rfl := hp hpa
  exact hf a hpa hfb

theorem Traces.look (hp : Looks p) (hf : ∀ a, Traces X (f a)) : Traces X (p >>= f) :=
  fun _ hc => TracesAt.look hp fun a _ => hf a hc

/-- The span from a place on begins there. -/
theorem Traces.spanFrom {start : Nat} {f : Span → Parse β}
    (hf : ∀ stop, Traces X (f ⟨start, stop⟩)) : Traces X (Parse.spanFrom start >>= f) :=
  fun c hc _ _ hok => hf c.prevStop hc hok

/-- A value that is there already is not read. -/
theorem Traces.known {a : α} (h : Traces X (f a)) : Traces X (Pure.pure a >>= f) := h

/-- The place that is read is the one where the parser is. -/
theorem TracesAt.here {c : Cursor} {f : Nat → Parse β} (hf : TracesAt X (f c.place) c) :
    TracesAt X (Parse.here >>= f) c := fun _ _ hok => hf hok

/-- What comes next is known to be the token looked at. -/
theorem TracesAt.token {c : Cursor} {f : Token → Parse β} (hf : TracesAt X (f c.token) c) :
    TracesAt X (Parse.token >>= f) c := fun _ _ hok => hf hok

theorem Traces.lookToken {f : Token → Parse β}
    (hf : ∀ c : Cursor, c.Wf → TracesAt X (f c.token) c) : Traces X (Parse.token >>= f) :=
  fun c hc => .token (hf c hc)

variable [Sited α] [Sited σ]

namespace TracesAt

variable {c : Cursor}

theorem of_fails (hp : Fails p) : TracesAt X p c := fun _ _ hok => absurd hok (@hp _ _ _)

theorem ite {P : Prop} [Decidable P] (hp : P → TracesAt X p c) (hq : ¬ P → TracesAt X q c) :
    TracesAt X (if P then p else q) c := by
  by_cases h : P
  · rw [if_pos h]
    exact hp h
  · rw [if_neg h]
    exact hq h

theorem mono (h : TracesAt Y p c) (hY : Among Y X) : TracesAt X p c := by
  intro a c' hok
  obtain ⟨ts, hreach, hsites⟩ := h hok
  refine ⟨ts, hreach, fun hn s => ?_⟩
  have := hsites hn s
  have := hY s
  simp only [List.count_append] at *
  omega

theorem bindOf (hX : Among (Y ++ Z) X) (hp : TracesAt Y p c)
    (hf : ∀ a c₁, p c = .ok a c₁ → c₁.Wf → TracesAt (sitesOf a ++ Z) (f a) c₁) :
    TracesAt X (p >>= f) c := by
  intro b c' hok
  obtain ⟨a, c₁, hpa, hfb⟩ := bind_eq_ok.1 hok
  obtain ⟨ts, hreach, hsites⟩ := hp hpa
  obtain ⟨us, hreach', hsites'⟩ := hf a c₁ hpa hreach.wf hfb
  refine ⟨ts ++ us, hreach.trans hreach', fun hn s => ?_⟩
  have := hsites (hreach'.clean hn) s
  have := hsites' hn s
  have := hX s
  simp only [List.count_append] at *
  omega

/-- What the first step returns need not be used. -/
theorem skip (hp : TracesAt [] p c)
    (hf : ∀ a c₁, p c = .ok a c₁ → c₁.Wf → TracesAt X (f a) c₁) : TracesAt X (p >>= f) c := by
  refine hp.bindOf (Among.refl _) fun a c₁ hpa hc₁ => (hf a c₁ hpa hc₁).mono fun s => ?_
  rw [List.count_append]
  omega

end TracesAt

namespace Traces

theorem mono (h : Traces Y p) (hY : Among Y X) : Traces X p := fun _ hc => (h hc).mono hY

theorem pure {a : α} (h : Among (sitesOf a) X) : Traces X (Pure.pure a : Parse α) := by
  rintro c hc b c' ⟨⟩
  refine ⟨[], Reaches.refl hc, fun _ s => ?_⟩
  have := h s
  simp only [List.count_append]
  omega

theorem bindOf (hX : Among (Y ++ Z) X) (hp : Traces Y p)
    (hf : ∀ a, Traces (sitesOf a ++ Z) (f a)) : Traces X (p >>= f) :=
  fun _ hc => (hp hc).bindOf hX fun a _ _ hc₁ => hf a hc₁

theorem bind (hp : Traces [] p) (hf : ∀ a, Traces (sitesOf a ++ X) (f a)) : Traces X (p >>= f) :=
  bindOf (Among.refl _) hp hf

/-- What the first step returns need not be used. -/
theorem skip (hp : Traces [] p) (hf : ∀ a, Traces X (f a)) : Traces X (p >>= f) := by
  refine hp.bind fun a => (hf a).mono fun s => ?_
  rw [List.count_append]
  omega

theorem map {g : α → β} (hp : Traces X p) (hg : ∀ a, Among (sitesOf (g a)) (sitesOf a)) :
    Traces X (g <$> p) := by
  refine bindOf (Z := []) (by simpa using Among.refl X) hp fun a => pure ?_
  simpa using hg a

theorem of_fails (hp : Fails p) : Traces X p := fun _ _ => TracesAt.of_fails hp

theorem ite {P : Prop} [Decidable P] (hp : P → Traces X p) (hq : ¬ P → Traces X q) :
    Traces X (if P then p else q) := fun _ hc => TracesAt.ite (fun h => hp h hc) fun h => hq h hc

/-- What `modify` does to a cursor has nothing to do with places. -/
theorem modify {g : Cursor → Cursor} (hg : ∀ c : Cursor, c.Kept (g c)) :
    Traces X (modify g : Parse PUnit) := by
  rintro c hc a c' ⟨⟩
  refine ⟨[], (hg c).reaches hc, fun _ s => ?_⟩
  rw [(hg c).waiting]
  simp

/-- A token is taken whose span is not used. -/
theorem take {f : Token → Parse β} (hf : ∀ t, Traces X (f t)) : Traces X (take >>= f) := by
  intro c hc b c' hok
  obtain ⟨t, c₁, ht, hok⟩ := bind_eq_ok.1 hok
  cases ht
  obtain ⟨ts, hreach, hsites⟩ := hf c.token hc.advance hok
  refine ⟨c.token.span.solid ++ ts, (Reaches.advance hc).trans hreach, fun hn s => ?_⟩
  have := hsites hn s
  rw [waiting_advance] at this
  simp only [List.count_append] at *
  omega

/-! ### Loops -/

theorem rounds {step : σ → Parse (σ ⊕ α)} (hstep : ∀ s, Traces (sitesOf s) (step s)) (n : Nat)
    (s : σ) : Traces (sitesOf s) (Parse.rounds step n s) := by
  induction n generalizing s with
  | zero => exact of_fails fails_unexpected
  | succ n ih =>
      refine bindOf (Z := []) (by simpa using Among.refl _) (hstep s) fun r => ?_
      rw [List.append_nil]
      cases r with
      | inl s' => exact ih s'
      | inr a => exact pure (Among.refl _)

theorem repeating {step : σ → Parse (σ ⊕ α)} (hstep : ∀ s, Traces (sitesOf s) (step s)) (s : σ) :
    Traces (sitesOf s) (Parse.repeating s step) :=
  look looks_get fun _ => rounds hstep _ s

/-- A loop over a list, whose rounds are alike. -/
theorem forIn {γ : Type} {step : γ → PUnit → Parse (ForInStep PUnit)}
    (hstep : ∀ a r, Traces [] (step a r)) (l : List γ) (r : PUnit) :
    Traces [] (ForIn.forIn l r step) := by
  induction l generalizing r with
  | nil => exact pure (Among.nil _)
  | cons a l ih =>
      rw [List.forIn_cons]
      refine .skip (hstep a r) fun b => ?_
      cases b with
      | done r => exact pure (Among.nil _)
      | yield r => exact ih r

/-! ### Branches that join again -/

variable {P : Prop} [Decidable P] {γ : Type} {g : γ → Parse α} {h : PUnit → Parse α}

theorem join [Sited γ] {p q : Parse γ} (hp : Traces [] p) (hq : Traces [] q)
    (hg : ∀ a, Traces (sitesOf a ++ X) (g a)) : Traces X (if P then p >>= g else q >>= g) :=
  .ite (fun _ => .bind hp hg) fun _ => .bind hq hg

/-- A step that may be left out. -/
theorem whenTrue {p : Parse PUnit} (hp : Traces [] p) (hh : ∀ r, Traces X (h r)) :
    Traces X (if P then p >>= h else h ⟨⟩) :=
  .ite (fun _ => .skip hp hh) fun _ => hh ⟨⟩

theorem whenFalse {p : Parse PUnit} (hp : Traces [] p) (hh : ∀ r, Traces X (h r)) :
    Traces X (if P then h ⟨⟩ else p >>= h) :=
  .ite (fun _ => hh ⟨⟩) fun _ => .skip hp hh

/-- Parsing goes on only where something holds. -/
theorem require {p : Parse PUnit} (hp : Fails p) (hh : Traces X (h ⟨⟩)) :
    Traces X (if P then h ⟨⟩ else p >>= h) :=
  .ite (fun _ => hh) fun _ => .of_fails hp.left

theorem refuse {p : Parse PUnit} (hp : Fails p) (hh : Traces X (h ⟨⟩)) :
    Traces X (if P then p >>= h else h ⟨⟩) :=
  .ite (fun _ => .of_fails hp.left) fun _ => hh

end Traces

end Rules

/-! ### Parsers of every grammar -/

section Common

variable [Sited α]

theorem traces_note (d : Diagnostic) : Traces X (note d) := by
  refine .modify fun c => ⟨rfl, rfl, rfl, rfl, rfl, ?_⟩
  intro h
  cases h

theorem traces_take : Traces X Parse.take := by
  have h : Traces X (Parse.take >>= Pure.pure) := .take fun t => .pure (Among.nil _)
  exact h

/-- The span of a name that is taken is one of its sites. -/
theorem TracesAt.takeName {c : Cursor} (hc : c.Wf) (hsolid : c.token.kind.isSolid = true)
    {f : Token → Parse α} (hf : Traces (c.token.span :: X) (f c.token)) :
    TracesAt X (Parse.take >>= f) c := by
  intro a c' hok
  obtain ⟨t, c₁, ht, hok⟩ := bind_eq_ok.1 hok
  cases ht
  obtain ⟨ts, hreach, hsites⟩ := hf hc.advance hok
  have hspan : c.token.span.solid = [c.token.span] := if_pos (hc.place_lt hsolid)
  refine ⟨[c.token.span] ++ ts, hspan ▸ (Reaches.advance hc).trans hreach, fun hn s => ?_⟩
  have := hsites hn s
  rw [waiting_advance] at this
  simp only [List.count_append, List.count_cons, List.count_nil] at *
  omega

theorem traces_takeWord : Traces X takeWord := by
  refine .skip traces_take fun t => .whenTrue (traces_note _) fun _ => ?_
  exact .pure (Among.nil _)

theorem traces_eat (text : String) : Traces X (eat text) := by
  refine .look (looks_sees text) fun b => .ite (fun _ => ?_) fun _ => .pure (Among.nil _)
  exact .skip traces_take fun _ => .pure (Among.nil _)

theorem traces_eatWord (word : String) : Traces X (eatWord word) := by
  refine .look (looks_seesWord word) fun b => .ite (fun _ => ?_) fun _ => .pure (Among.nil _)
  exact .skip traces_takeWord fun _ => .pure (Among.nil _)

theorem traces_expect (text : String) : Traces X (expect text) := by
  refine .skip (traces_eat text) fun b => .ite (fun _ => .pure (Among.nil _)) fun _ => ?_
  exact .of_fails (fails_missing text)

theorem traces_expectWord (word : String) : Traces X (expectWord word) := by
  refine .skip (traces_eatWord word) fun b => .ite (fun _ => .pure (Among.nil _)) fun _ => ?_
  exact .of_fails (fails_missing word)

theorem traces_semicolon : Traces X semicolon := by
  refine .look looks_canEndStatement fun b => .ite (fun _ => ?_) fun _ => ?_
  · exact .skip (traces_eat ";") fun _ => .pure (Among.nil _)
  · exact .look looks_get fun _ => .of_fails (fails_throw _)

theorem Traces.within (change : Allow → Allow) (hp : Traces X p) :
    Traces X (Parse.within change p) := by
  refine .look looks_get fun c => ?_
  refine .skip (.modify fun _ => ⟨rfl, rfl, rfl, rfl, rfl, id⟩) fun _ => ?_
  refine .bindOf (Z := []) (by simpa using Among.refl X) hp fun a => ?_
  refine .skip (.modify fun _ => ⟨rfl, rfl, rfl, rfl, rfl, id⟩) fun _ => .pure ?_
  simpa using Among.refl (sitesOf a)

theorem Traces.withIn (hp : Traces X p) : Traces X (Parse.withIn p) := hp.within _

/-- A step that goes back to where it began has taken nothing. -/
theorem Traces.attempt {p : Parse (Option α)} (hp : Traces X p) : Traces X (Parse.attempt p) := by
  intro c hc a c' hok
  unfold Parse.attempt at hok
  split at hok
  · rename_i a c₁ hpa
    cases hok
    exact hp hc hpa
  · cases hok
    refine ⟨[], Reaches.refl hc, fun _ s => ?_⟩
    simp

theorem Traces.separated {item : Parse α} (hitem : Traces [] item) (close : String) :
    Traces [] (Parse.separated close item) := by
  refine .look looks_token fun t => .ite (fun _ => .pure (Among.nil _)) fun _ => ?_
  refine .bind hitem fun first => ?_
  refine .mono (.repeating (fun taken => ?_) [first]) (by simpa using Among.refl _)
  refine .look looks_token fun t => .ite (fun _ => .pure fun s => by simp) fun _ => ?_
  refine .require (fails_throw _) ?_
  refine .look looks_here fun comma => .skip traces_take fun _ => ?_
  refine .look (looks_sees close) fun b => .ite (fun _ => .pure fun s => by simp) fun _ => ?_
  exact .bind hitem fun a => .pure fun s => by simp

end Common

end Parse

end ModuleBundler
