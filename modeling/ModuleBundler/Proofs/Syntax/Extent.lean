/-
ModuleBundler/Proofs/Syntax/Extent.lean

The span of what a parser returns.  `Parse.Spans start span p` says of a parser `p` that
what it returns has a span from the place `start` to the end of the last token that was
taken; `Parse.Whole span p` says that this place is the one where the parser begins.

Both are cases of `Parse.Ensures`: from a cursor on, what the parser returns and the cursor
where it stops have something in common.  A text with a diagnostic is refused, so nothing
is said of a parser that has noted one.
-/
import ModuleBundler.Proofs.Syntax.Trace

namespace ModuleBundler.Parse

open Cursor

variable {α β σ : Type} {p q : Parse α} {f : α → Parse β} {c : Cursor}

/-! ### What a parser ensures -/

/-- From the cursor on, what the parser returns and where it stops have to do with each other. -/
def Ensures (R : α → Cursor → Prop) (p : Parse α) (c : Cursor) : Prop :=
  ∀ ⦃a c'⦄, p c = .ok a c' → R a c'

/-- The parser stays where it is. -/
def Stays (p : Parse α) : Prop := ∀ c : Cursor, Ensures (fun _ c' => c'.place = c.place) p c

namespace Ensures

variable {R : α → Cursor → Prop} {S : β → Cursor → Prop} {I : σ → Cursor → Prop}

theorem pure {a : α} (h : R a c) : Ensures R (Pure.pure a) c := by
  rintro b c' ⟨⟩
  exact h

theorem of_fails (hp : Fails p) : Ensures R p c := fun _ _ hok => absurd hok (@hp _ _ _)

theorem bind (hp : Ensures R p c) (hf : ∀ a c₁, R a c₁ → Ensures S (f a) c₁) :
    Ensures S (p >>= f) c := by
  intro b c' hok
  obtain ⟨a, c₁, hpa, hfb⟩ := bind_eq_ok.1 hok
  exact hf a c₁ (hp hpa) hfb

theorem look (hp : Looks p) (hf : ∀ a, p c = .ok a c → Ensures S (f a) c) :
    Ensures S (p >>= f) c := by
  intro b c' hok
  obtain ⟨a, c₁, hpa, hfb⟩ := bind_eq_ok.1 hok
  obtain rfl := hp hpa
  exact hf a hpa hfb

/-- It does not matter what comes before. -/
theorem skip (hf : ∀ a c₁, Ensures S (f a) c₁) : Ensures S (p >>= f) c :=
  bind (R := fun _ _ => True) (fun _ _ _ => trivial) fun a c₁ _ => hf a c₁

theorem ite {P : Prop} [Decidable P] (hp : Ensures R p c) (hq : Ensures R q c) :
    Ensures R (if P then p else q) c := by
  by_cases h : P
  · rwa [if_pos h]
  · rwa [if_neg h]

/-- A diagnostic that was noted stays. -/
theorem note {d : Diagnostic} {a : α} (h : ∀ c' : Cursor, c'.noted ≠ [] → R a c') :
    Ensures R (Parse.note d >>= fun _ => Pure.pure a) c := by
  rintro b c' ⟨⟩
  exact h _ (List.cons_ne_nil _ _)

/-- The place that is read is the one where the parser is. -/
theorem here {f : Nat → Parse β} (hf : Ensures S (f c.place) c) : Ensures S (Parse.here >>= f) c :=
  fun _ _ hok => hf hok

/-- The token that is looked at is the one that comes next. -/
theorem token {f : Token → Parse β} (hf : Ensures S (f c.token) c) :
    Ensures S (Parse.token >>= f) c := fun _ _ hok => hf hok

/-- The span from a place goes to the end of the last token taken. -/
theorem spanFrom {start : Nat} {f : Span → Parse β} (hf : Ensures S (f ⟨start, c.prevStop⟩) c) :
    Ensures S (Parse.spanFrom start >>= f) c := fun _ _ hok => hf hok

theorem rounds {step : σ → Parse (σ ⊕ α)}
    (hstep : ∀ s c, I s c → Ensures (Sum.elim I R) (step s) c) (n : Nat) {s : σ} (hs : I s c) :
    Ensures R (Parse.rounds step n s) c := by
  induction n generalizing s c with
  | zero => exact of_fails fails_unexpected
  | succ n ih =>
      refine bind (hstep s c hs) fun r c₁ hr => ?_
      cases r with
      | inl s' => exact ih hr
      | inr a => exact pure hr

/-- What holds before and after each round of a loop holds after the loop. -/
theorem repeating {step : σ → Parse (σ ⊕ α)}
    (hstep : ∀ s c, I s c → Ensures (Sum.elim I R) (step s) c) {s : σ} (hs : I s c) :
    Ensures R (Parse.repeating s step) c :=
  look looks_get fun _ _ => rounds hstep _ hs

end Ensures

/-! ### Steps that stay -/

theorem Looks.stays (hp : Looks p) : Stays p := by
  intro c a c' hok
  rw [hp hok]

theorem Stays.bind (hp : Stays p) (hf : ∀ a, Stays (f a)) : Stays (p >>= f) :=
  fun c => Ensures.bind (hp c) fun a c₁ hc₁ _ _ hok => (hf a c₁ hok).trans hc₁

theorem Stays.ite {P : Prop} [Decidable P] (hp : Stays p) (hq : Stays q) :
    Stays (if P then p else q) := fun c => Ensures.ite (hp c) (hq c)

theorem stays_note (d : Diagnostic) : Stays (note d) := by
  rintro c a c' ⟨⟩
  rfl

/-- Where the punctuator is not there, nothing is taken. -/
theorem eat_eq_false (text : String) (c : Cursor) :
    Ensures (fun found c' => found = false → c' = c) (eat text) c := by
  refine .look (looks_sees text) fun b _ => .ite (.skip fun _ _ => ?_) (.pure fun _ => rfl)
  exact .pure fun h => Bool.noConfusion h

/-! ### Spans from a place -/

/-- The span of a value goes from a place to the end of the last token taken. -/
def Closes (start : Nat) (span : α → Span) (a : α) (c : Cursor) : Prop :=
  c.noted = [] → span a = ⟨start, c.prevStop⟩

variable {start : Nat} {span : α → Span} {span' : β → Span}

/-- What the parser returns begins at a place. -/
def Spans (start : Nat) (span : α → Span) (p : Parse α) : Prop :=
  ∀ c, Ensures (Closes start span) p c

/-- What the parser returns begins where the parser does. -/
def Whole (span : α → Span) (p : Parse α) : Prop := ∀ c : Cursor, Ensures (Closes c.place span) p c

namespace Spans

theorem of_fails (hp : Fails p) : Spans start span p := fun _ => .of_fails hp

theorem bind (hf : ∀ a, Spans start span' (f a)) : Spans start span' (p >>= f) :=
  fun _ => .skip hf

theorem ite {P : Prop} [Decidable P] (hp : Spans start span p) (hq : Spans start span q) :
    Spans start span (if P then p else q) := fun c => .ite (hp c) (hq c)

/-- What is returned has the span from the place on. -/
theorem done {make : Span → α} (h : ∀ s, span (make s) = s) :
    Spans start span (spanFrom start >>= fun s => pure (make s)) :=
  fun _ => .spanFrom (.pure fun _ => h _)

/-- A loop that does not say what it returns before it ends. -/
theorem repeating {step : σ → Parse (σ ⊕ α)}
    (hstep : ∀ s c, Ensures (Sum.elim (fun _ _ => True) (Closes start span)) (step s) c) (s : σ) :
    Spans start span (Parse.repeating s step) :=
  fun _ => Ensures.repeating (fun s c _ => hstep s c) trivial

end Spans

/-! ### Spans from where the parser begins -/

namespace Whole

theorem of_fails (hp : Fails p) : Whole span p := fun _ => .of_fails hp

theorem here {f : Nat → Parse α} (hf : ∀ start, Spans start span (f start)) :
    Whole span (Parse.here >>= f) := fun c _ _ hok => hf c.place c hok

theorem stay (hp : Stays p) (hf : ∀ a, Whole span' (f a)) : Whole span' (p >>= f) :=
  fun c => Ensures.bind (hp c) fun a c₁ hc₁ => hc₁ ▸ hf a c₁

theorem look (hp : Looks p) (hf : ∀ a, Whole span' (f a)) : Whole span' (p >>= f) :=
  stay hp.stays hf

theorem ite {P : Prop} [Decidable P] (hp : Whole span p) (hq : Whole span q) :
    Whole span (if P then p else q) := fun c => .ite (hp c) (hq c)

/-- Parsing goes on only where something holds. -/
theorem require {P : Prop} [Decidable P] {p : Parse PUnit} {h : PUnit → Parse α} (hp : Fails p)
    (hh : Whole span (h ⟨⟩)) : Whole span (if P then h ⟨⟩ else p >>= h) :=
  ite hh (of_fails hp.left)

/-- What is made of a value has the span of the value. -/
theorem map (hp : Whole span p) {make : α → β} (h : ∀ a, span' (make a) = span a) :
    Whole span' (p >>= fun a => pure (make a)) :=
  fun c => Ensures.bind (hp c) fun a _ ha => .pure fun hn => (h a).trans (ha hn)

theorem within (change : Allow → Allow) (hp : Whole span p) :
    Whole span (Parse.within change p) := by
  intro c a c' hok
  obtain ⟨_, c₁, hget, hok⟩ := bind_eq_ok.1 hok
  cases hget
  obtain ⟨_, c₂, hmodify, hok⟩ := bind_eq_ok.1 hok
  cases hmodify
  obtain ⟨b, c₃, hpb, hok⟩ := bind_eq_ok.1 hok
  cases hok
  have hcloses := hp _ hpb
  exact hcloses

end Whole

/-- A token that is taken is the last one taken. -/
theorem whole_take : Whole Token.span Parse.take := by
  rintro c t c' ⟨⟩ -
  rw [prevStop_advance]
  rfl

theorem whole_takeWord : Whole Token.span takeWord := by
  refine fun c => .bind (whole_take c) fun t c₁ ht => ?_
  by_cases hescaped : t.escaped = true
  · rw [if_pos hescaped]
    exact .note fun _ hnoted hn => absurd hn hnoted
  · rw [if_neg hescaped]
    exact .pure ht

end ModuleBundler.Parse
