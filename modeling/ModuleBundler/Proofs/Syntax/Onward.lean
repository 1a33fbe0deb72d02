/-
ModuleBundler/Proofs/Syntax/Onward.lean

Parsers that take a token end behind the place where they begin.

A cursor knows where the token before its own ended, and forgets it as soon as it takes
another.  So a parser that takes a token does what it does wherever the token before
ended (`Parse.Takes`), and also where that token ended right before the current one.
Now parsers only go onwards, so the parser ends behind the place where it begins
(`Takes.place_le`).

Until it has taken a token, a parser may look at all of the cursor but this
(`Parse.Blind`).  If it is only tried, it takes a token where it finds something
(`Parse.Tries`).
-/
import ModuleBundler.Proofs.Syntax.Trace

namespace ModuleBundler

/-- The cursor as it would be if the token before had ended at the place. -/
def Cursor.endingAt (c : Cursor) (stop : Nat) : Cursor := { c with prevStop := stop }

theorem Cursor.token_endingAt (c : Cursor) (stop : Nat) : (c.endingAt stop).token = c.token := rfl

theorem Cursor.advance_endingAt (c : Cursor) (stop : Nat) :
    (c.endingAt stop).advance = c.advance := rfl

/-- The token before may have ended right before the current one. -/
theorem Cursor.Wf.endingAt_place {c : Cursor} (h : c.Wf) : (c.endingAt c.place).Wf :=
  { h with
    prevStop_le := Nat.le_refl _
    waiting_le := fun hn t ht => Nat.le_trans (h.waiting_le hn t ht) h.prevStop_le }

namespace Parse

variable {α β σ : Type} {X : List Span} {p q : Parse α} {f : α → Parse β}

/-- What a parser results in if the token before the last cursor had ended at the place. -/
def relocate (stop : Nat) : EStateM.Result Failure Cursor α → EStateM.Result Failure Cursor α
  | .ok a c => .ok a (c.endingAt stop)
  | .error e c => .error e (c.endingAt stop)

/-- The parser does not mind where the token before the first ended, and knows it in the end only if
it has taken no token. -/
def Blind (p : Parse α) : Prop :=
  ∀ c stop, p (c.endingAt stop) = p c ∨ p (c.endingAt stop) = relocate stop (p c)

/-- The parser does not mind where the token before the first ended, and takes a token unless it
fails. -/
def Takes (p : Parse α) : Prop :=
  ∀ c stop, p (c.endingAt stop) = p c ∨
    ∃ e c', p c = .error e c' ∧ p (c.endingAt stop) = .error e (c'.endingAt stop)

/-- The parser does not mind where the token before the first ended, and takes a token if it finds
something. -/
def Tries (p : Parse (Option α)) : Prop :=
  ∀ c stop, p (c.endingAt stop) = p c ∨
    (∀ a c', p c ≠ .ok (some a) c') ∧ p (c.endingAt stop) = relocate stop (p c)

/-- **A parser that takes a token ends behind the place where it begins.** -/
theorem Takes.place_le [Sited α] (hp : Takes p) (ht : Traces X p) {c c' : Cursor} {a : α}
    (hc : c.Wf) (hok : p c = .ok a c') : c.place ≤ c'.prevStop := by
  rcases hp c c.place with hsame | ⟨e, c₁, herror, -⟩
  · obtain ⟨ts, hreach, -⟩ := ht hc.endingAt_place (hsame.trans hok)
    exact hreach.prevStop_le
  · cases hok.symm.trans herror

/-! ### Rules -/

theorem Takes.blind (hp : Takes p) : Blind p := by
  intro c stop
  rcases hp c stop with hsame | ⟨e, c', herror, hmoved⟩
  · exact .inl hsame
  · exact .inr (hmoved.trans (by rw [herror, relocate]))

theorem bind_apply (p : Parse α) (f : α → Parse β) (c : Cursor) :
    (p >>= f) c = match p c with
      | .ok a c' => f a c'
      | .error e c' => .error e c' := by
  show EStateM.bind p f c = _
  unfold EStateM.bind
  rcases p c with ⟨a, c'⟩ | ⟨e, c'⟩ <;> rfl

/-- The cursor that is read may be the one before it was moved. -/
theorem get_endingAt {f : Cursor → Parse β} (hf : ∀ c stop, f (c.endingAt stop) = f c)
    (c : Cursor) (stop : Nat) :
    (get >>= f) (c.endingAt stop) = f c (c.endingAt stop) :=
  congrArg (· (c.endingAt stop)) (hf c stop)

namespace Blind

theorem bind (hp : Blind p) (hf : ∀ a, Blind (f a)) : Blind (p >>= f) := by
  intro c stop
  rw [bind_apply, bind_apply]
  rcases hp c stop with hsame | hmoved
  · exact .inl (by rw [hsame])
  · rw [hmoved]
    rcases p c with ⟨a, c'⟩ | ⟨e, c'⟩
    · exact hf a c' stop
    · exact .inr rfl

theorem pure (a : α) : Blind (Pure.pure a : Parse α) := fun _ _ => .inr rfl

theorem ite {P : Prop} [Decidable P] (hp : Blind p) (hq : Blind q) :
    Blind (if P then p else q) := by
  by_cases h : P
  · rwa [if_pos h]
  · rwa [if_neg h]

/-- What is done with the whole cursor must not depend on where the token before ended. -/
theorem get {f : Cursor → Parse β} (hf : ∀ c stop, f (c.endingAt stop) = f c)
    (hb : ∀ c, Blind (f c)) : Blind (get >>= f) := by
  intro c stop
  rw [get_endingAt hf]
  exact hb c c stop

theorem modify {g : Cursor → Cursor} (hg : ∀ c stop, g (c.endingAt stop) = (g c).endingAt stop) :
    Blind (modify g : Parse PUnit) :=
  fun c stop => .inr (congrArg (EStateM.Result.ok PUnit.unit) (hg c stop))

theorem forIn {γ : Type} {step : γ → PUnit → Parse (ForInStep PUnit)}
    (hstep : ∀ a r, Blind (step a r)) (l : List γ) (r : PUnit) :
    Blind (ForIn.forIn l r step) := by
  induction l generalizing r with
  | nil => exact pure _
  | cons a l ih =>
      rw [List.forIn_cons]
      refine bind (hstep a r) fun b => ?_
      cases b with
      | done r => exact pure _
      | yield r => exact ih r

end Blind

namespace Takes

/-- After the token anything may come. -/
theorem left (hp : Takes p) : Takes (p >>= f) := by
  intro c stop
  rw [bind_apply, bind_apply]
  rcases hp c stop with hsame | ⟨e, c', herror, hmoved⟩
  · exact .inl (by rw [hsame])
  · exact .inr ⟨e, c', by rw [herror], by rw [hmoved]⟩

theorem right (hp : Blind p) (hf : ∀ a, Takes (f a)) : Takes (p >>= f) := by
  intro c stop
  rw [bind_apply, bind_apply]
  rcases hp c stop with hsame | hmoved
  · exact .inl (by rw [hsame])
  · rw [hmoved]
    rcases p c with ⟨a, c'⟩ | ⟨e, c'⟩
    · exact hf a c' stop
    · exact .inr ⟨e, c', rfl, rfl⟩

theorem ite {P : Prop} [Decidable P] (hp : Takes p) (hq : Takes q) :
    Takes (if P then p else q) := by
  by_cases h : P
  · rwa [if_pos h]
  · rwa [if_neg h]

theorem get {f : Cursor → Parse β} (hf : ∀ c stop, f (c.endingAt stop) = f c)
    (ht : ∀ c, Takes (f c)) : Takes (get >>= f) := by
  intro c stop
  rw [get_endingAt hf]
  exact ht c c stop

theorem throw (e : Failure) : Takes (throw e : Parse α) := fun c _ => .inr ⟨e, c, rfl, rfl⟩

theorem within (change : Allow → Allow) (hp : Takes p) : Takes (Parse.within change p) :=
  .get (fun _ _ => rfl) fun _ => .right (.modify fun _ _ => rfl) fun _ => hp.left

end Takes

theorem Takes.map {f : α → β} (hp : Takes p) : Takes (f <$> p) := by
  rw [map_eq_pure_bind]
  exact hp.left

namespace Tries

variable {p q : Parse (Option α)}

theorem of_takes (hp : Takes p) : Tries p := by
  intro c stop
  rcases hp c stop with hsame | ⟨e, c', herror, hmoved⟩
  · exact .inl hsame
  · rw [herror, hmoved]
    exact .inr ⟨fun _ _ h => (nomatch h), rfl⟩

theorem none : Tries (Pure.pure Option.none : Parse (Option α)) := by
  refine fun c stop => .inr ⟨fun a c₁ h => ?_, rfl⟩
  cases h

theorem ite {P : Prop} [Decidable P] (hp : Tries p) (hq : Tries q) :
    Tries (if P then p else q) := by
  by_cases h : P
  · rwa [if_pos h]
  · rwa [if_neg h]

theorem get {f : Cursor → Parse (Option α)} (hf : ∀ c stop, f (c.endingAt stop) = f c)
    (ht : ∀ c, Tries (f c)) : Tries (get >>= f) := by
  intro c stop
  rw [get_endingAt hf]
  exact ht c c stop

/-- After something was found anything may come; otherwise a token is still to be taken. -/
theorem takes {f : Option α → Parse β} (hp : Tries p) (hf : Takes (f Option.none)) :
    Takes (p >>= f) := by
  intro c stop
  rw [bind_apply, bind_apply]
  rcases hp c stop with hsame | ⟨hnone, hmoved⟩
  · exact .inl (by rw [hsame])
  · rw [hmoved]
    rcases hpc : p c with ⟨_ | a, c'⟩ | ⟨e, c'⟩
    · exact hf c' stop
    · exact absurd hpc (hnone a c')
    · exact .inr ⟨e, c', rfl, rfl⟩

end Tries

/-! ### Parsers of every grammar -/

theorem blind_token : Blind token := fun _ _ => .inr rfl

theorem blind_here : Blind here := fun _ _ => .inr rfl

theorem blind_peek : Blind peek := fun _ _ => .inr rfl

theorem blind_allowed : Blind allowed := fun _ _ => .inr rfl

theorem blind_sees (text : String) : Blind (sees text) := fun _ _ => .inr rfl

theorem blind_seesWord (word : String) : Blind (seesWord word) := fun _ _ => .inr rfl

theorem blind_note (d : Diagnostic) : Blind (note d) := .modify fun _ _ => rfl

theorem unexpected_of_lexical {c : Cursor} {d : Diagnostic} {ds : List Diagnostic}
    (hnothing : c.token.isNothing = true) (hlexical : c.lexical = d :: ds) :
    (unexpected : Parse α) c = .error { reason := d } { c with lexical := ds } := by
  show (if c.token.isNothing then _ else _ : Parse α) c = _
  rw [if_pos hnothing, hlexical]
  rfl

theorem unexpected_of_plain {c : Cursor} (h : c.token.isNothing = true → c.lexical = []) :
    (unexpected : Parse α) c = .error { reason := .unexpectedToken } c := by
  show (if c.token.isNothing then _ else _ : Parse α) c = _
  by_cases hnothing : c.token.isNothing = true
  · rw [if_pos hnothing, h hnothing]
    rfl
  · rw [if_neg hnothing]
    rfl

theorem takes_unexpected : Takes (unexpected : Parse α) := by
  intro c stop
  refine .inr ?_
  by_cases h : c.token.isNothing = true → c.lexical = []
  · exact ⟨_, c, unexpected_of_plain h, unexpected_of_plain h⟩
  · obtain ⟨hnothing, hlexical⟩ := Classical.not_imp.1 h
    obtain ⟨d, ds, hlexical⟩ := List.exists_cons_of_ne_nil hlexical
    exact ⟨_, _, unexpected_of_lexical hnothing hlexical, unexpected_of_lexical hnothing hlexical⟩

theorem takes_missing (wanted : String) : Takes (missing wanted : Parse α) :=
  .right blind_token fun _ => .throw _

theorem takes_take : Takes take := fun _ _ => .inl rfl

theorem takes_takeWord : Takes takeWord := takes_take.left

theorem blind_eatWord (word : String) : Blind (eatWord word) :=
  (blind_seesWord word).bind fun _ => .ite takes_takeWord.left.blind (.pure _)

/-- A token is taken if it is found, and another parser runs if it is not. -/
theorem takes_unless (found : Token → Bool) {p : Parse α} {q : Parse PUnit} (hp : Takes p)
    (hq : Takes q) :
    Takes ((token >>= fun t => if found t then p >>= fun _ => pure true else pure false) >>=
      fun b => if b then pure ⟨⟩ else q) := by
  have hassoc : ((token >>= fun t => if found t then p >>= fun _ => pure true else pure false) >>=
      fun b => if b then pure ⟨⟩ else q) =
        token >>= fun t => if found t then p >>= fun _ => pure ⟨⟩ else q := by
    rw [bind_assoc]
    refine bind_congr fun t => ?_
    by_cases h : found t = true
    · rw [if_pos h, if_pos h, bind_assoc]
      rfl
    · rw [if_neg h, if_neg h]
      rfl
  rw [hassoc]
  exact .right blind_token fun t => .ite hp.left hq

theorem takes_expect (text : String) : Takes (expect text) :=
  takes_unless (·.is text) takes_take (takes_missing text)

theorem takes_expectWord (word : String) : Takes (expectWord word) :=
  takes_unless (·.isWord word) takes_takeWord (takes_missing word)

theorem blind_rounds {step : σ → Parse (σ ⊕ α)} (hstep : ∀ s, Blind (step s)) (n : Nat) (s : σ) :
    Blind (rounds step n s) := by
  induction n generalizing s with
  | zero => exact takes_unexpected.blind
  | succ n ih =>
      refine (hstep s).bind fun r => ?_
      cases r with
      | inl s' => exact ih s'
      | inr a => exact .pure a

theorem blind_repeating {step : σ → Parse (σ ⊕ α)} (hstep : ∀ s, Blind (step s)) (s : σ) :
    Blind (repeating s step) :=
  .get (fun _ _ => rfl) fun _ => blind_rounds hstep _ s

end Parse

end ModuleBundler
