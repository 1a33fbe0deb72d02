/-
ModuleBundler/Proofs/Text/Initializer.lean

Object initializers of string literals and decimal numbers, read with the scanner of the language
(`Initializer.read?`).  What is written as an object is read back member by member
(`read?_json`).  The object that members initialize is not the table of them: of equal keys the
last one counts, and a member `"__proto__": value` sets the prototype and makes no property
(`Initializer.properties`).  So a table that is written and read again lacks the key `__proto__`
and nothing else (`get?_properties`).

Main results: `Initializer.read?_json` and `Initializer.get?_properties`.
-/
import ModuleBundler.Bundle.Render
import ModuleBundler.Proofs.Table.OfList
import ModuleBundler.Proofs.Text.Quoted

namespace ModuleBundler

/-! ### Decimal numbers -/

namespace Lexeme

/-- The number that a decimal literal at the head of some characters denotes, and the characters
after it. -/
def decimal? (cs : List Char) : Option (Nat × List Char) :=
  let s := Lexeme.scan cs
  if s.kind = .number .decimal ∧ s.errors = [] ∧ s.raw.all Char.isDigit then
    some (digitsValue 10 s.raw, s.rest)
  else none

/-- A character that does not go on with a number. -/
structure EndsNumber (c : Char) : Prop where
  digit : c.isDigit = false
  start : Identifier.isStart c = false
  point : c ≠ '.'

theorem EndsNumber.ne {c d : Char} (h : EndsNumber c) (hd : Identifier.isStart d = true) : c ≠ d := by
  rintro rfl
  rw [h.start] at hd
  cases hd

theorem isDigit_iff {c : Char} : c.isDigit = true ↔ 48 ≤ c.toNat ∧ c.toNat ≤ 57 := by
  simp only [Char.isDigit, Bool.and_eq_true, decide_eq_true_eq]
  exact Iff.rfl

theorem digitValue?_ten {c : Char} :
    digitValue? 10 c = if c.isDigit then some (c.toNat - 48) else none := by
  have hle : ∀ d e : Char, d ≤ e ↔ d.toNat ≤ e.toNat := fun _ _ => Iff.rfl
  unfold digitValue?
  simp only [Bool.and_eq_true, decide_eq_true_eq, hle, isDigit_iff]
  have h0 : '0'.toNat = 48 := rfl
  have h9 : '9'.toNat = 57 := rfl
  have ha : 'a'.toNat = 97 := rfl
  have hf : 'f'.toNat = 102 := rfl
  have hA : 'A'.toNat = 65 := rfl
  have hF : 'F'.toNat = 70 := rfl
  rw [h0, h9, ha, hf, hA, hF]
  generalize c.toNat = n
  split_ifs <;> first | rfl | omega

theorem isDigitOf_ten (c : Char) : isDigitOf 10 c = c.isDigit := by
  unfold isDigitOf
  rw [digitValue?_ten]
  split_ifs with h <;> simp [h]

/-- Digits are read up to a character that does not go on with them. -/
theorem digitsOf_append {ds : List Char} (hds : ∀ d ∈ ds, d.isDigit = true) {c : Char}
    (hc : EndsNumber c) (rest : List Char) : digitsOf 10 (ds ++ c :: rest) = ⟨ds, c :: rest, []⟩ := by
  induction ds with
  | nil =>
      have hbar : c ≠ '_' := hc.ne (by decide)
      unfold digitsOf
      simp [hbar, isDigitOf_ten, hc.digit]
  | cons d ds ih =>
      have hd := hds d List.mem_cons_self
      have hbar : d ≠ '_' := by
        rintro rfl
        cases hd
      unfold digitsOf
      simp [hbar, isDigitOf_ten, hd, ih fun e he => hds e (List.mem_cons_of_mem _ he)]

/-! ### Written numbers -/

theorem isDigit_of_mem_toString {n : Nat} {c : Char} (h : c ∈ (toString n).toList) :
    c.isDigit = true := by
  rw [Nat.toString_eq_ofList_toDigits, String.toList_ofList] at h
  exact Nat.isDigit_of_mem_toDigits (by decide) (by decide) h

theorem digitsValue_toString (n : Nat) : digitsValue 10 (toString n).toList = n := by
  have hvalue : ∀ (ds : List Char) (k : Nat), (∀ d ∈ ds, d.isDigit = true) →
      ds.foldl (fun n c => n * 10 + (digitValue? 10 c).getD 0) k = Nat.ofDigitChars 10 ds k := by
    intro ds
    induction ds with
    | nil => exact fun k _ => rfl
    | cons d ds ih =>
        intro k hds
        rw [List.foldl_cons, Nat.ofDigitChars_cons, digitValue?_ten,
          if_pos (hds d List.mem_cons_self), ih _ fun e he => hds e (List.mem_cons_of_mem _ he),
          Nat.mul_comm]
        rfl
  have hdigits : ∀ d ∈ (toString n).toList, d.isDigit = true := fun d => isDigit_of_mem_toString
  unfold digitsValue
  rw [hvalue _ _ hdigits, Nat.toString_eq_ofList_toDigits, String.toList_ofList]
  exact Nat.ofDigitChars_toDigits (by decide) (by decide)

/-- Only the text of zero begins with a zero. -/
theorem head?_toDigits {n : Nat} (h : 0 < n) : (Nat.toDigits 10 n).head? ≠ some '0' := by
  induction n using Nat.strongRecOn with
  | _ n ih =>
      rw [Nat.toDigits_eq_if (by decide)]
      split
      · interval_cases n <;> decide
      · rw [List.head?_append, Option.or_of_isSome (by simp)]
        exact ih (n / 10) (by omega) (by omega)

theorem closeNumber_eq (form : NumberForm) {p : Part} {c : Char} {rest : List Char}
    (hrest : p.rest = c :: rest) (hc : EndsNumber c) :
    (closeNumber form p).kind = .number form ∧ (closeNumber form p).raw = p.raw ∧
      (closeNumber form p).rest = p.rest ∧ (closeNumber form p).errors = p.errors := by
  unfold closeNumber trailing
  simp [hrest, hc.digit, hc.start]

theorem optionalExponent_eq {c : Char} {rest : List Char} (hc : EndsNumber c) :
    optionalExponent (c :: rest) = Part.nothing (c :: rest) := by
  have h₁ : c ≠ 'e' := hc.ne (by decide)
  have h₂ : c ≠ 'E' := hc.ne (by decide)
  unfold optionalExponent
  simp [h₁, h₂]

theorem number_zero {c : Char} (hc : EndsNumber c) (rest : List Char)
    (hexponent : (Part.mk ['0'] (c :: rest) []).andThen optionalExponent =
      ⟨['0'], c :: rest, []⟩) :
    number ('0' :: c :: rest) = closeNumber .decimal ⟨['0'], c :: rest, []⟩ := by
  -- none of the letters follows that make the zero the head of another number
  have hletter : ¬(c = 'b' ∨ c = 'B' ∨ c = 'o' ∨ c = 'O' ∨ c = 'x' ∨ c = 'X' ∨ c = 'n') := by
    rintro (rfl | rfl | rfl | rfl | rfl | rfl | rfl) <;> exact absurd hc.start (by decide)
  obtain ⟨hdigit, hstart, hpoint⟩ := hc
  unfold number
  split <;> simp_all

/-- The text of a number is scanned as a number. -/
theorem number_toString (n : Nat) {c : Char} (hc : EndsNumber c) (rest : List Char) :
    number ((toString n).toList ++ c :: rest) =
      closeNumber .decimal ⟨(toString n).toList, c :: rest, []⟩ := by
  have hexponent : (Part.mk (toString n).toList (c :: rest) []).andThen optionalExponent =
      ⟨(toString n).toList, c :: rest, []⟩ := by
    simp [Part.andThen, optionalExponent_eq hc, Part.nothing]
  rcases Nat.eq_zero_or_pos n with rfl | hn
  · have hzero : (toString 0).toList = ['0'] := rfl
    rw [hzero] at hexponent ⊢
    exact number_zero hc rest hexponent
  · have hdigits : ∀ d ∈ (toString n).toList, d.isDigit = true := fun d => isDigit_of_mem_toString
    have hread := digitsOf_append hdigits hc rest
    have hhead := head?_toDigits hn
    have hlist : (toString n).toList = Nat.toDigits 10 n := by
      rw [Nat.toString_eq_ofList_toDigits, String.toList_ofList]
    rw [hlist] at hdigits hread hexponent ⊢
    obtain ⟨d, ds, hds⟩ := List.exists_cons_of_ne_nil (Nat.toDigits_ne_nil (b := 10) (n := n))
    rw [hds] at hdigits hread hexponent hhead ⊢
    have hpoint : d ≠ '.' := by
      rintro rfl
      cases hdigits _ List.mem_cons_self
    -- a number that begins with a zero would be read as one of another base
    have hzero : d ≠ '0' := by simpa using hhead
    have hbig : c ≠ 'n' := hc.ne (by decide)
    rw [List.cons_append] at hread ⊢
    unfold number
    simp [hpoint, hzero, hread, hc.point, hbig, hexponent]

/-- What begins with a digit is scanned as a number. -/
theorem scan_digit {d : Char} (hd : d.isDigit = true) (cs : List Char) :
    scan (d :: cs) = number (d :: cs) := by
  unfold scan
  split <;> simp_all

/-- **The text of a number denotes the number.** -/
theorem decimal?_toString (n : Nat) {c : Char} (hc : EndsNumber c) (rest : List Char) :
    decimal? ((toString n).toList ++ c :: rest) = some (n, c :: rest) := by
  have hscan : scan ((toString n).toList ++ c :: rest) =
      closeNumber .decimal ⟨(toString n).toList, c :: rest, []⟩ := by
    rw [← number_toString n hc rest]
    have hne : (toString n).toList ≠ [] := by
      rw [Nat.toString_eq_ofList_toDigits, String.toList_ofList]
      exact Nat.toDigits_ne_nil
    obtain ⟨d, ds, hds⟩ := List.exists_cons_of_ne_nil hne
    have hd : d.isDigit = true := isDigit_of_mem_toString (n := n) (hds ▸ List.mem_cons_self)
    rw [hds, List.cons_append]
    exact scan_digit hd _
  obtain ⟨hkind, hraw, hrest, herrors⟩ := closeNumber_eq .decimal (p := ⟨(toString n).toList, c :: rest, []⟩)
    rfl hc
  have hdigits : (toString n).toList.all Char.isDigit = true :=
    List.all_eq_true.2 fun d => isDigit_of_mem_toString
  unfold decimal?
  dsimp only
  rw [hscan, hkind, hraw, hrest, herrors, if_pos ⟨rfl, rfl, hdigits⟩, digitsValue_toString]

end Lexeme

/-! ### Objects -/

namespace Initializer

/-- A member: a string literal, a colon and a decimal literal. -/
def member? (cs : List Char) : Option ((String × Nat) × List Char) :=
  match Lexeme.literal? cs with
  | some (key, ':' :: rest) => (Lexeme.decimal? rest).map fun (value, rest) => ((key, value), rest)
  | _ => none

/-- Members with commas between them, up to the closing brace. -/
def members? : Nat → List Char → Option (List (String × Nat) × List Char)
  | 0, _ => none
  | n + 1, cs =>
      match member? cs with
      | some (m, ',' :: rest) => (members? n rest).map fun (ms, rest) => (m :: ms, rest)
      | some (m, '\x7d' :: rest) => some ([m], rest)
      | _ => none

/-- The members of an object initializer that is all of a text. -/
def read? (cs : List Char) : Option (List (String × Nat)) :=
  match cs with
  | '\x7b' :: rest =>
      if rest = ['\x7d'] then some []
      else
        match members? rest.length rest with
        | some (ms, []) => some ms
        | _ => none
  | _ => none

/-- The own properties of the object that members initialize: of equal keys the last one counts,
and `"__proto__":` sets the prototype. -/
def properties (ms : List (String × Nat)) : Table String Nat :=
  Table.ofList (ms.filter fun m => m.1 != "__proto__")

/-! ### Reading what is written -/

theorem member?_append (key : String) (value : Nat) {c : Char} (hc : Lexeme.EndsNumber c)
    (rest : List Char) :
    member? ((Json.member key (toString value)).toList ++ c :: rest) =
      some ((key, value), c :: rest) := by
  have htext : (Json.member key (toString value)).toList ++ c :: rest =
      Quoted.encode key.toList ++ ':' :: ((toString value).toList ++ c :: rest) := by
    simp [Json.member, String.quoted]
  unfold member?
  rw [htext, Quoted.literal?_encode]
  simp only [Lexeme.decimal?_toString value hc, String.ofList_toList]
  rfl

theorem endsNumber_comma : Lexeme.EndsNumber ',' := ⟨by decide, by decide, by decide⟩
theorem endsNumber_brace : Lexeme.EndsNumber '\x7d' := ⟨by decide, by decide, by decide⟩

/-- Members as they stand between the braces. -/
def listed (ms : List (String × Nat)) : List Char :=
  (",".intercalate (ms.map fun m => Json.member m.1 (toString m.2))).toList

theorem json_eq (t : Table String Nat) :
    t.json.toList = '\x7b' :: (listed t.entries ++ ['\x7d']) := by
  simp [Table.json, Json.object, listed]

theorem listed_singleton (m : String × Nat) :
    listed [m] = (Json.member m.1 (toString m.2)).toList := by
  simp [listed]

theorem listed_cons_cons (m m' : String × Nat) (ms : List (String × Nat)) :
    listed (m :: m' :: ms) =
      (Json.member m.1 (toString m.2)).toList ++ ',' :: listed (m' :: ms) := by
  simp [listed, String.intercalate_cons_cons]

theorem length_lt_listed (m : String × Nat) (ms : List (String × Nat)) :
    ms.length < (listed (m :: ms)).length := by
  induction ms generalizing m with
  | nil =>
      rw [listed_singleton]
      simp [Json.member]
  | cons m' ms ih =>
      have := ih m'
      rw [listed_cons_cons, List.length_append, List.length_cons, List.length_cons]
      omega

/-- Members with commas between them are read up to the closing brace. -/
theorem members?_listed (m : String × Nat) (ms : List (String × Nat)) {n : Nat}
    (hn : ms.length < n) (rest : List Char) :
    members? n (listed (m :: ms) ++ '\x7d' :: rest) = some (m :: ms, rest) := by
  induction ms generalizing m n with
  | nil =>
      obtain ⟨n, rfl⟩ := Nat.exists_eq_add_one_of_ne_zero (Nat.ne_of_gt hn)
      rw [listed_singleton, members?, member?_append _ _ endsNumber_brace]
      rfl
  | cons m' ms ih =>
      obtain ⟨n, rfl⟩ := Nat.exists_eq_add_one_of_ne_zero (Nat.ne_zero_of_lt hn)
      rw [listed_cons_cons, List.append_assoc, List.cons_append, members?,
        member?_append _ _ endsNumber_comma]
      simp only [ih m' (Nat.lt_of_succ_lt_succ hn), Option.map_some]

/-- **A table that is written as an object is read back.** -/
theorem read?_json (t : Table String Nat) : read? t.json.toList = some t.entries := by
  rw [json_eq, read?]
  rcases t.entries with - | ⟨m, ms⟩
  · exact if_pos (by simp [listed])
  · have hlength := length_lt_listed m ms
    rw [if_neg, members?_listed m ms (by rw [List.length_append]; omega)]
    intro hclose
    have := congrArg List.length hclose
    rw [List.length_append, List.length_singleton] at this
    omega

/-- **The properties of the object are what the table has, but for the prototype.** -/
theorem get?_properties (t : Table String Nat) (s : String) :
    (properties t.entries).get? s = if s = "__proto__" then none else t.get? s := by
  have hunique : ∀ v w, (s, v) ∈ t.entries.filter (fun m => m.1 != "__proto__") →
      (s, w) ∈ t.entries.filter (fun m => m.1 != "__proto__") → v = w := by
    intro v w hv hw
    have heq := List.inj_on_of_nodup_map t.nodup (List.mem_of_mem_filter hv)
      (List.mem_of_mem_filter hw) rfl
    exact congrArg Prod.snd heq
  refine Option.ext fun v => ?_
  rw [properties, Table.get?_ofList_eq_some_iff hunique, List.mem_filter]
  split
  next hproto => simp [hproto]
  next hproto => simp [hproto, Table.get?_eq_some_iff]

end Initializer

end ModuleBundler
