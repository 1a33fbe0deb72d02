/-
ModuleBundler/Proofs/Toml/Spelling.lean

What stands between double quotes, and what it spells.  Each character is spelled as it is, by a
letter, or by a number (`Spells`); a quote may stand for itself where too few quotes stand before it
to end the text.  A printed text spells the text (`spells_basic`), and the reader of basic strings
finds what is spelled (`Spells.decode`).

A block ends with the first three quotes together; `Open` says of a text that it holds no such
three, and that it does not end before it should (`blockLength_of_open`).

Main results: `Spells.decode`, `blockLength_of_open`.
-/
import Mathlib.Tactic.IntervalCases
import ModuleBundler.Toml.Lexeme
import ModuleBundler.Toml.Printer
import ModuleBundler.Toml.Quoted

namespace ModuleBundler.Toml

/-! ### Characters by number -/

theorem hexValue?_hexDigit : ∀ n < 16, Decode.hexValue? (Printer.hexDigit n) = some n := by decide

theorem hexDigit_ne (c : Char) (hc : Decode.hexValue? c = none) {n : Nat} (hn : n < 16) :
    Printer.hexDigit n ≠ c := by
  rintro rfl
  rw [hexValue?_hexDigit n hn] at hc
  cases hc

/-- Four digits of which two are zeros are the number that they were made of. -/
theorem codePoint_hexDigit {c : Char} (hc : c.toNat < 0x80) (place : Nat) (rest : List Char) :
    Decode.codePoint place 4
      ('0' :: '0' :: Printer.hexDigit (c.toNat / 16) :: Printer.hexDigit (c.toNat % 16) :: rest) =
        .ok c := by
  have hhigh := hexValue?_hexDigit (c.toNat / 16) (by omega)
  have hlow := hexValue?_hexDigit (c.toNat % 16) (by omega)
  have hzero : Decode.hexValue? '0' = some 0 := rfl
  have hsum : 16 * (c.toNat / 16) + c.toNat % 16 = c.toNat := by omega
  simp [Decode.codePoint, hhigh, hlow, hzero, hsum]
  omega

/-- A character that needs no escape stands for itself on one line. -/
theorem isPlain_of_isControl {c : Char} (h : Printer.isControl c = false) (hline : c ≠ '\n') :
    Decode.isPlain c = true := by
  by_cases htab : c = '\t'
  · rw [htab]
    rfl
  · simp [Printer.isControl] at h
    have hle : 0x20 ≤ c.toNat := Nat.le_of_not_lt fun hlt => hline (h.1 hlt htab)
    simp [Decode.isPlain, hle, h.2]

/-! ### Spellings -/

/-- A text between double quotes that spells characters, where so many quotes stand right before it
for themselves.  At most `free` quotes may stand together. -/
inductive Spells (inBlock : Bool) (free : Nat) : Nat → List Char → List Char → Prop
  | nil {run : Nat} (hrun : run ≤ free) : Spells inBlock free run [] []
  | quote {run : Nat} {body cs : List Char} (hrun : run < free)
      (h : Spells inBlock free (run + 1) body cs) :
      Spells inBlock free run ('"' :: body) ('"' :: cs)
  | plain {run : Nat} {c : Char} {body cs : List Char} (hc : Decode.isBasicChar inBlock c = true)
      (hquote : c ≠ '"') (hslash : c ≠ '\\') (h : Spells inBlock free 0 body cs) :
      Spells inBlock free run (c :: body) (c :: cs)
  | letter {run : Nat} {e c : Char} {body cs : List Char} (he : Decode.shortEscape? e = some c)
      (h : Spells inBlock free 0 body cs) : Spells inBlock free run ('\\' :: e :: body) (c :: cs)
  | number {run : Nat} {c : Char} {body cs : List Char} (hc : c.toNat < 0x80)
      (h : Spells inBlock free 0 body cs) :
      Spells inBlock free run
        ('\\' :: 'u' :: '0' :: '0' :: Printer.hexDigit (c.toNat / 16) ::
          Printer.hexDigit (c.toNat % 16) :: body)
        (c :: cs)

variable {inBlock : Bool} {free run : Nat} {body cs : List Char}

/-- A printed character is followed by what spells the rest. -/
theorem spells_escape {c : Char} (hc : c ≠ '"') (h : Spells inBlock free 0 body cs) :
    Spells inBlock free run (Printer.escape inBlock c ++ body) (c :: cs) := by
  unfold Printer.escape
  split
  case h_4 =>
    cases inBlock with
    | false => exact .letter rfl h
    | true => exact .plain rfl (by decide) (by decide) h
  case h_7 hslash _ _ hline _ _ =>
    split
    · next hcontrol =>
      have hn : c.toNat < 0x80 := by simp [Printer.isControl] at hcontrol; omega
      exact .number hn h
    · next hcontrol =>
      have hplain := isPlain_of_isControl (Bool.eq_false_of_not_eq_true hcontrol) hline
      exact .plain (by simp [Decode.isBasicChar, hplain]) hc hslash h
  all_goals exact .letter rfl h

/-- A printed text spells the text. -/
theorem spells_basic (hrun : run ≤ free) :
    Spells inBlock free run (Printer.basic inBlock free run cs) cs := by
  fun_induction Printer.basic inBlock free run cs with
  | case1 run => exact .nil hrun
  | case2 run rest hfree ih => exact .quote hfree (ih (by omega))
  | case3 run rest _ ih => exact .letter rfl (ih (Nat.zero_le _))
  | case4 run c rest hc ih => exact spells_escape hc (ih (Nat.zero_le _))

namespace Spells

theorem decode_cons {c : Char} (hc : Decode.isBasicChar inBlock c = true) (hslash : c ≠ '\\')
    (place : Nat) (rest : List Char) :
    Decode.basic inBlock place (c :: rest) =
      (do return c :: (← Decode.basic inBlock (place + 1) rest)) := by
  rw [Decode.basic.eq_def]
  split
  case h_1 heq => cases heq
  case h_2 heq => exact absurd (List.cons.inj heq).1 hslash
  case h_3 heq => exact absurd (List.cons.inj heq).1 hslash
  case h_4 heq => cases heq; rw [if_pos hc]

/-- The reader of basic strings finds what is spelled. -/
theorem decode (h : Spells inBlock free run body cs) (place : Nat) :
    Decode.basic inBlock place body = .ok cs := by
  have hline : Decode.isBasicChar inBlock '"' = true := rfl
  induction h generalizing place with
  | nil _ => rw [Decode.basic]
  | quote _ _ ih => rw [decode_cons hline (by decide), ih]; rfl
  | plain hc _ hslash _ ih => rw [decode_cons hc hslash, ih]; rfl
  | letter he _ ih => simp [Decode.basic, he, ih]
  | number hc _ ih =>
      have hshort : Decode.shortEscape? 'u' = none := rfl
      have hcount : Decode.digitCount? 'u' = some 4 := rfl
      simp [Decode.basic, hshort, hcount, codePoint_hexDigit hc, ih]
      rfl

theorem basicLength_cons {c : Char} (hquote : c ≠ '"') (hline : c ≠ '\n') (hslash : c ≠ '\\')
    (rest : List Char) : Lexeme.basicLength (c :: rest) = 1 + Lexeme.basicLength rest := by
  rw [Lexeme.basicLength] <;> simp [hquote, hline, hslash]

theorem basicLength_slash {e : Char} (hline : e ≠ '\n') (rest : List Char) :
    Lexeme.basicLength ('\\' :: e :: rest) = 2 + Lexeme.basicLength rest := by
  by_cases hslash : e = '\\'
  · rw [hslash, Lexeme.basicLength]
  by_cases hquote : e = '"'
  · rw [hquote, Lexeme.basicLength]
  · rw [Lexeme.basicLength, basicLength_cons hquote hline hslash, ← Nat.add_assoc]
    all_goals simp [hslash, hquote]

/-- On one line, the quote after a spelling ends it. -/
theorem basicLength (h : Spells false 0 run body cs) (rest : List Char) :
    Lexeme.basicLength (body ++ '"' :: rest) = body.length + 1 := by
  induction h with
  | nil _ => rfl
  | quote hrun _ _ => exact absurd hrun (Nat.not_lt_zero _)
  | @plain run c body cs hc hquote hslash _ ih =>
      have hline : c ≠ '\n' := by
        rintro rfl
        cases hc
      rw [List.cons_append, basicLength_cons hquote hline hslash, ih, List.length_cons]
      omega
  | @letter run e c body cs he _ ih =>
      have hline : e ≠ '\n' := by
        rintro rfl
        cases he
      rw [List.cons_append, List.cons_append, basicLength_slash hline, ih]
      simp only [List.length_cons]
      omega
  | @number run c body cs hc _ ih =>
      -- the digits are scanned like plain characters
      have hdigit : ∀ k < 16, ∀ rest, Lexeme.basicLength (Printer.hexDigit k :: rest) =
          1 + Lexeme.basicLength rest := fun k hk => basicLength_cons
        (hexDigit_ne '"' rfl hk) (hexDigit_ne '\n' rfl hk) (hexDigit_ne '\\' rfl hk)
      have hzero : ∀ rest, Lexeme.basicLength ('0' :: rest) = 1 + Lexeme.basicLength rest :=
        hdigit 0 (by omega)
      simp only [List.cons_append]
      rw [basicLength_slash (by decide), hzero, hzero, hdigit (c.toNat / 16) (by omega),
        hdigit (c.toNat % 16) (by omega), ih]
      simp only [List.length_cons]
      omega

end Spells

/-! ### Blocks -/

/-- A text, before which so many quotes stand, in a block of such quotes: nowhere do three quotes
stand together, and no backslash takes its end away. -/
inductive Open (q : Char) : Nat → List Char → Prop
  | nil {run : Nat} (hrun : run ≤ 2) : Open q run []
  | quote {run : Nat} {body : List Char} (hrun : run < 2) (h : Open q (run + 1) body) :
      Open q run (q :: body)
  | plain {run : Nat} {c : Char} {body : List Char} (hquote : c ≠ q) (hslash : q = '"' → c ≠ '\\')
      (h : Open q 0 body) : Open q run (c :: body)
  | escape {run : Nat} {c : Char} {body : List Char} (hq : q = '"') (h : Open q 0 body) :
      Open q run ('\\' :: c :: body)

theorem blockLength_cons {q a : Char} {text : List Char}
    (hthree : ∀ rest, a :: text ≠ q :: q :: q :: rest) (hslash : q = '"' → a ≠ '\\') :
    Lexeme.blockLength q (a :: text) = 1 + Lexeme.blockLength q text := by
  rw [Lexeme.blockLength.eq_def]
  split
  case h_1 heq => cases heq
  case h_2 heq =>
    obtain ⟨rfl, rfl⟩ := List.cons.inj heq
    rw [if_neg fun hq => hslash hq rfl]
  case h_3 heq =>
    obtain ⟨rfl, rfl⟩ := List.cons.inj heq
    rw [if_neg]
    rintro ⟨rfl, rfl, rfl⟩
    exact hthree _ rfl
  case h_4 heq =>
    obtain ⟨rfl, rfl⟩ := List.cons.inj heq
    rfl

variable {q : Char} {rest : List Char}

/-- Up to two quotes before another character belong to the block. -/
theorem blockLength_replicate {c : Char} (hq : q ≠ '\\') (hquote : c ≠ q) (hrun : run ≤ 2) :
    Lexeme.blockLength q (List.replicate run q ++ c :: rest) =
      run + Lexeme.blockLength q (c :: rest) := by
  have hone : Lexeme.blockLength q (q :: c :: rest) = 1 + Lexeme.blockLength q (c :: rest) :=
    blockLength_cons (by simp [hquote]) fun _ => hq
  have htwo : Lexeme.blockLength q (q :: q :: c :: rest) =
      2 + Lexeme.blockLength q (c :: rest) := by
    rw [blockLength_cons (by simp [hquote]) fun _ => hq, hone, ← Nat.add_assoc]
  interval_cases run
  · exact (Nat.zero_add _).symm
  · exact hone
  · exact htwo

/-- Three quotes end a block, and up to two before them belong to it. -/
theorem blockLength_close (hq : q ≠ '\\') (hrun : run ≤ 2) (hrest : rest.head? ≠ some q) :
    Lexeme.blockLength q (List.replicate run q ++ q :: q :: q :: rest) = run + 3 := by
  have hthree : ∀ more, Lexeme.blockLength q (q :: q :: q :: more) =
      3 + Lexeme.extraQuotes q more := by
    intro more
    rw [Lexeme.blockLength, if_pos ⟨rfl, rfl, rfl⟩]
    simp [hq]
  have hextra : Lexeme.extraQuotes q (List.replicate run q ++ rest) = run := by
    unfold Lexeme.extraQuotes
    rcases rest with - | ⟨c, rest⟩
    · interval_cases run <;> simp
    · have hne : c ≠ q := by simpa using hrest
      interval_cases run <;> simp [hne]
  have hquotes : List.replicate run q ++ q :: q :: q :: rest =
      q :: q :: q :: (List.replicate run q ++ rest) := by
    interval_cases run <;> rfl
  rw [hquotes, hthree, hextra, Nat.add_comm]

/-- The three quotes after the text of a block end it. -/
theorem blockLength_of_open (hq : q ≠ '\\') (h : Open q run body) (hrun : run ≤ 2)
    (hrest : rest.head? ≠ some q) :
    Lexeme.blockLength q (List.replicate run q ++ (body ++ q :: q :: q :: rest)) =
      run + body.length + 3 := by
  induction h with
  | nil hrun => exact blockLength_close hq hrun hrest
  | @quote run body hrun _ ih =>
      -- the quote makes the run before it longer
      have hquotes : List.replicate run q ++ (q :: body ++ q :: q :: q :: rest) =
          List.replicate (run + 1) q ++ (body ++ q :: q :: q :: rest) := by
        rw [List.replicate_succ', List.append_assoc]
        rfl
      rw [hquotes, ih (by omega), List.length_cons]
      omega
  | @plain run c body hquote hslash _ ih =>
      have hlength := ih (Nat.zero_le _)
      rw [List.replicate_zero, List.nil_append] at hlength
      rw [List.cons_append, blockLength_replicate hq hquote hrun,
        blockLength_cons (by simp [hquote]) hslash, hlength, List.length_cons]
      omega
  | @escape run c body hbasic _ ih =>
      have hlength := ih (Nat.zero_le _)
      rw [List.replicate_zero, List.nil_append] at hlength
      rw [List.cons_append, List.cons_append, blockLength_replicate hq hq.symm hrun,
        Lexeme.blockLength, if_pos hbasic, hlength]
      simp only [List.length_cons]
      omega

/-- A spelling in which at most two quotes stand together can be the text of a block. -/
theorem Spells.isOpen (h : Spells inBlock 2 run body cs) : Open '"' run body := by
  induction h with
  | nil hrun => exact .nil hrun
  | quote hrun _ ih => exact .quote hrun ih
  | plain _ hquote hslash _ ih => exact .plain hquote (fun _ => hslash) ih
  | letter _ _ ih => exact .escape rfl ih
  | @number run c body cs hc _ ih =>
      have hdigit : ∀ k < 16, ∀ {body}, Open '"' 0 body →
          Open '"' 0 (Printer.hexDigit k :: body) := fun k hk _ =>
        .plain (hexDigit_ne '"' rfl hk) fun _ => hexDigit_ne '\\' rfl hk
      have hlow := hdigit (c.toNat % 16) (by omega) ih
      have hhigh := hdigit (c.toNat / 16) (by omega) hlow
      exact .escape rfl (hdigit 0 (by omega) (hdigit 0 (by omega) hhigh))

/-! ### Runs -/

theorem le_longestRun_go (c : Char) (run : Nat) (cs : List Char) :
    run ≤ Printer.longestRun.go c run cs := by
  induction cs generalizing run with
  | nil => exact Nat.le_refl _
  | cons d rest ih =>
      rw [Printer.longestRun.go]
      split
      · exact Nat.le_of_succ_le (ih (run + 1))
      · exact Nat.le_max_left _ _

/-- A text without three single quotes together can be the text of a block. -/
theorem open_of_longestRun (h : Printer.longestRun.go '\'' run cs ≤ 2) : Open '\'' run cs := by
  induction cs generalizing run with
  | nil => exact .nil h
  | cons d rest ih =>
      rw [Printer.longestRun.go] at h
      split at h
      next hd =>
        have hrun := le_longestRun_go '\'' (run + 1) rest
        rw [hd]
        exact .quote (by omega) (ih h)
      next hd =>
        have hrest := Nat.le_trans (Nat.le_max_right _ _) h
        exact .plain hd (fun hq => absurd hq (by decide)) (ih hrest)

end ModuleBundler.Toml
