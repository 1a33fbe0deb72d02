/-
ModuleBundler/Proofs/Text/Quoted.lean

Texts between double quotes, read as string literals.  What a literal denotes is said one character
at a time (`Quoted.Denotes`), and the scanner of strings finds it (`Denotes.literal?_append`).

A quoted text denotes the text, whatever it is: in double quotes nothing has to be escaped but the
quote, the backslash and the control characters, for a string may hold U+2028 and U+2029 as they
are.  A literal that is laid out denotes its text too.

Main results: `literal?_encode`, `literal?_layout`.
-/
import Mathlib.Tactic.IntervalCases
import ModuleBundler.Layout.Literal
import ModuleBundler.Syntax.Lexeme.Scan
import ModuleBundler.Text.Quoted

namespace ModuleBundler

/-- The string that a literal at the head of some characters denotes, and the characters after
it.  A literal with a surrogate that has no partner denotes no text. -/
def Lexeme.literal? (cs : List Char) : Option (String × List Char) :=
  let s := Lexeme.scan cs
  if s.kind = .string ∧ s.errors = [] ∧ s.lone = false then some (s.text, s.rest) else none

namespace Quoted

open Lexeme

/-! ### One character -/

/-- A character that is not escaped. -/
def IsPlain (c : Char) : Prop := c ≠ '"' ∧ c ≠ '\\' ∧ c ≠ '\n' ∧ c ≠ '\r'

theorem escape_eq (c : Char) :
    (escape c = [c] ∧ IsPlain c) ∨ ∃ code, escape c = '\\' :: code ∧
      ∀ rest, Escape.scan false (code ++ rest) = ⟨code, some [.char c], rest⟩ := by
  by_cases hquote : c = '"'
  · subst hquote
    exact .inr ⟨['"'], rfl, fun rest => rfl⟩
  by_cases hslash : c = '\\'
  · subst hslash
    exact .inr ⟨['\\'], rfl, fun rest => rfl⟩
  by_cases hcontrol : c.toNat < 0x20
  · obtain ⟨n, hn, rfl⟩ : ∃ n, n < 0x20 ∧ c = Char.ofNat n := ⟨c.toNat, hcontrol, by simp⟩
    right
    interval_cases n <;> exact ⟨_, rfl, fun rest => rfl⟩
  · have hne : ∀ d : Char, d.toNat < 0x20 → c ≠ d := by
      rintro d hd rfl
      exact hcontrol hd
    refine .inl ⟨?_, hquote, hslash, hne _ (by decide), hne _ (by decide)⟩
    simp only [escape, hquote, hslash, hne '\n' (by decide), hne '\r' (by decide),
      hne '\t' (by decide), hne '\x08' (by decide), hne '\x0c' (by decide), hcontrol, if_false]

/-! ### A whole text -/

/-- Characters between double quotes, and what they denote: a plain character denotes itself, and
an escape what the scanner of escapes finds before the rest. -/
inductive Denotes : List Char → List Char → Prop where
  | nil : Denotes [] []
  | plain {c : Char} {body s : List Char} (hc : IsPlain c) (h : Denotes body s) :
      Denotes (c :: body) (c :: s)
  | escape {c : Char} {code body s : List Char}
      (hc : ∀ rest, Escape.scan false (code ++ (body ++ '"' :: rest)) =
        ⟨code, some [.char c], body ++ '"' :: rest⟩)
      (h : Denotes body s) : Denotes ('\\' :: code ++ body) (c :: s)

theorem Denotes.length_le {body s : List Char} (h : Denotes body s) : s.length ≤ body.length := by
  induction h with
  | nil => exact Nat.le_refl _
  | plain _ _ ih => simpa using ih
  | escape _ _ ih =>
      simp only [List.cons_append, List.length_cons, List.length_append]
      omega

/-- The scanner of strings gives back what is denoted. -/
theorem Denotes.stringTail {body s : List Char} (h : Denotes body s) (rest : List Char) {n : Nat}
    (hn : s.length < n) :
    ∃ escaped, Lexeme.stringTail '"' n (body ++ '"' :: rest) =
      (body ++ ['"'], s.map .char, [], rest, escaped, true) := by
  -- each character that is denoted takes one step of the scan
  induction h generalizing n with
  | nil =>
      obtain ⟨n, rfl⟩ : ∃ k, n = k + 1 := ⟨n - 1, by simp at hn; omega⟩
      exact ⟨false, by simp [Lexeme.stringTail]⟩
  | plain hc h ih =>
      obtain ⟨n, rfl⟩ : ∃ k, n = k + 1 := ⟨n - 1, by simp at hn; omega⟩
      obtain ⟨escaped, htail⟩ := ih (n := n) (by simpa using hn)
      obtain ⟨hquote, hslash, hline, hreturn⟩ := hc
      refine ⟨escaped, ?_⟩
      rw [List.cons_append, Lexeme.stringTail, htail]
      · simp [hquote, hline, hreturn]
      · exact hslash
  | escape hc h ih =>
      obtain ⟨n, rfl⟩ : ∃ k, n = k + 1 := ⟨n - 1, by simp at hn; omega⟩
      obtain ⟨escaped, htail⟩ := ih (n := n) (by simpa using hn)
      refine ⟨true, ?_⟩
      simp only [List.cons_append, List.append_assoc]
      rw [Lexeme.stringTail, hc]
      simp only [htail]
      rfl

theorem pair_map_char (s : List Char) : Unit16.pair (s.map .char) = s.map .char := by
  induction s with
  | nil => rfl
  | cons c s ih => simp [Unit16.pair, ih]

theorem any_isLone_map_char (s : List Char) : (s.map Unit16.char).any Unit16.isLone = false := by
  simp [Unit16.isLone]

theorem text_map_char (s : List Char) : Unit16.text (s.map .char) = s := by
  rw [Unit16.text, any_isLone_map_char, List.flatMap_map]
  simp

/-- Characters between double quotes are a literal of what they denote. -/
theorem Denotes.literal?_append {body s : List Char} (h : Denotes body s) (rest : List Char) :
    Lexeme.literal? ('"' :: body ++ '"' :: rest) = some (String.ofList s, rest) := by
  have hscan : Lexeme.scan ('"' :: body ++ '"' :: rest) = Lexeme.string '"' (body ++ '"' :: rest) :=
    rfl
  have hlength : s.length < (body ++ '"' :: rest).length + 1 := by
    have := h.length_le
    rw [List.length_append]
    omega
  obtain ⟨escaped, htail⟩ := h.stringTail rest hlength
  have hstring : Lexeme.string '"' (body ++ '"' :: rest) =
      { kind := .string, text := String.ofList s, raw := '"' :: body ++ ['"'], rest, escaped
        lone := false, errors := [] } := by
    simp only [Lexeme.string, htail, if_true, pair_map_char, text_map_char, any_isLone_map_char]
    rfl
  rw [Lexeme.literal?, hscan, hstring]
  simp

theorem denotes_flatMap_escape (s : List Char) : Denotes (s.flatMap escape) s := by
  induction s with
  | nil => exact .nil
  | cons c s ih =>
      rw [List.flatMap_cons]
      rcases escape_eq c with ⟨hc, hplain⟩ | ⟨code, hc, hscan⟩
      · rw [hc]
        exact .plain hplain ih
      · rw [hc]
        exact .escape (fun rest => hscan _) ih

/-- **A quoted text is a literal that denotes the text.** -/
theorem literal?_encode (s rest : List Char) :
    Lexeme.literal? (encode s ++ rest) = some (String.ofList s, rest) := by
  have hencode : encode s ++ rest = '"' :: s.flatMap escape ++ '"' :: rest := by simp [encode]
  rw [hencode, (denotes_flatMap_escape s).literal?_append rest]

/-! ### Literals as they are laid out -/

/-- The characters that a literal never holds as they are, but for the zero character. -/
def layoutCodes : List (Char × String) := [
  ('\x07', "x07"), ('\x08', "b"), ('\x0b', "v"), ('\x0c', "f"), ('\n', "n"), ('\r', "r"),
  ('\x1b', "x1B"), ('\\', "\\"), ('"', "\""), ('\u00a0', "xA0"), ('\u2028', "u2028"),
  ('\u2029', "u2029")]

/-- A character of a literal is plain, or escaped so that it is found again before the next. -/
theorem layout_escape_eq (c : Char) (next : Option Char) :
    ((Literal.escape c next).toList = [c] ∧ IsPlain c) ∨
      ∃ code, (Literal.escape c next).toList = '\\' :: code ∧
        ∀ rest, (∀ d, rest.head? = some d → d.isDigit = true → next = some d) →
          Escape.scan false (code ++ rest) = ⟨code, some [.char c], rest⟩ := by
  by_cases hzero : c = '\x00'
  · subst hzero
    right
    cases hnext : next.any Char.isDigit with
    | true => exact ⟨"x00".toList, by simp [Literal.escape, hnext], fun rest _ => rfl⟩
    | false =>
        refine ⟨['0'], by simp [Literal.escape, hnext], fun rest hrest => ?_⟩
        -- a digit behind the escape would be the next character
        rcases rest with - | ⟨d, rest⟩
        · rfl
        · have hd : d.isDigit = false := by
            refine Bool.eq_false_iff.2 fun hd => ?_
            rw [hrest d rfl hd] at hnext
            simp [hd] at hnext
          simp [Escape.scan, hd, isLineEnd]
  by_cases hcode : ∃ code, (c, code) ∈ layoutCodes
  · obtain ⟨code, hmem⟩ := hcode
    refine .inr ⟨code.toList, ?_⟩
    simp only [layoutCodes, List.mem_cons, List.not_mem_nil, or_false, Prod.mk.injEq] at hmem
    rcases hmem with ⟨rfl, rfl⟩ | ⟨rfl, rfl⟩ | ⟨rfl, rfl⟩ | ⟨rfl, rfl⟩ | ⟨rfl, rfl⟩ | ⟨rfl, rfl⟩ |
      ⟨rfl, rfl⟩ | ⟨rfl, rfl⟩ | ⟨rfl, rfl⟩ | ⟨rfl, rfl⟩ | ⟨rfl, rfl⟩ | ⟨rfl, rfl⟩
    all_goals exact ⟨by simp [Literal.escape], fun rest _ => rfl⟩
  · have hne : ∀ e ∈ layoutCodes, c ≠ e.1 := by
      rintro ⟨d, code⟩ hmem rfl
      exact hcode ⟨code, hmem⟩
    simp only [layoutCodes, List.forall_mem_cons] at hne
    obtain ⟨h₁, h₂, h₃, h₄, hline, hreturn, h₅, hslash, hquote, h₆, h₇, h₈, -⟩ := hne
    refine .inl ⟨?_, hquote, hslash, hline, hreturn⟩
    simp [Literal.escape, hzero, h₁, h₂, h₃, h₄, hline, hreturn, h₅, hslash, hquote, h₆, h₇, h₈]

/-- What is laid out begins with a digit only if the text does. -/
theorem head?_escaped {s rest : List Char} {d : Char}
    (h : (Literal.escaped s ++ '"' :: rest).head? = some d) (hd : d.isDigit = true) :
    s.head? = some d := by
  cases s with
  | nil =>
      obtain rfl : '"' = d := by simpa [Literal.escaped] using h
      cases hd
  | cons c s =>
      rw [Literal.escaped] at h
      rcases layout_escape_eq c s.head? with ⟨hc, -⟩ | ⟨code, hc, -⟩
      · simpa [hc] using h
      · obtain rfl : '\\' = d := by simpa [hc] using h
        cases hd

theorem denotes_escaped (s : List Char) : Denotes (Literal.escaped s) s := by
  induction s with
  | nil => exact .nil
  | cons c s ih =>
      rw [Literal.escaped]
      rcases layout_escape_eq c s.head? with ⟨hc, hplain⟩ | ⟨code, hc, hscan⟩
      · rw [hc]
        exact .plain hplain ih
      · rw [hc]
        exact .escape (fun rest => hscan _ fun d hd hdigit => head?_escaped hd hdigit) ih

/-- **A literal that is laid out denotes its text.** -/
theorem literal?_layout (s : String) (rest : List Char) :
    Lexeme.literal? ((Literal.ofText s).layout.toList ++ rest) = some (s, rest) := by
  have hlayout : (Literal.ofText s).layout.toList ++ rest =
      '"' :: Literal.escaped s.toList ++ '"' :: rest := by
    simp [Literal.layout, Literal.ofText]
  rw [hlayout, (denotes_escaped s.toList).literal?_append rest, String.ofList_toList]

end Quoted

end ModuleBundler
