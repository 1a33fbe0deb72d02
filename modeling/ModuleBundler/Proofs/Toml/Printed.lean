/-
ModuleBundler/Proofs/Toml/Printed.lean

A printed text is read back.  It is one token whatever line end comes after it (`isToken_string`),
and the reader of quoted texts finds the text in it (`quoted_string`).  What is needed of the
choice of quotes is said once (`suits_quoteOf`): a text on one line has no line end, and what stands
for itself has nothing in it that would end it.

Main results: `isToken_string`, `quoted_string`.
-/
import ModuleBundler.Proofs.Toml.Document
import ModuleBundler.Proofs.Toml.Spelling

namespace ModuleBundler.Toml

/-! ### Quotes -/

namespace Quote

def isBlock (q : Quote) : Bool := q = .basicBlock || q = .literalBlock

def mark (q : Quote) : Char := if q = .basic || q = .basicBlock then '"' else '\''

/-- What stands before and after a text. -/
def marks (q : Quote) : List Char := List.replicate (if q.isBlock then 3 else 1) q.mark

end Quote

open Printer

variable {cs : List Char} {q : Quote}

/-- What the quotes of a text ask of it. -/
inductive Suits (cs : List Char) : Quote → Prop
  | basic (hline : '\n' ∉ cs) : Suits cs .basic
  | literal (hnonempty : cs ≠ []) (hline : '\n' ∉ cs) (hquote : '\'' ∉ cs)
      (hcontrol : ∀ c ∈ cs, isControl c = false) : Suits cs .literal
  | basicBlock : Suits cs .basicBlock
  | literalBlock (hrun : longestRun '\'' cs ≤ 2) (hcontrol : ∀ c ∈ cs, isControl c = false) :
      Suits cs .literalBlock

theorem suits_of_fits (hnonempty : q = .literal → cs ≠ []) (h : fits q cs = true) : Suits cs q := by
  unfold fits at h
  rw [Bool.and_eq_true] at h
  obtain ⟨hcontrol, h⟩ := h
  have hcontrol : ∀ c ∈ cs, isControl c = false := by simpa using hcontrol
  cases q with
  | basic => exact .basic (by simp at h; exact h.2)
  | literal =>
      simp at h
      exact .literal (hnonempty rfl) h.2 h.1 hcontrol
  | basicBlock => exact .basicBlock
  | literalBlock => exact .literalBlock (by simpa using h) hcontrol

/-- The quotes of a text suit it. -/
theorem suits_quoteOf (cs : List Char) : Suits cs (quoteOf cs) := by
  have hnonempty : quoteOf cs = .literal → cs ≠ [] := by
    rintro h rfl
    cases h
  rcases hfind :
    ([.basic, .literal, .basicBlock, .literalBlock] : List Quote).find? (fits · cs) with - | q
  · have hq : quoteOf cs = if cs.contains '\n' then .basicBlock else .basic := by
      rw [quoteOf, hfind, Option.getD_none]
    rw [hq]
    split
    · exact .basicBlock
    · next hline => exact .basic (by simpa using hline)
  · have hq : quoteOf cs = q := by rw [quoteOf, hfind, Option.getD_some]
    rw [hq] at hnonempty ⊢
    have hfits : fits q cs = true := List.find?_some (p := (fits · cs)) hfind
    exact suits_of_fits hnonempty hfits

/-- What is printed between quotes. -/
def Printer.content (q : Quote) (cs : List Char) : List Char :=
  let start : List Char := if cs.contains '\n' then ['\n'] else []
  match q with
  | .basic => basic false 0 0 cs
  | .literal => cs
  | .basicBlock => start ++ basic true 2 0 cs
  | .literalBlock => start ++ cs

theorem toList_string (s : String) :
    (Printer.string s).toList =
      (quoteOf s.toList).marks ++ content (quoteOf s.toList) s.toList ++
        (quoteOf s.toList).marks := by
  have hstart : (if s.toList.contains '\n' then "\n" else "" : String).toList =
      if s.toList.contains '\n' then ['\n'] else [] := by
    split <;> rfl
  unfold Printer.string
  dsimp only
  generalize quoteOf s.toList = q
  cases q <;> simp only [String.toList_append, String.toList_ofList, hstart] <;> rfl

/-! ### Tokens -/

/-- A text is one token before a character. -/
def IsToken (kind : TokenKind) (text : List Char) (next : Char) : Prop :=
  ∀ place rest, Lexeme.tokensFrom place (text ++ next :: rest) =
    ⟨kind, place, text⟩ :: Lexeme.tokensFrom (place + text.length) (next :: rest)

theorem isToken_of_scan {kind : TokenKind} {c next : Char} {body : List Char}
    (h : ∀ rest, Lexeme.scan c (body ++ next :: rest) = (kind, body.length)) :
    IsToken kind (c :: body) next := by
  intro place rest
  rw [List.cons_append, Lexeme.tokensFrom, h]
  simp only [List.take_left, List.drop_left, List.length_cons]
  rw [Nat.add_assoc, Nat.add_comm 1]

theorem scan_basic {text : List Char} (h : ∀ more, text ≠ '"' :: '"' :: more) :
    Lexeme.scan '"' text = (.quoted .basic, Lexeme.basicLength text) := by
  rw [Lexeme.scan]
  exact h

/-- A spelling on one line does not begin like a block. -/
theorem Spells.ne_marks {body : List Char} (h : Spells false 0 0 body cs) (rest more : List Char) :
    body ++ '"' :: '\n' :: rest ≠ '"' :: '"' :: more := by
  cases h with
  | nil _ => simp
  | quote hrun _ => exact absurd hrun (Nat.lt_irrefl 0)
  | plain _ hquote _ _ => simp [hquote]
  | letter _ _ => simp
  | number _ _ => simp

theorem scan_literal {text : List Char} (h : ∀ more, text ≠ '\'' :: '\'' :: more) :
    Lexeme.scan '\'' text = (.quoted .literal, Lexeme.literalLength text) := by
  rw [Lexeme.scan]
  exact h

theorem literalLength_append (hline : '\n' ∉ cs) (hquote : '\'' ∉ cs) (rest : List Char) :
    Lexeme.literalLength (cs ++ '\'' :: rest) = cs.length + 1 := by
  induction cs with
  | nil => rfl
  | cons c cs ih =>
      rw [List.mem_cons, not_or] at hline hquote
      rw [List.cons_append, Lexeme.literalLength, ih hline.2 hquote.2, List.length_cons]
      · omega
      · exact fun h => hquote.1 h.symm
      · exact fun h => hline.1 h.symm

/-- The line end at the head of a block is text that cannot end it. -/
theorem Open.start {mark : Char} (hmark : mark ≠ '\n') {body : List Char} (h : Open mark 0 body) :
    Open mark 0 ((if cs.contains '\n' then ['\n'] else []) ++ body) := by
  split
  · exact .plain hmark.symm (fun _ => by decide) h
  · exact h

theorem isToken_block {mark : Char} {content : List Char} (hmark : mark ≠ '\\' ∧ mark ≠ '\n')
    (hscan : ∀ more, Lexeme.scan mark (mark :: mark :: more) =
      (.quoted q, 2 + Lexeme.blockLength mark more)) (h : Open mark 0 content) :
    IsToken (.quoted q) ([mark, mark, mark] ++ content ++ [mark, mark, mark]) '\n' := by
  have htext : [mark, mark, mark] ++ content ++ [mark, mark, mark] =
      mark :: mark :: mark :: (content ++ [mark, mark, mark]) := by simp
  rw [htext]
  refine isToken_of_scan fun rest => ?_
  have hend : ('\n' :: rest).head? ≠ some mark := by simpa using hmark.2.symm
  have hlength := blockLength_of_open hmark.1 h (Nat.zero_le _) hend
  rw [List.replicate_zero, List.nil_append, Nat.zero_add] at hlength
  simp only [List.cons_append, List.nil_append, List.append_assoc, hscan, hlength, List.length_cons,
    List.length_append, List.length_nil]
  rw [Nat.add_comm 2]

theorem isToken_of_suits (h : Suits cs q) :
    IsToken (.quoted q) (q.marks ++ content q cs ++ q.marks) '\n' := by
  cases h with
  | basic _ =>
      have h : Spells false 0 0 (basic false 0 0 cs) cs := spells_basic (Nat.le_refl 0)
      have hscan : ∀ rest, Lexeme.scan '"' (basic false 0 0 cs ++ ['"'] ++ '\n' :: rest) =
          (.quoted .basic, (basic false 0 0 cs ++ ['"']).length) := by
        intro rest
        rw [List.append_assoc, List.singleton_append, scan_basic (h.ne_marks rest), h.basicLength,
          List.length_append]
        rfl
      exact isToken_of_scan hscan
  | literal hnonempty hline hquote _ =>
      have hscan : ∀ rest, Lexeme.scan '\'' (cs ++ ['\''] ++ '\n' :: rest) =
          (.quoted .literal, (cs ++ ['\'']).length) := by
        intro rest
        rw [List.append_assoc, List.singleton_append, scan_literal,
          literalLength_append hline hquote, List.length_append]
        · rfl
        · -- two quotes in a row would be those of an empty string or of a block
          intro more heq
          rcases cs with - | ⟨c, cs⟩
          · exact hnonempty rfl
          · exact hquote (List.mem_cons.2 (.inl (List.cons.inj heq).1.symm))
      exact isToken_of_scan hscan
  | basicBlock =>
      have h : Spells true 2 0 (basic true 2 0 cs) cs := spells_basic (Nat.zero_le 2)
      exact isToken_block (by decide) (fun _ => rfl) (.start (by decide) h.isOpen)
  | literalBlock hrun _ =>
      exact isToken_block (by decide) (fun _ => rfl) (.start (by decide) (open_of_longestRun hrun))

/-- A printed text is one token at the end of a line. -/
theorem isToken_string (s : String) :
    IsToken (.quoted (quoteOf s.toList)) (Printer.string s).toList '\n' := by
  rw [toList_string]
  exact isToken_of_suits (suits_quoteOf s.toList)

/-! ### Meanings -/

/-- What stands between the quotes is found; a line end at the head of a block is none of it. -/
theorem exists_inside {w : Written} {text : List Char} (hw : w.text = q.marks ++ text ++ q.marks) :
    ∃ place, Decode.inside w q =
      .ok (place, if q.isBlock then (Decode.trimFirst text).2 else text) := by
  refine ⟨w.place.start + q.marks.length + if q.isBlock then (Decode.trimFirst text).1 else 0, ?_⟩
  cases q
  all_goals
    simp [Decode.inside, hw, Quote.marks, Quote.mark, Quote.isBlock]
    try rfl

theorem trimFirst_eq_self {text : List Char} (hline : text.head? ≠ some '\n')
    (hreturn : text.head? ≠ some '\r') : Decode.trimFirst text = (0, text) := by
  unfold Decode.trimFirst
  split
  · exact absurd rfl hline
  · exact absurd rfl hreturn
  · rfl

/-- The line end at the head of a block is there exactly if the text has one, so that it can be
left out. -/
theorem trimFirst_start {body : List Char} (hline : '\n' ∉ cs → body.head? ≠ some '\n')
    (hreturn : body.head? ≠ some '\r') :
    (Decode.trimFirst ((if cs.contains '\n' then ['\n'] else []) ++ body)).2 = body := by
  split
  · rfl
  · next h =>
    have hline := hline (by simpa using h)
    rw [List.nil_append, trimFirst_eq_self hline hreturn]

theorem Spells.head_ne {body : List Char} (h : Spells true 2 0 body cs) :
    ('\n' ∉ cs → body.head? ≠ some '\n') ∧ body.head? ≠ some '\r' := by
  cases h with
  | nil _ => simp
  | quote _ _ => simp
  | plain hc _ _ _ =>
      refine ⟨fun hline hhead => hline (List.mem_cons.2 (.inl (Option.some.inj hhead).symm)), ?_⟩
      intro hhead
      rw [Option.some.inj hhead] at hc
      cases hc
  | letter _ _ => simp
  | number _ _ => simp

theorem checkLiteral_eq_ok {inBlock : Bool} (hline : inBlock = false → '\n' ∉ cs)
    (hcontrol : ∀ c ∈ cs, isControl c = false) (place : Nat) :
    Decode.checkLiteral inBlock place cs = .ok () := by
  induction cs generalizing place with
  | nil => rfl
  | cons c cs ih =>
      rw [List.forall_mem_cons] at hcontrol
      have hc : (Decode.isPlain c || (inBlock && c == '\n')) = true := by
        by_cases hc : c = '\n'
        · cases inBlock with
          | false => exact absurd (List.mem_cons.2 (.inl hc.symm)) (hline rfl)
          | true => simp [hc]
        · rw [isPlain_of_isControl hcontrol.1 hc, Bool.true_or]
      rw [Decode.checkLiteral, hc, Bool.true_or, if_pos rfl]
      exact ih (fun h hmem => hline h (List.mem_cons_of_mem _ hmem)) hcontrol.2 (place + 1)

theorem quoted_of_basic {w : Written} {place : Nat} {text : List Char} (hq : q.mark = '"')
    (hinside : Decode.inside w q = .ok (place, text))
    (h : Decode.basic q.isBlock place text = .ok cs) :
    Decode.quoted w q = .ok (String.ofList cs) := by
  unfold Decode.quoted
  rw [hinside]
  cases q with
  | basic => exact bind_eq_ok.2 ⟨_, rfl, bind_eq_ok.2 ⟨_, h, rfl⟩⟩
  | basicBlock => exact bind_eq_ok.2 ⟨_, rfl, bind_eq_ok.2 ⟨_, h, rfl⟩⟩
  | literal => exact absurd hq (by decide)
  | literalBlock => exact absurd hq (by decide)

theorem quoted_of_literal {w : Written} {place : Nat} (hq : q.mark = '\'')
    (hinside : Decode.inside w q = .ok (place, cs))
    (h : Decode.checkLiteral q.isBlock place cs = .ok ()) :
    Decode.quoted w q = .ok (String.ofList cs) := by
  unfold Decode.quoted
  rw [hinside]
  cases q with
  | basic => exact absurd hq (by decide)
  | basicBlock => exact absurd hq (by decide)
  | literal => exact bind_eq_ok.2 ⟨_, rfl, bind_eq_ok.2 ⟨_, h, rfl⟩⟩
  | literalBlock => exact bind_eq_ok.2 ⟨_, rfl, bind_eq_ok.2 ⟨_, h, rfl⟩⟩

/-- What is printed for a text means the text. -/
theorem quoted_of_suits (h : Suits cs q) {w : Written}
    (hw : w.text = q.marks ++ content q cs ++ q.marks) :
    Decode.quoted w q = .ok (String.ofList cs) := by
  obtain ⟨place, hinside⟩ := exists_inside hw
  cases h with
  | basic _ =>
      have h : Spells false 0 0 (basic false 0 0 cs) cs := spells_basic (Nat.le_refl 0)
      exact quoted_of_basic rfl hinside (h.decode place)
  | literal _ hline _ hcontrol =>
      exact quoted_of_literal rfl hinside (checkLiteral_eq_ok (fun _ => hline) hcontrol place)
  | basicBlock =>
      have h : Spells true 2 0 (basic true 2 0 cs) cs := spells_basic (Nat.zero_le 2)
      have htrim := trimFirst_start h.head_ne.1 h.head_ne.2
      exact quoted_of_basic rfl (htrim ▸ hinside) (h.decode place)
  | literalBlock _ hcontrol =>
      have hreturn : cs.head? ≠ some '\r' := fun hhead =>
        absurd (hcontrol '\r' (List.mem_of_head? hhead)) (by decide)
      have htrim := trimFirst_start (fun hline hhead => hline (List.mem_of_head? hhead)) hreturn
      have hcheck : Decode.checkLiteral true place cs = .ok () :=
        checkLiteral_eq_ok (fun hfalse => absurd hfalse (by decide)) hcontrol place
      exact quoted_of_literal rfl (htrim ▸ hinside) hcheck

/-- **A text is read back from its print.** -/
theorem quoted_string {w : Written} {s : String} (hw : w.text = (Printer.string s).toList) :
    Decode.quoted w (quoteOf s.toList) = .ok s := by
  rw [toList_string] at hw
  rw [quoted_of_suits (suits_quoteOf s.toList) hw, String.ofList_toList]

end ModuleBundler.Toml
