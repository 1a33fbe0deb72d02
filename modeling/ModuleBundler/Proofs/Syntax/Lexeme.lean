/-
ModuleBundler/Proofs/Syntax/Lexeme.lean

No character of a text is lost between two tokens, nor inside one.  What a scanner takes
and what it leaves are together what it was given (`Lexeme.whole_scan`), and a gap ends
as far behind its beginning as it is long (`Gap.pos_scanFrom`).  So the places of tokens
are places in the text.

A name takes at least one character (`Lexeme.raw_scan_ne_nil`): what can begin a name can
also stand inside one (`Identifier.isPart_of_isStart`).
-/
import ModuleBundler.Syntax.Lexeme.Gap
import ModuleBundler.Syntax.Lexeme.Scan

namespace ModuleBundler

/-! ### Characters of names -/

namespace Identifier

/-- Each of the ranges `rs` lies in one of `qs`, when both are in order. -/
def covers : List (Nat × Nat) → List (Nat × Nat) → Bool
  | [], rs => rs.isEmpty
  | q :: qs, rs => covers qs (rs.dropWhile fun r => q.1 ≤ r.1 && r.2 ≤ q.2)

theorem exists_of_covers {qs rs : List (Nat × Nat)} (h : covers qs rs = true) :
    ∀ r ∈ rs, ∃ q ∈ qs, q.1 ≤ r.1 ∧ r.2 ≤ q.2 := by
  induction qs generalizing rs with
  | nil =>
      rw [covers, List.isEmpty_iff] at h
      subst h
      exact fun _ hr => absurd hr List.not_mem_nil
  | cons q qs ih =>
      intro r hr
      rw [← List.takeWhile_append_dropWhile (p := fun r => q.1 ≤ r.1 && r.2 ≤ q.2) (l := rs),
        List.mem_append] at hr
      rcases hr with hin | hbehind
      · have hfits := List.all_eq_true.1 List.all_takeWhile r hin
        simp only [Bool.and_eq_true, decide_eq_true_eq] at hfits
        exact ⟨q, List.mem_cons_self, hfits⟩
      · obtain ⟨p, hp, hfits⟩ := ih h r hbehind
        exact ⟨p, List.mem_cons_of_mem q hp, hfits⟩

theorem inRanges_of_covers {qs rs : List (Nat × Nat)} {c : Char} (h : covers qs rs = true)
    (hc : Char.inRanges rs c = true) : Char.inRanges qs c = true := by
  obtain ⟨r, hr, hlo, hhi⟩ := Char.inRanges_iff.1 hc
  obtain ⟨q, hq, hqlo, hqhi⟩ := exists_of_covers h r hr
  exact Char.inRanges_iff.2 ⟨q, hq, Nat.le_trans hqlo hlo, Nat.le_trans hhi hqhi⟩

/-- Each range of characters that begin names lies in one of those that go on in names. -/
theorem covers_startRanges : covers continueRanges startRanges = true := by
  decide +kernel

/-- A character that can begin a name can stand inside one. -/
theorem isPart_of_isStart {c : Char} (h : isStart c = true) : isPart c = true := by
  unfold isStart at h
  unfold isPart
  by_cases hascii : c.toNat < 0x80
  · rw [if_pos hascii] at h ⊢
    simp only [Bool.or_eq_true, Char.isAlphanum] at h ⊢
    exact h.imp_left (Or.imp_left Or.inl)
  · rw [if_neg hascii] at h ⊢
    simp [inRanges_of_covers covers_startRanges h]

end Identifier

/-! ### Gaps -/

/-- A gap ends where it begins or later. -/
theorem Gap.le_pos_scanFrom (script hugs : Bool) (m : Mode) (g : Gap) (pos : Nat)
    (cs : List Char) : pos ≤ (scanFrom script hugs m g pos cs).pos := by
  fun_induction scanFrom script hugs m g pos cs <;> first | simp | omega

/-- A gap is as long as it says. -/
theorem Gap.pos_scanFrom (script hugs : Bool) (m : Mode) (g : Gap) (pos : Nat) (cs : List Char) :
    (scanFrom script hugs m g pos cs).pos + (scanFrom script hugs m g pos cs).rest.length =
      pos + cs.length := by
  fun_induction scanFrom script hugs m g pos cs <;>
    simp only [List.length_cons, List.length_nil] at * <;> omega

/-! ### Escapes -/

/-- What begins a text and what is left behind it are the text. -/
theorem append_drop {ds cs : List Char} (h : ds <+: cs) : ds ++ cs.drop ds.length = cs :=
  List.prefix_iff_eq_append.1 h

theorem fixedHex?_append {count n : Nat} {cs ds rest : List Char}
    (h : fixedHex? count cs = some (n, ds, rest)) : ds ++ rest = cs := by
  simp only [fixedHex?] at h
  split at h
  · cases h
    exact List.take_append_drop count cs
  · cases h

theorem unicodeEscape?_append {n : Nat} {cs taken rest : List Char}
    (h : unicodeEscape? cs = some (n, taken, rest)) : taken ++ rest = cs := by
  unfold unicodeEscape? at h
  split at h
  · rename_i inner
    have hdigits := append_drop (List.takeWhile_prefix (l := inner) (isDigitOf 16))
    simp only at h
    split at h
    · rename_i left hleft
      split at h
      · cases h
      · cases h
        rw [hleft] at hdigits
        simpa using hdigits
    · cases h
  · exact fixedHex?_append h

namespace Escape

def whole (e : Escape) : List Char := e.raw ++ e.rest

theorem whole_octal (cs : List Char) : (octal cs).whole = cs := by
  have hdigits : (cs.take 3).takeWhile (isDigitOf 8) <+: cs :=
    (List.takeWhile_prefix _).trans (List.take_prefix 3 cs)
  simp only [octal, whole]
  split
  · exact append_drop hdigits
  · exact append_drop ((List.take_prefix 2 _).trans hdigits)

theorem whole_scan (inTemplate : Bool) (cs : List Char) : (scan inTemplate cs).whole = cs := by
  unfold scan
  split
  · rfl
  · rfl
  · split
    · rename_i h
      exact congrArg _ (fixedHex?_append h)
    · rfl
  · split
    · rename_i h
      exact congrArg _ (unicodeEscape?_append h)
    · rfl
  · split
    · rfl
    · split <;> try rfl
      · split
        · split
          · split
            · rfl
            · split
              · exact whole_octal _
              · rfl
          · rfl
        · rfl
      · split
        · split
          · rfl
          · exact whole_octal _
        · split <;> rfl

end Escape

/-! ### Tokens -/

/-- A token of the kind is a name or a punctuator, and so holds a character. -/
def LexemeKind.isSolid : LexemeKind → Bool
  | .name | .privateName | .punctuator => true
  | _ => false

theorem LexemeKind.ne_name_of_isSolid {k : LexemeKind} (h : k.isSolid = false) : k ≠ .name := by
  rintro rfl
  cases h

/-- The characters taken and those left. -/
def Scan.whole (s : Scan) : List Char := s.raw ++ s.rest

namespace Lexeme

/-! #### Names -/

namespace NameEscape

theorem append_digits (value : Nat) (taken cs : List Char) :
    (digits value taken cs).1 ++ (digits value taken cs).2.2 = taken.reverse ++ cs := by
  fun_induction digits value taken cs <;> simp_all

theorem append_fourDigits (cs : List Char) : (fourDigits cs).1 ++ (fourDigits cs).2.2 = cs :=
  append_drop ((List.takeWhile_prefix _).trans (List.take_prefix 4 cs))

theorem append_codeUnit (cs : List Char) : (codeUnit cs).1 ++ (codeUnit cs).2.2 = cs := by
  have hfour := append_fourDigits cs
  unfold codeUnit
  split
  · rename_i ds n rest hds
    rw [hds] at hfour
    split
    · have hlow := append_fourDigits rest
      simp only [List.append_assoc, List.cons_append] at hfour ⊢
      rw [hlow]
      exact hfour
    · exact hfour
  · exact hfour

theorem append_scan (atHead : Bool) (cs : List Char) :
    (scan atHead cs).raw ++ (scan atHead cs).rest = cs := by
  rcases cs with _ | ⟨c, rest⟩
  · rfl
  · -- no letter but this has digits behind it
    by_cases hu : c = 'u'
    · subst hu
      refine congrArg ('u' :: ·) ?_
      by_cases hbrace : ∃ inner, rest = '\x7b' :: inner
      · obtain ⟨inner, rfl⟩ := hbrace
        exact congrArg _ (append_digits 0 [] inner)
      · have hcode := append_codeUnit rest
        simp only [scan]
        split
        · rename_i inner
          exact absurd ⟨inner, rfl⟩ hbrace
        · exact hcode
    · unfold scan
      split
      · simp_all
      · rename_i h
        cases h
        rfl
      · simp_all

end NameEscape

theorem append_nameTail (n : Nat) (atHead : Bool) (cs : List Char) :
    (nameTail n atHead cs).raw ++ (nameTail n atHead cs).rest = cs := by
  fun_induction nameTail n atHead cs with
  | case1 n atHead rest e more raw _ _ ih | case2 n atHead rest e more raw _ _ ih =>
      have hescape : e.raw ++ e.rest = rest := NameEscape.append_scan atHead rest
      simp only [raw, List.append_assoc, List.cons_append, more] at ih ⊢
      rw [ih, hescape]
  | case3 n atHead c rest hc hpart more ih => exact congrArg _ ih
  | case4 => rfl
  | case5 => rfl

theorem whole_name (kind : LexemeKind) (lead cs : List Char) :
    (name kind lead cs).whole = lead ++ cs := by
  show lead ++ _ ++ _ = _
  rw [List.append_assoc]
  exact congrArg _ (append_nameTail _ _ _)

theorem whole_privateName (cs : List Char) : (privateName cs).whole = '#' :: cs := by
  unfold privateName
  split
  · exact whole_name _ _ _
  · split
    · exact whole_name _ _ _
    · rfl
  · rfl

/-! #### Strings, templates and regular expressions -/

theorem append_stringTail (quote : Char) (n : Nat) (cs : List Char) :
    (stringTail quote n cs).1 ++ (stringTail quote n cs).2.2.2.1 = cs := by
  fun_induction stringTail quote n cs with
  | case2 n rest e raw units errors left _ _ hmore _ _ ih
  | case3 n rest e raw units errors left _ _ hmore _ ih =>
      have hescape : e.raw ++ e.rest = rest := Escape.whole_scan false rest
      simp only [hmore, List.append_assoc, List.cons_append] at ih ⊢
      rw [ih, hescape]
  | _ => simp_all

theorem whole_string (quote : Char) (cs : List Char) : (string quote cs).whole = quote :: cs := by
  have htail := append_stringTail quote (cs.length + 1) cs
  simp only [string]
  split <;> exact congrArg _ htail

theorem append_pieceTail (n : Nat) (cs : List Char) :
    (pieceTail n cs).1 ++ (pieceTail n cs).2.2.1 = cs := by
  fun_induction pieceTail n cs with
  | case2 n rest e raw wellFormed left ending hmore ih =>
      have hescape : e.raw ++ e.rest = rest := Escape.whole_scan true rest
      simp only [hmore, List.append_assoc, List.cons_append] at ih ⊢
      rw [ih, hescape]
  | _ => simp_all

theorem whole_templatePiece (first : Bool) (opening : Char) (cs : List Char) :
    (templatePiece first opening cs).whole = opening :: cs := by
  have htail := append_pieceTail (cs.length + 1) cs
  simp only [templatePiece]
  split <;> exact congrArg _ htail

theorem append_patternTail {inClass : Bool} {cs raw rest : List Char}
    (h : patternTail inClass cs = some (raw, rest)) : raw ++ rest = cs := by
  fun_induction patternTail inClass cs generalizing raw with
  | case1 => cases h
  | case2 => cases h
  | case3 inClass c cs hc ih =>
      obtain ⟨⟨raw', rest'⟩, hmore, heq⟩ := Option.map_eq_some_iff.1 h
      cases heq
      exact congrArg (fun more => '\\' :: c :: more) (ih hmore)
  | case4 => cases h
  | case5 inClass c cs =>
      cases h
      simp_all
  | case6 inClass c cs =>
      rename_i ih
      obtain ⟨⟨raw', rest'⟩, hmore, heq⟩ := Option.map_eq_some_iff.1 h
      cases heq
      exact congrArg (c :: ·) (ih hmore)

/-- A regular expression is read from the slash that opens it. -/
theorem length_regex (cs : List Char) :
    (regex cs).raw.length + (regex cs).rest.length = cs.length := by
  rcases cs with _ | ⟨c, body⟩
  · rfl
  · show _ = (body.length + 1)
    simp only [regex, List.drop_succ_cons, List.drop_zero]
    split
    · simp only [List.take_succ_cons, List.take_zero, List.length_singleton]
      exact Nat.add_comm _ _
    · rename_i raw rest hpattern
      have hlength := congrArg List.length (append_patternTail hpattern)
      have hflags := congrArg List.length
        (append_drop (List.takeWhile_prefix (l := rest) Identifier.isPart))
      simp only [List.length_append, List.length_cons] at *
      omega

/-! #### Numbers -/

theorem whole_digitsOf (base : Nat) (cs : List Char) : (digitsOf base cs).whole = cs := by
  fun_induction digitsOf base cs with
  | case1 d rest _ p ih => exact congrArg (fun more => '_' :: d :: more) ih
  | case4 d rest p _ _ _ ih => exact congrArg (d :: ·) ih
  | _ => rfl

theorem whole_someDigits (cs : List Char) : (someDigits cs).whole = cs := by
  unfold someDigits
  split
  · split
    · exact whole_digitsOf 10 _
    · rfl
  · rfl

theorem whole_optionalDigits (cs : List Char) : (optionalDigits cs).whole = cs := by
  unfold optionalDigits
  split
  · split
    · exact whole_digitsOf 10 _
    · rfl
  · rfl

theorem whole_exponentDigits (cs : List Char) : (exponentDigits cs).whole = cs := by
  unfold exponentDigits
  split
  · exact Part.whole_andThen (whole_someDigits _)
  · exact Part.whole_andThen (whole_someDigits _)
  · exact whole_someDigits _

theorem whole_optionalExponent (cs : List Char) : (optionalExponent cs).whole = cs := by
  unfold optionalExponent
  split
  · exact Part.whole_andThen (whole_exponentDigits _)
  · exact Part.whole_andThen (whole_exponentDigits _)
  · rfl

theorem append_trailing (cs : List Char) : (trailing cs).1 ++ (trailing cs).2 = cs := by
  unfold trailing
  split
  · rfl
  · split
    · exact congrArg _ (append_drop (List.takeWhile_prefix _))
    · rfl

theorem whole_closeNumber (form : NumberForm) (p : Part) :
    (closeNumber form p).whole = p.whole := by
  have htrailing := append_trailing p.rest
  simp only [closeNumber]
  split
  · rfl
  · show p.raw ++ _ ++ _ = _
    rw [List.append_assoc, htrailing]
    rfl

theorem whole_afterPoint (p : Part) : (afterPoint p).whole = p.whole := by
  rw [afterPoint, whole_closeNumber, Part.whole_andThen (whole_optionalExponent _),
    Part.whole_andThen (whole_optionalDigits _)]

theorem whole_prefixed (form : NumberForm) (base : Nat) (mark cs : List Char) :
    (prefixed form base mark cs).whole = mark ++ cs := by
  have hdigits : ((Part.mk mark cs []).andThen (digitsOf base)).whole = mark ++ cs :=
    Part.whole_andThen (whole_digitsOf base cs)
  unfold prefixed
  split
  · split
    · simp only
      split
      · split
        · rename_i rest hrest
          rw [whole_closeNumber]
          simpa [Part.whole, hrest] using hdigits
        · rw [whole_closeNumber]
          exact hdigits
      · exact hdigits
    · rfl
  · rfl

theorem whole_leadingZero (cs : List Char) : (leadingZero cs).whole = cs := by
  have hdigits : cs.takeWhile Char.isDigit ++ cs.drop (cs.takeWhile Char.isDigit).length = cs :=
    append_drop (List.takeWhile_prefix _)
  simp only [leadingZero]
  split
  · rw [whole_closeNumber]
    exact hdigits
  · split
    · rename_i rest hrest
      rw [whole_afterPoint]
      simpa [Part.whole, hrest] using hdigits
    · rw [whole_closeNumber, Part.whole_andThen (whole_optionalExponent _)]
      exact hdigits
    · rw [whole_closeNumber]
      exact hdigits

theorem whole_number (cs : List Char) : (number cs).whole = cs := by
  unfold number
  split <;> try exact whole_prefixed _ _ _ _
  · rw [whole_closeNumber, Part.whole_andThen (whole_optionalExponent _),
      Part.whole_andThen (whole_someDigits _)]
    rfl
  · rw [whole_closeNumber]
    rfl
  · rw [whole_afterPoint]
    rfl
  · split
    · exact whole_leadingZero _
    · rw [whole_closeNumber, Part.whole_andThen (whole_optionalExponent _)]
      rfl
  · -- behind the digits a fraction may come, a mark, or an exponent
    have hdigits := whole_digitsOf 10 cs
    simp only
    split
    · rename_i rest hrest
      rw [whole_afterPoint]
      simpa [Part.whole, hrest] using hdigits
    · rename_i rest hrest
      rw [whole_closeNumber]
      simpa [Part.whole, hrest] using hdigits
    · rw [whole_closeNumber, Part.whole_andThen (whole_optionalExponent _)]
      exact hdigits

/-! #### All tokens -/

theorem whole_punctuator {cs : List Char} {s : Scan} (h : punctuator? cs = some s) :
    s.whole = cs := by
  obtain ⟨p, hfind, rfl⟩ := Option.map_eq_some_iff.1 h
  have hfits := List.find?_some hfind
  rw [Bool.and_eq_true] at hfits
  exact append_drop (List.isPrefixOf_iff_prefix.1 hfits.1)

/-- **The characters that a token takes and those that it leaves are those that were there.** -/
theorem whole_scan (cs : List Char) : (scan cs).whole = cs := by
  unfold scan
  split
  · rfl
  · exact whole_string _ _
  · exact whole_string _ _
  · exact whole_templatePiece _ _ _
  · exact whole_privateName _
  · exact whole_name _ _ _
  · split
    · exact whole_number _
    · rcases hp : punctuator? _ with _ | s
      · rfl
      · exact whole_punctuator hp
  · split
    · exact whole_number _
    · split
      · exact whole_name _ _ _
      · split
        · rename_i hp
          exact whole_punctuator hp
        · rfl

/-! #### Which tokens are names -/

theorem isSolid_closeNumber (form : NumberForm) (p : Part) :
    (closeNumber form p).kind.isSolid = false := by
  simp only [closeNumber]
  split <;> rfl

theorem isSolid_prefixed (form : NumberForm) (base : Nat) (mark cs : List Char) :
    (prefixed form base mark cs).kind.isSolid = false := by
  unfold prefixed
  split
  · split
    · simp only
      split
      · split <;> exact isSolid_closeNumber _ _
      · rfl
    · rfl
  · rfl

theorem isSolid_leadingZero (cs : List Char) : (leadingZero cs).kind.isSolid = false := by
  simp only [leadingZero, afterPoint]
  split
  · exact isSolid_closeNumber _ _
  · split <;> exact isSolid_closeNumber _ _

theorem isSolid_number (cs : List Char) : (number cs).kind.isSolid = false := by
  unfold number
  split <;> try first | exact isSolid_closeNumber _ _ | exact isSolid_prefixed _ _ _ _
  · split
    · exact isSolid_leadingZero _
    · exact isSolid_closeNumber _ _
  · simp only [afterPoint]
    split <;> exact isSolid_closeNumber _ _

theorem isSolid_string (quote : Char) (cs : List Char) :
    (string quote cs).kind.isSolid = false := by
  simp only [string]
  split <;> rfl

theorem isSolid_templatePiece (first : Bool) (opening : Char) (cs : List Char) :
    (templatePiece first opening cs).kind.isSolid = false := by
  simp only [templatePiece]
  split <;> rfl

theorem exists_of_punctuator {cs : List Char} {s : Scan} (h : punctuator? cs = some s) :
    ∃ p ∈ punctuators, s.kind = .punctuator ∧ s.raw = p.toList := by
  obtain ⟨p, hfind, rfl⟩ := Option.map_eq_some_iff.1 h
  exact ⟨p, List.mem_of_find?_eq_some hfind, rfl, rfl⟩

/-- A name begins with `#`, with an escape, or with a character that can begin one. -/
theorem scan_of_isSolid {cs : List Char} (h : (scan cs).kind.isSolid = true) :
    (∃ rest, cs = '#' :: rest ∧ scan cs = privateName rest) ∨
      (∃ c rest, cs = c :: rest ∧ (c = '\\' ∨ Identifier.isStart c = true) ∧
        scan cs = name .name [] cs) ∨
      punctuator? cs = some (scan cs) := by
  -- strings, templates, numbers and what is no token are not solid
  have hnone : ∀ {s : Scan}, s.kind.isSolid = false → s.kind.isSolid = true → False := by
    intro s hfalse htrue
    exact Bool.noConfusion (hfalse.symm.trans htrue)
  unfold scan at h ⊢
  split at h
  · cases h
  · exact (hnone (isSolid_string _ _) h).elim
  · exact (hnone (isSolid_string _ _) h).elim
  · exact (hnone (isSolid_templatePiece _ _ _) h).elim
  · exact .inl ⟨_, rfl, rfl⟩
  · exact .inr (.inl ⟨_, _, rfl, .inl rfl, rfl⟩)
  · split at h
    · exact (hnone (isSolid_number _) h).elim
    · rename_i hdigit
      rcases hp : punctuator? _ with _ | s <;> rw [hp] at h
      · cases h
      · exact .inr (.inr (by simp [hdigit]))
  · rename_i c rest _ _ _ _ _ _
    split at h
    · exact (hnone (isSolid_number _) h).elim
    · split at h
      · rename_i hdigit hstart
        exact .inr (.inl ⟨c, rest, rfl, .inr hstart, by simp_all⟩)
      · split at h
        · rename_i hp
          exact .inr (.inr (by simp_all))
        · cases h

theorem kind_privateName_ne (cs : List Char) : (privateName cs).kind ≠ .name := by
  unfold privateName
  split
  · exact LexemeKind.noConfusion
  · split <;> exact LexemeKind.noConfusion
  · exact LexemeKind.noConfusion

theorem raw_nameTail (n : Nat) (atHead : Bool) (cs : List Char) :
    (nameTail n atHead cs).escaped = false →
      (nameTail n atHead cs).raw = (nameTail n atHead cs).text := by
  fun_induction nameTail n atHead cs with
  | case3 n atHead c rest hc hpart more ih =>
      intro h
      exact congrArg (c :: ·) (ih h)
  | _ => simp_all

/-- A name without escapes is as long as it is written. -/
theorem length_raw_scan {cs : List Char} (hkind : (scan cs).kind = .name)
    (hescaped : (scan cs).escaped = false) : (scan cs).raw.length = (scan cs).text.length := by
  have hsolid : (scan cs).kind.isSolid = true := by rw [hkind]; rfl
  rcases scan_of_isSolid hsolid with ⟨rest, -, hprivate⟩ | ⟨_, _, -, -, hname⟩ | hpunctuator
  · rw [hprivate] at hkind
    exact absurd hkind (kind_privateName_ne rest)
  · rw [hname] at hescaped ⊢
    have hraw := raw_nameTail (cs.length + 1) true cs hescaped
    show ([] ++ (nameTail (cs.length + 1) true cs).raw).length =
      (String.ofList (nameTail (cs.length + 1) true cs).text).length
    rw [List.nil_append, hraw, String.length_ofList]
  · obtain ⟨p, -, hkind', -⟩ := exists_of_punctuator hpunctuator
    exact LexemeKind.noConfusion (hkind.symm.trans hkind')

theorem raw_nameTail_ne_nil {c : Char} {cs : List Char} {n : Nat} {atHead : Bool}
    (h : c = '\\' ∨ Identifier.isPart c = true) : (nameTail (n + 1) atHead (c :: cs)).raw ≠ [] := by
  by_cases hescape : c = '\\'
  · subst hescape
    simp only [nameTail]
    split <;> exact List.cons_ne_nil _ _
  · rw [nameTail]
    · rw [if_pos (h.resolve_left hescape)]
      exact List.cons_ne_nil _ _
    · exact hescape

/-- A name takes at least one character, and so does a punctuator. -/
theorem raw_scan_ne_nil {cs : List Char} (h : (scan cs).kind.isSolid = true) :
    (scan cs).raw ≠ [] := by
  rcases scan_of_isSolid h with ⟨rest, -, hprivate⟩ | ⟨c, rest, rfl, hstart, hname⟩ | hpunctuator
  · rw [hprivate]
    unfold privateName
    split
    · exact List.cons_ne_nil _ _
    · split <;> exact List.cons_ne_nil _ _
    · exact List.cons_ne_nil _ _
  · rw [hname]
    exact raw_nameTail_ne_nil (hstart.imp_right Identifier.isPart_of_isStart)
  · obtain ⟨p, hp, -, hraw⟩ := exists_of_punctuator hpunctuator
    have hall : ∀ p ∈ punctuators, p.toList ≠ [] := by decide
    rw [hraw]
    exact hall p hp

end Lexeme

end ModuleBundler
