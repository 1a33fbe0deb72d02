/-
ModuleBundler/Proofs/Module/Access.lean

The text that reads a property of a temporary, read again with the scanner of the language
(`Lexeme.access?`).  Between brackets every name is found again, for a quoted text is a literal of
the text.  Behind a dot it is found if it is an identifier name, but whether a name is written
there is decided by other classes of characters, those of letters and numbers.  So a name can be
written behind a dot and be no identifier name: it begins with a mark, or it holds a letter or
number that cannot stand in an identifier (`isMisread_iff`).  Then no property is read, of
that name or any other; in all other cases the property is the one that is meant.

Main result: `access_memberText`.
-/
import ModuleBundler.Module.Script
import ModuleBundler.Proofs.Syntax.Grammar.Level
import ModuleBundler.Proofs.Text.Initializer
import ModuleBundler.Proofs.Text.Letter

namespace ModuleBundler

/-! ### Names before other characters -/

namespace Lexeme

variable {c : Char} {body rest : List Char}

/-- The characters do not go on with a name. -/
def EndsName (rest : List Char) : Prop :=
  ∀ c, rest.head? = some c → c ≠ '\\' ∧ Identifier.isPart c = false

theorem EndsName.nameTail (h : EndsName rest) (n : Nat) (atHead : Bool) :
    nameTail n atHead rest = { rest } := by
  rcases rest with - | ⟨c, rest⟩
  · cases n <;> rfl
  · obtain ⟨hslash, hpart⟩ := h c rfl
    cases n with
    | zero => rfl
    | succ n => simp [Lexeme.nameTail, hpart]

theorem isPart_ne_backslash (h : Identifier.isPart c = true) : c ≠ '\\' := by
  rintro rfl
  cases h

/-- The characters of a name are taken as they are, up to what does not go on with it. -/
theorem nameTail_append (hbody : ∀ c ∈ body, Identifier.isPart c = true) (hrest : EndsName rest)
    {n : Nat} (hn : body.length < n) (atHead : Bool) :
    nameTail n atHead (body ++ rest) = { raw := body, text := body, rest } := by
  induction body generalizing n atHead with
  | nil => exact hrest.nameTail n atHead
  | cons c body ih =>
      obtain ⟨n, rfl⟩ : ∃ k, n = k + 1 := ⟨n - 1, by simp at hn; omega⟩
      have hpart := hbody c List.mem_cons_self
      have hmore := ih (fun d hd => hbody d (List.mem_cons_of_mem c hd)) (n := n)
        (by simpa using hn) false
      rw [List.cons_append, Lexeme.nameTail]
      · simp [hpart, hmore]
      · exact isPart_ne_backslash hpart

/-- What holds of the ten digits holds of every digit. -/
theorem of_isDigit {p : Char → Bool} (hall : "0123456789".toList.all p = true)
    (h : c.isDigit = true) : p c = true := by
  obtain ⟨hlo, hhi⟩ := isDigit_iff.1 h
  obtain ⟨n, hlo, hhi, rfl⟩ : ∃ n, 48 ≤ n ∧ n ≤ 57 ∧ c = Char.ofNat n :=
    ⟨c.toNat, hlo, hhi, by simp⟩
  refine List.all_eq_true.1 hall _ ?_
  interval_cases n <;> decide

theorem isStart_of_isDigit (h : c.isDigit = true) : Identifier.isStart c = false := by
  have hnone := of_isDigit (p := fun d => !Identifier.isStart d) (by decide) h
  simpa using hnone

/-- What begins an identifier begins no other lexeme. -/
theorem scan_of_isStart (h : Identifier.isStart c = true) (rest : List Char) :
    scan (c :: rest) = name .name [] (c :: rest) := by
  have hne : ∀ d, Identifier.isStart d = false → c ≠ d := by
    rintro d hd rfl
    rw [h] at hd
    cases hd
  have hdigit : c.isDigit = false := by
    refine Bool.eq_false_iff.2 fun hdigit => ?_
    rw [isStart_of_isDigit hdigit] at h
    cases h
  have h₁ := hne '"' (by decide)
  have h₂ := hne '\'' (by decide)
  have h₃ := hne '\x60' (by decide)
  have h₄ := hne '#' (by decide)
  have h₅ := hne '.' (by decide)
  unfold scan
  split <;> simp_all

/-- An identifier name is scanned as a name. -/
theorem scan_name (hname : Identifier.isName body = true) (hrest : EndsName rest) :
    scan (body ++ rest) = { kind := .name, text := String.ofList body, raw := body, rest } := by
  rcases body with - | ⟨c, body⟩
  · cases hname
  obtain ⟨hstart, hparts⟩ := Bool.and_eq_true_iff.1 hname
  have hall : ∀ d ∈ c :: body, Identifier.isPart d = true := by
    refine List.forall_mem_cons.2 ⟨Identifier.isPart_of_isStart hstart, fun d hd => ?_⟩
    exact List.all_eq_true.1 hparts d hd
  have htail := nameTail_append hall hrest (n := (c :: body ++ rest).length + 1)
    (by simp only [List.length_append]; omega) true
  rw [List.cons_append, scan_of_isStart hstart, name]
  rw [List.cons_append] at htail
  rw [htail]
  rfl

theorem punctuator?_dot (hdot : c ≠ '.') (rest : List Char) :
    punctuator? ('.' :: c :: rest) =
      some { kind := .punctuator, text := ".", raw := ['.'], rest := c :: rest } := by
  have hhead : ('.' == c) = false := beq_eq_false_iff_ne.2 (Ne.symm hdot)
  have hlong : "...".toList.isPrefixOf ('.' :: c :: rest) = false := by
    show ('.' == '.' && ('.' == c && _)) = false
    rw [hhead, Bool.false_and, Bool.and_false]
  have hshift : (">>>=".toList.isPrefixOf ('.' :: c :: rest) &&
      !isChainDot ">>>=" (('.' :: c :: rest).drop ">>>=".length)) = false := rfl
  simp only [punctuator?, punctuators, List.find?]
  rw [hshift, hlong]
  rfl

/-- A dot before a character that is neither a digit nor a dot. -/
theorem scan_dot (hdigit : c.isDigit = false) (hdot : c ≠ '.') (rest : List Char) :
    scan ('.' :: c :: rest) =
      { kind := .punctuator, text := ".", raw := ['.'], rest := c :: rest } := by
  show (if c.isDigit = true then number _ else (punctuator? ('.' :: c :: rest)).getD _) = _
  rw [hdigit, if_neg Bool.false_ne_true, punctuator?_dot hdot]
  rfl

theorem scan_bracket (rest : List Char) :
    scan ('[' :: rest) = { kind := .punctuator, text := "[", raw := ['['], rest } := rfl

/-- Only an escape or what begins an identifier begins a name. -/
theorem isStart_of_scan_name (h : (scan (c :: rest)).kind = .name) (hslash : c ≠ '\\') :
    Identifier.isStart c = true := by
  have hsolid : (scan (c :: rest)).kind.isSolid = true := by
    rw [h]
    rfl
  rcases scan_of_isSolid hsolid with ⟨rest', -, hscan⟩ | ⟨d, rest', heq, hstart, -⟩ | hscan
  · rw [hscan] at h
    exact absurd h (kind_privateName_ne rest')
  · cases heq
    exact hstart.resolve_left hslash
  · obtain ⟨p, -, hkind, -⟩ := exists_of_punctuator hscan
    rw [h] at hkind
    cases hkind

/-! ### Reading a property -/

/-- The name of an object and the name of the property of it that some characters read, if that is
all they do: behind the object a dot and a name, or a string between brackets. -/
def access? (cs : List Char) : Option (String × String) :=
  let object := scan cs
  let mark := scan object.rest
  if object.kind = .name ∧ object.errors = [] ∧ mark.kind = .punctuator then
    if mark.text = "." then
      let name := scan mark.rest
      if name.kind = .name ∧ name.errors = [] ∧ name.rest = [] then some (object.text, name.text)
      else none
    else if mark.text = "[" then
      match literal? mark.rest with
      | some (name, [']']) => some (object.text, name)
      | _ => none
    else none
  else none

variable {object name : List Char}

theorem access?_bracket (hobject : Identifier.isName object = true) (name : String) :
    access? (object ++ '[' :: (Quoted.encode name.toList ++ [']'])) =
      some (String.ofList object, name) := by
  have hends : EndsName ('[' :: (Quoted.encode name.toList ++ [']'])) := by
    rintro d ⟨⟩
    exact ⟨by decide, by decide⟩
  unfold access?
  simp only [scan_name hobject hends, scan_bracket, Quoted.literal?_encode]
  simp

/-- Behind a dot one name is read, as far as it goes. -/
theorem access?_dot (hobject : Identifier.isName object = true) (hdigit : c.isDigit = false)
    (hdot : c ≠ '.') (rest : List Char) :
    access? (object ++ '.' :: c :: rest) =
      if (scan (c :: rest)).kind = .name ∧ (scan (c :: rest)).errors = [] ∧
        (scan (c :: rest)).rest = [] then some (String.ofList object, (scan (c :: rest)).text)
      else none := by
  have hends : EndsName ('.' :: c :: rest) := by
    rintro d ⟨⟩
    exact ⟨by decide, by decide⟩
  unfold access?
  simp only [scan_name hobject hends, scan_dot hdigit hdot]
  simp

/-- A name that begins as identifiers do and does not go on as they do is read in part. -/
theorem rest_scan_ne_nil (hstart : Identifier.isStart c = true) (hslash : '\\' ∉ body)
    (hname : Identifier.isName (c :: body) = false) : (scan (c :: body)).rest ≠ [] := by
  have hends : EndsName (body.dropWhile Identifier.isPart) := by
    intro d hd
    refine ⟨?_, by simpa [hd] using List.head?_dropWhile_not Identifier.isPart body⟩
    rintro rfl
    exact hslash ((List.dropWhile_suffix _).subset (List.mem_of_mem_head? hd))
  have hpart : Identifier.isName (c :: body.takeWhile Identifier.isPart) = true :=
    Bool.and_eq_true_iff.2 ⟨hstart, List.all_takeWhile⟩
  have hscan := scan_name hpart hends
  rw [List.cons_append, List.takeWhile_append_dropWhile] at hscan
  rw [hscan]
  intro hrest
  have hnil : body.dropWhile Identifier.isPart = [] := hrest
  have hall : body.all Identifier.isPart = true := by
    rw [← List.takeWhile_append_dropWhile (p := Identifier.isPart) (l := body), hnil,
      List.append_nil]
    exact List.all_takeWhile
  rw [Identifier.isName, hstart, hall] at hname
  cases hname

end Lexeme

/-! ### Names behind a dot -/

/-- A character that may stand in a name behind a dot. -/
def isDottedPart (c : Char) : Bool := c == '_' || c == '$' || Letter.isAlphanumeric c

/-- A name that is written behind a dot and is no identifier name, for a character that cannot
begin one or a letter or number that cannot stand in one. -/
def isMisread (name : List Char) : Bool :=
  isDotted name && (name.head?.any (!Identifier.isStart ·) || name.any Letter.isStray)

section Dotted

variable {c : Char} {rest name : List Char}

theorem isDottedPart_of_mem (h : isDotted name = true) : ∀ d ∈ name, isDottedPart d = true := by
  rcases name with - | ⟨c, rest⟩
  · exact fun d hd => absurd hd List.not_mem_nil
  obtain ⟨hhead, hrest⟩ := Bool.and_eq_true_iff.1 h
  refine List.forall_mem_cons.2 ⟨?_, fun d hd => List.all_eq_true.1 hrest d hd⟩
  simp only [isDottedPart, Letter.isAlphanumeric, Bool.or_eq_true] at hhead ⊢
  exact hhead.imp_right .inl

theorem ne_of_isDottedPart {d : Char} (h : isDottedPart c = true) (hd : isDottedPart d = false) :
    c ≠ d := by
  rintro rfl
  exact Bool.noConfusion (h.symm.trans hd)

theorem isDigit_eq_false_of_isDotted (h : isDotted (c :: rest) = true) : c.isDigit = false := by
  refine Bool.eq_false_iff.2 fun hdigit => ?_
  have hnone : (!(c == '_' || c == '$' || Letter.isAlphabetic c)) = true :=
    Lexeme.of_isDigit (p := fun d => !(d == '_' || d == '$' || Letter.isAlphabetic d))
      (by decide) hdigit
  rw [(Bool.and_eq_true_iff.1 h).1] at hnone
  cases hnone

/-- A character of a name behind a dot that cannot stand in an identifier is stray. -/
theorem isStray_of_isDottedPart (h : isDottedPart c = true) (hpart : Identifier.isPart c = false) :
    Letter.isStray c = true := by
  have hne : ∀ d, Identifier.isPart d = true → (c == d) = false := by
    intro d hd
    refine beq_eq_false_iff_ne.2 ?_
    rintro rfl
    exact Bool.noConfusion (hpart.symm.trans hd)
  rw [isDottedPart, hne '_' (by decide), hne '$' (by decide)] at h
  exact Letter.isStray_iff.2 ⟨h, hpart⟩

/-- A name behind a dot is no identifier name if it begins with a character that cannot begin one,
or holds a stray one. -/
theorem isMisread_iff :
    isMisread name = true ↔ isDotted name = true ∧ Identifier.isName name = false := by
  rw [isMisread, Bool.and_eq_true, Bool.or_eq_true]
  refine and_congr_right fun hdotted => ?_
  rcases name with - | ⟨c, rest⟩
  · cases hdotted
  have hparts := isDottedPart_of_mem hdotted
  show (!Identifier.isStart c) = true ∨ _ ↔ (Identifier.isStart c && rest.all _) = false
  rw [Bool.not_eq_true', Bool.and_eq_false_iff, List.all_eq_false, List.any_eq_true]
  constructor
  · rintro (hstart | ⟨d, hd, hstray⟩)
    · exact .inl hstart
    · have hpart := Letter.isPart_of_isStray hstray
      rcases List.mem_cons.1 hd with rfl | hd
      · refine .inl (Bool.eq_false_iff.2 fun hstart => ?_)
        exact Bool.noConfusion (hpart.symm.trans (Identifier.isPart_of_isStart hstart))
      · exact .inr ⟨d, hd, Bool.eq_false_iff.1 hpart⟩
  · rintro (hstart | ⟨d, hd, hpart⟩)
    · exact .inl hstart
    · have hd := List.mem_cons_of_mem c hd
      exact .inr ⟨d, hd, isStray_of_isDottedPart (hparts d hd) (Bool.eq_false_iff.2 hpart)⟩

end Dotted

/-! ### Members -/

theorem isName_temporary (k : Nat) : Identifier.isName (temporary k).toList = true := by
  have hdigits : (toString k).toList.all Identifier.isPart = true := by
    refine List.all_eq_true.2 fun d hd => ?_
    exact Lexeme.of_isDigit (by decide) (Lexeme.isDigit_of_mem_toString hd)
  have htext : (temporary k).toList = '_' :: ("_parcela_dep_".toList ++ (toString k).toList) := by
    show ("__parcela_dep_" ++ toString k).toList = _
    rw [String.toList_append]
    rfl
  rw [htext, Identifier.isName, List.all_append, hdigits]
  decide

/-- A name behind a dot is read if it is an identifier name, and else nothing is. -/
theorem access?_dotted {object name : List Char} (hobject : Identifier.isName object = true)
    (hdotted : isDotted name = true) :
    Lexeme.access? (object ++ '.' :: name) =
      if Identifier.isName name then some (String.ofList object, String.ofList name) else none := by
  rcases name with - | ⟨c, rest⟩
  · cases hdotted
  have hparts := isDottedPart_of_mem hdotted
  have hne : ∀ d ∈ c :: rest, d ≠ '\\' := fun d hd => ne_of_isDottedPart (hparts d hd) (by decide)
  have hdot : c ≠ '.' := ne_of_isDottedPart (hparts c List.mem_cons_self) (by decide)
  rw [Lexeme.access?_dot hobject (isDigit_eq_false_of_isDotted hdotted) hdot]
  cases hname : Identifier.isName (c :: rest) with
  | true =>
      have hend : Lexeme.EndsName [] := fun d hd => by cases hd
      have hscan := Lexeme.scan_name hname hend
      rw [List.append_nil] at hscan
      rw [hscan]
      rfl
  | false =>
      refine if_neg ?_
      rintro ⟨hkind, -, hrest⟩
      -- the scan stops at the first character that no identifier has
      have hstart := Lexeme.isStart_of_scan_name hkind (hne c List.mem_cons_self)
      exact Lexeme.rest_scan_ne_nil hstart
        (fun hmem => hne _ (List.mem_cons_of_mem c hmem) rfl) hname hrest

/-- **A member text reads the property that is meant, or none.**  It reads none if the name is
misread: if it is written behind a dot and is no identifier name. -/
theorem access_memberText (k : Nat) (name : String) :
    Lexeme.access? (memberText (temporary k) name).toList =
        (if isMisread name.toList then none else some (temporary k, name)) ∧
      (isMisread name.toList = true ↔
        isDotted name.toList = true ∧ Identifier.isName name.toList = false) := by
  refine ⟨?_, isMisread_iff⟩
  have hobject := isName_temporary k
  unfold memberText
  cases hdotted : isDotted name.toList with
  | true =>
      have htext : (temporary k ++ "." ++ name).toList =
          (temporary k).toList ++ '.' :: name.toList := by simp
      rw [if_pos rfl, htext, access?_dotted hobject hdotted, String.ofList_toList,
        String.ofList_toList]
      cases hname : Identifier.isName name.toList with
      | true =>
          have hread : isMisread name.toList = false :=
            Bool.eq_false_iff.2 fun h => Bool.noConfusion (hname.symm.trans (isMisread_iff.1 h).2)
          rw [hread]
          rfl
      | false =>
          rw [isMisread_iff.2 ⟨hdotted, hname⟩]
          rfl
  | false =>
      -- any other name is quoted between brackets
      have htext : (temporary k ++ "[" ++ name.quoted ++ "]").toList =
          (temporary k).toList ++ '[' :: (Quoted.encode name.toList ++ [']']) := by
        simp [String.quoted]
      rw [if_neg Bool.false_ne_true, htext, Lexeme.access?_bracket hobject, String.ofList_toList,
        isMisread, hdotted]
      rfl

/-- A module that imports a name with a superscript in it is accepted, and the script that it is
turned into cannot be read. -/
theorem script_unreadable_of_superscript : ∃ parsed,
    Program.parse false "import \x7b 'a²' as b \x7d from './x.js'; b".toList = .ok parsed ∧
    (Link.ofProgram parsed.program).read? "b" = some (memberText (temporary 0) "a²") ∧
    Lexeme.access? (memberText (temporary 0) "a²").toList = none ∧
    ∀ parsed', Program.parse true (parsed.program.script
      "import \x7b 'a²' as b \x7d from './x.js'; b".toList).toList ≠ .ok parsed' := by
  obtain ⟨parsed, hparse, hfacts⟩ := Program.exists_parsed
    (a := (some (memberText (temporary 0) "a²"), true))
    (fun parsed => ((Link.ofProgram parsed.program).read? "b",
      (Program.parse true (parsed.program.script
        "import \x7b 'a²' as b \x7d from './x.js'; b".toList).toList).toOption.isNone)) false
    "import \x7b 'a²' as b \x7d from './x.js'; b".toList (by decide +kernel)
  obtain ⟨hread, hscript⟩ := Prod.mk.inj hfacts
  refine ⟨parsed, hparse, hread, by decide +kernel, fun parsed' hok => ?_⟩
  rw [hok] at hscript
  cases hscript

end ModuleBundler
