/-
ModuleBundler/Proofs/Module/Required.lean

What a script requires and what its module lists.  The strings required are read off
the script: they are what the literals behind `require(` denote (`Requirement.literal?`),
and that undoes the quoting (`literal?_text`).

The script requires what the statements at the top of the module name, in their order
(`required_eq`).  The specifiers listed are those, and whatever stands further inside
(`specifiers_eq`).  So the two lists are equal exactly if nothing stands further inside
(`required_eq_specifiers_iff`).
-/
import Mathlib.Data.List.Basic
import ModuleBundler.Module.Script
import ModuleBundler.Proofs.Syntax.Part
import ModuleBundler.Proofs.Text.Initializer

namespace ModuleBundler

/-- A temporary is written with the characters of one word and digits. -/
theorem notMem_temporary {c : Char} (hword : c ∉ "__parcela_dep_".toList)
    (hdigit : c.isDigit = false) (n : Nat) : c ∉ (temporary n).toList := by
  rw [temporary, String.toList_append, List.mem_append, not_or]
  refine ⟨hword, fun h => ?_⟩
  exact Bool.noConfusion (hdigit.symm.trans (Lexeme.isDigit_of_mem_toString h))

/-! ### The literal of a statement -/

namespace Requirement

/-- The string that a statement `… require(literal);` requires, and nothing for others. -/
def literal? (text : List Char) : Option String :=
  if "require".toList.isSuffixOf (text.takeWhile (· != '(')) then
    match Lexeme.literal? (text.dropWhile (· != '(')).tail with
    | some (s, [')', ';']) => some s
    | _ => none
  else none

theorem literal?_append {front back : List Char} (hfront : '(' ∉ front) :
    literal? (front ++ '(' :: back) =
      if "require".toList.isSuffixOf front then
        match Lexeme.literal? back with
        | some (s, [')', ';']) => some s
        | _ => none
      else none := by
  have hall : ∀ c ∈ front, (c != '(') = true := by
    intro c hc
    exact bne_iff_ne.2 fun heq => hfront (heq ▸ hc)
  rw [literal?, List.takeWhile_append_of_pos hall, List.dropWhile_append_of_pos hall,
    List.takeWhile_cons_of_neg (by decide), List.dropWhile_cons_of_neg (by decide),
    List.append_nil, List.tail_cons]

/-- The literal of a call of `require` denotes the text that was quoted. -/
theorem literal?_require {front : List Char} (hfront : '(' ∉ front)
    (hcall : "require".toList.isSuffixOf front = true) (s : String) :
    literal? (front ++ '(' :: (s.quoted ++ ");").toList) = some s := by
  have hback : (s.quoted ++ ");").toList = Quoted.encode s.toList ++ [')', ';'] := by
    simp [String.quoted]
  rw [literal?_append hfront, if_pos hcall, hback, Quoted.literal?_encode]
  simp

/-- How a statement begins. -/
def opening : Requirement → String
  | bare _ => "require("
  | bound _ _ => "var "
  | forward _ => "Object.keys("

theorem exists_text_eq (r : Requirement) : ∃ back, r.text = r.opening ++ back := by
  have hfront : ∀ {a b front : String}, (∃ back, a = front ++ back) →
      ∃ back, a ++ b = front ++ back := by
    rintro a b front ⟨back, rfl⟩
    exact ⟨back ++ b, String.append_assoc⟩
  cases r with
  | bare specifier =>
      refine hfront ?_
      exact ⟨specifier.quoted, rfl⟩
  | bound n specifier =>
      iterate 3 refine hfront ?_
      exact ⟨temporary n, rfl⟩
  | forward n =>
      iterate 7 refine hfront ?_
      exact ⟨temporary n, rfl⟩

/-- **The literal of a statement denotes the specifier that the statement is for.** -/
theorem literal?_text (r : Requirement) : literal? r.text.toList = r.specifier? := by
  cases r with
  | bare s =>
      have hcall : "require(".toList = "require".toList ++ ['('] := rfl
      have htext : (bare s).text.toList = "require".toList ++ '(' :: (s.quoted ++ ");").toList := by
        show ("require(" ++ s.quoted ++ ");").toList = _
        rw [String.toList_append, String.toList_append, String.toList_append, hcall,
          List.append_assoc, List.append_assoc, List.singleton_append]
      rw [htext]
      exact literal?_require (by decide) (by decide) s
  | bound n s =>
      have hcall : " = require(".toList = " = require".toList ++ ['('] := rfl
      have hassoc : ∀ a b c d e : List Char, a ++ b ++ (c ++ ['(']) ++ d ++ e =
          a ++ b ++ c ++ '(' :: (d ++ e) := by simp
      have htext : (bound n s).text.toList = ("var ".toList ++ (temporary n).toList ++
          " = require".toList) ++ '(' :: (s.quoted ++ ");").toList := by
        show ("var " ++ temporary n ++ " = require(" ++ s.quoted ++ ");").toList = _
        rw [String.toList_append, String.toList_append, String.toList_append,
          String.toList_append, String.toList_append, hcall, hassoc]
      rw [htext]
      refine literal?_require ?_ ?_ s
      · rw [List.mem_append, List.mem_append, not_or, not_or]
        exact ⟨⟨by decide, notMem_temporary (by decide) (by decide) n⟩, by decide⟩
      · rw [List.isSuffixOf_iff_suffix]
        exact List.IsSuffix.trans (by decide) (List.suffix_append _ _)
  | forward n =>
      have hcall : "Object.keys(".toList = "Object.keys".toList ++ ['('] := rfl
      -- the first call is one of another function
      have hnone : ∀ back : String, literal? ("Object.keys(" ++ back).toList = none := by
        intro back
        rw [String.toList_append, hcall, List.append_assoc, List.singleton_append,
          literal?_append (by decide)]
        exact if_neg (by decide)
      obtain ⟨back, htext⟩ := exists_text_eq (forward n)
      rw [htext, opening]
      exact hnone back

end Requirement

/-! ### The two lists -/

/-- The strings that a script requires, in the order of its statements. -/
def Program.required (p : Program) : List String :=
  ((Link.ofProgram p).requirements.map (·.text.toList)).filterMap Requirement.literal?

namespace Link

/-- Adding a statement requires what the statement itself names. -/
theorem requirements_add (l : Link) (s : Stmt) :
    (l.add s).requirements.filterMap Requirement.specifier? =
      l.requirements.filterMap Requirement.specifier? ++ s.specifier?.toList := by
  cases s with
  | importDecl span specs source =>
      rcases specs with _ | _ | ⟨spec, specs⟩ <;>
        simp [add, require, bind, Stmt.specifier?, Requirement.specifier?]
  | exportList span specs source =>
      cases source <;> simp [add, require, bind, Stmt.specifier?, Requirement.specifier?]
  | exportAll span exported source =>
      cases exported <;> simp [add, require, bind, Stmt.specifier?, Requirement.specifier?]
  | _ => simp [add, require, Stmt.specifier?]

theorem requirements_foldl_add (l : Link) (stmts : List Stmt) :
    (stmts.foldl add l).requirements.filterMap Requirement.specifier? =
      l.requirements.filterMap Requirement.specifier? ++ stmts.filterMap Stmt.specifier? := by
  induction stmts generalizing l with
  | nil => simp
  | cons s stmts ih =>
      rw [List.foldl_cons, ih, requirements_add, List.append_assoc]
      cases hs : s.specifier? <;> simp [hs]

end Link

namespace Program

variable {p : Program}

theorem required_eq (p : Program) : p.required = p.stmts.filterMap Stmt.specifier? := by
  have hliteral : (Requirement.literal? ∘ fun r : Requirement => r.text.toList) =
      Requirement.specifier? := funext Requirement.literal?_text
  rw [required, List.filterMap_map, hliteral, Link.ofProgram, Link.requirements_foldl_add]
  rfl

theorem specifiers_eq (p : Program) :
    p.specifiers = p.stmts.flatMap fun s => s.specifier?.toList ++ s.nestedSpecifiers := by
  rw [specifiers]
  exact List.flatMap_congr fun s _ => specifiers_stmt s

/-- **A script requires what its module lists exactly if the specifiers listed stand at the top.** -/
theorem required_eq_specifiers_iff :
    p.required = p.specifiers ↔ ∀ s ∈ p.stmts, s.nestedSpecifiers = [] := by
  rw [required_eq, specifiers_eq]
  -- the longer list has what is nested as well, so the lengths decide
  have hlength : ∀ stmts : List Stmt,
      (stmts.flatMap fun s => s.specifier?.toList ++ s.nestedSpecifiers).length =
        (stmts.filterMap Stmt.specifier?).length +
          (stmts.map fun s => s.nestedSpecifiers.length).sum := by
    intro stmts
    induction stmts with
    | nil => rfl
    | cons s stmts ih =>
        cases hs : s.specifier? <;> simp [hs, ih] <;> omega
  constructor
  · intro h s hs
    have hsum := congrArg List.length h
    rw [hlength] at hsum
    have hzero : (p.stmts.map fun s => s.nestedSpecifiers.length).sum = 0 := by omega
    rw [List.sum_eq_zero_iff_forall_eq_nat] at hzero
    exact List.length_eq_zero_iff.1 (hzero _ (List.mem_map_of_mem hs))
  · intro h
    rw [List.filterMap_eq_flatMap_toList]
    refine (List.flatMap_congr fun s hs => ?_).symm
    rw [h s hs, List.append_nil]

end Program

end ModuleBundler
