/-
ModuleBundler/Proofs/Bundle/Wrapping.lean

When a bundle declares the table of helpers.  In the code of each asset the matches of the name of
the table are looked at, and whether a `.` stands behind one (`exists_matches`).  The name has no
border (`unbordered_binding`), so all its occurrences are matches.  This is why the bundle stands in
the scope of the table exactly if the name stands somewhere in some code with a `.` behind it.

Main result: `bundle?_wrapped`.
-/
import ModuleBundler.Bundle.Render
import ModuleBundler.Proofs.Text.Occurrence

namespace ModuleBundler

open Occurrence

/-! ### The name of the table -/

namespace HelperTable

theorem unbordered_binding : Unbordered binding.toList := by decide

theorem after?_eq_some_iff {word text rest : List Char} :
    after? word text = some rest ↔ text = word ++ rest := by
  induction word generalizing text with
  | nil => simp [after?, eq_comm]
  | cons w ws ih =>
      cases text with
      | nil => simp [after?]
      | cons c cs =>
          by_cases hc : w = c
          · simp [after?, hc, ih]
          · have hne : ¬ c = w := fun h => hc h.symm
            simp [after?, hc, hne]

theorem not_isPrefix_of_after? {word text : List Char} (h : after? word text = none) :
    ¬ word <+: text := by
  rintro ⟨rest, htext⟩
  rw [after?_eq_some_iff.2 htext.symm] at h
  cases h

/-- Of the occurrences of the name only the matches are looked at. -/
theorem exists_matches (text : List Char) : ∃ rests, Matches binding.toList text rests ∧
    (occursIn text = true ↔ ∃ rest ∈ rests, rest.head? = some '.') := by
  fun_induction occursIn text with
  | case1 => exact ⟨[], .done (by decide), by simp⟩
  | case2 c cs rest hfound _ ih =>
      obtain ⟨rests, hmatches, hiff⟩ := ih
      refine ⟨rest :: rests, ?_, by simp [hiff]⟩
      -- a match at the head of the text has none before it
      rw [after?_eq_some_iff.1 hfound, ← List.nil_append (_ ++ rest)]
      exact .found (fun front _ _ => Nat.zero_le front.length) hmatches
  | case3 c cs hnone ih =>
      obtain ⟨rests, hmatches, hiff⟩ := ih
      exact ⟨rests, hmatches.cons (not_isPrefix_of_after? hnone), hiff⟩

theorem occursIn_iff {text : List Char} :
    occursIn text = true ↔ (binding ++ ".").toList <:+: text := by
  obtain ⟨rests, hmatches, hiff⟩ := exists_matches text
  rw [hiff, String.toList_append]
  constructor
  · rintro ⟨rest, hmem, hdot⟩
    obtain ⟨front, rfl⟩ := hmatches.exists_of_mem hmem
    obtain ⟨back, rfl⟩ := List.head?_eq_some_iff.1 hdot
    exact ⟨front, back, by simp⟩
  · rintro ⟨front, back, rfl⟩
    have hmem : '.' :: back ∈ rests :=
      (hmatches.mem_iff unbordered_binding).2 ⟨front, by simp⟩
    exact ⟨'.' :: back, hmem, rfl⟩

/-- A text is not the same in the scope of the table. -/
theorem opening_append_closing_ne (text : String) : opening ++ text ++ closing ≠ text := by
  intro h
  have hlength := congrArg String.length h
  rw [String.length_append, String.length_append, show closing.length = 6 by decide] at hlength
  omega

end HelperTable

theorem usesHelpers_iff {code : String} :
    usesHelpers code = true ↔ StandsIn "babelHelpers." code :=
  HelperTable.occursIn_iff.trans standsIn_iff.symm

/-! ### Bundles -/

namespace AssetGraph

variable {g : AssetGraph}

theorem usesHelpers_iff :
    g.usesHelpers = true ↔ ∃ a ∈ g.assets, StandsIn "babelHelpers." a.code := by
  unfold usesHelpers
  rw [List.any_eq_true]
  exact exists_congr fun a => and_congr_right fun _ => ModuleBundler.usesHelpers_iff

theorem bundle?_of_usesHelpers (hg : g.isEmpty = false) (h : g.usesHelpers = true) :
    g.bundle? = some (HelperTable.opening ++ g.plainBundle ++ HelperTable.closing) := by
  rw [bundle?, hg, h]
  rfl

theorem bundle?_of_not_usesHelpers (hg : g.isEmpty = false) (h : g.usesHelpers = false) :
    g.bundle? = some g.plainBundle := by
  rw [bundle?, hg, h]
  rfl

end AssetGraph

/-- **A bundle declares the helpers exactly if some code calls one.**  Code uses helpers if a `.`
stands behind a match of the name of their table, and that is if the name with a `.` stands anywhere
in the code.  The bundle of a graph with assets is the plain bundle, and this same text in the scope
of the table if the name with a `.` stands in the code of some asset. -/
theorem bundle?_wrapped (g : AssetGraph) (hg : g.isEmpty = false) :
    (∀ code : String,
      (∃ rests, Matches "babelHelpers".toList code.toList rests ∧
        (usesHelpers code = true ↔ ∃ rest ∈ rests, rest.head? = some '.')) ∧
      (usesHelpers code = true ↔ StandsIn "babelHelpers." code)) ∧
    (g.bundle? = some (HelperTable.opening ++ g.plainBundle ++ HelperTable.closing) ↔
      ∃ a ∈ g.assets, StandsIn "babelHelpers." a.code) ∧
    (g.bundle? = some g.plainBundle ↔ ∀ a ∈ g.assets, ¬ StandsIn "babelHelpers." a.code) := by
  refine ⟨fun code => ⟨HelperTable.exists_matches code.toList, usesHelpers_iff⟩, ?_⟩
  -- a text is not the same text between the two parts of the table
  have hne := mt Option.some.inj (HelperTable.opening_append_closing_ne g.plainBundle)
  rcases huses : g.usesHelpers with - | -
  · have hnone : ¬ ∃ a ∈ g.assets, StandsIn "babelHelpers." a.code := by
      rw [← AssetGraph.usesHelpers_iff, huses]
      decide
    rw [AssetGraph.bundle?_of_not_usesHelpers hg huses]
    refine ⟨iff_of_false (Ne.symm hne) hnone, iff_of_true rfl ?_⟩
    exact fun a ha hstands => hnone ⟨a, ha, hstands⟩
  · have hsome := AssetGraph.usesHelpers_iff.1 huses
    rw [AssetGraph.bundle?_of_usesHelpers hg huses]
    refine ⟨iff_of_true rfl hsome, iff_of_false hne ?_⟩
    obtain ⟨a, ha, hstands⟩ := hsome
    exact fun hnone => hnone a ha hstands

/-- Assets without dependencies, by their codes. -/
def AssetGraph.ofCodes (codes : List String) : AssetGraph :=
  ⟨codes.mapIdx fun id code => ⟨id, toString id ++ ".js", code, [], ∅⟩⟩

/-- The table is named, and a helper is nearly called. -/
def nearCalls : AssetGraph := .ofCodes ["var babelHelpers;", "babelHelper.s(babelHelpers .s)"]

/-- A call begins where the name has begun twice before. -/
def closeCall : AssetGraph := .ofCodes ["f();", "ébabelbabelHelpersbabelHelpers.s"]

theorem bundle?_wrapped_of_closeCall :
    (nearCalls.isEmpty = false ∧ nearCalls.bundle? = some nearCalls.plainBundle) ∧
    (closeCall.isEmpty = false ∧ closeCall.bundle? =
      some (HelperTable.opening ++ closeCall.plainBundle ++ HelperTable.closing)) := by
  refine ⟨⟨rfl, (bundle?_wrapped nearCalls rfl).2.2.2 ?_⟩,
    ⟨rfl, (bundle?_wrapped closeCall rfl).2.1.2 ?_⟩⟩
  · decide
  · decide

end ModuleBundler
