/-
ModuleBundler/Proofs/Table/Index.lean

Tables that number the elements of a list.  A table is the index of a list if it has
the elements as keys, in their order, and under each its place.  Such a table grows
with its list, by one new element and the next number (`IsIndex.put`), and looking up
an element is finding its place (`IsIndex.get?_eq`).
-/
import Mathlib.Data.List.Nodup
import ModuleBundler.Table

namespace ModuleBundler.Table

variable {α β : Type} [DecidableEq α]

/-- The table has the elements of the list as keys and their places as values. -/
def IsIndex (t : Table α Nat) (l : List α) : Prop := t.entries = l.zipIdx

omit [DecidableEq α] in
theorem isIndex_empty : IsIndex (empty : Table α Nat) [] := rfl

/-- A new key is put at the end. -/
theorem putIn_of_notMem {k : α} (v : β) {es : List (α × β)} (h : k ∉ es.map Prod.fst) :
    putIn k v es = es ++ [(k, v)] := by
  induction es with
  | nil => rfl
  | cons e es ih =>
      simp only [List.map_cons, List.mem_cons, not_or] at h
      rw [putIn, if_neg (Ne.symm h.1), ih h.2, List.cons_append]

theorem IsIndex.put {t : Table α Nat} {l : List α} (h : t.IsIndex l) {a : α} (ha : a ∉ l) :
    (t.put a l.length).IsIndex (l ++ [a]) := by
  have hkey : a ∉ t.entries.map Prod.fst := by rwa [h, List.zipIdx_map_fst]
  show putIn a l.length t.entries = (l ++ [a]).zipIdx
  rw [putIn_of_notMem _ hkey, h, List.zipIdx_append]
  simp

omit [DecidableEq α] in
theorem IsIndex.nodup {t : Table α Nat} {l : List α} (h : t.IsIndex l) : l.Nodup := by
  have := t.nodup
  rwa [h, List.zipIdx_map_fst] at this

/-- The first place at which a key stands in a numbered list. -/
theorem find?_zipIdx (l : List α) (a : α) (n : Nat) :
    ((l.zipIdx n).find? fun e => e.1 = a).map Prod.snd =
      if a ∈ l then some (n + l.idxOf a) else none := by
  induction l generalizing n with
  | nil => rfl
  | cons b l ih =>
      by_cases hb : b = a
      · simp [hb]
      · have hba : ¬ a = b := fun e => hb e.symm
        have hbeq : (b == a) = false := by simpa using hb
        rw [List.zipIdx_cons, List.find?_cons_of_neg (by simpa using hb), ih]
        simp only [List.mem_cons, hba, false_or, List.idxOf_cons, hbeq, cond_false]
        split
        · congr 1
          omega
        · rfl

theorem IsIndex.get?_eq {t : Table α Nat} {l : List α} (h : t.IsIndex l) (a : α) :
    t.get? a = if a ∈ l then some (l.idxOf a) else none := by
  have hfind := find?_zipIdx l a 0
  rw [Nat.zero_add] at hfind
  rw [get?, h, hfind]

theorem IsIndex.get?_of_mem {t : Table α Nat} {l : List α} (h : t.IsIndex l) {a : α}
    (ha : a ∈ l) : t.get? a = some (l.idxOf a) := by
  rw [h.get?_eq, if_pos ha]

theorem IsIndex.get?_of_notMem {t : Table α Nat} {l : List α} (h : t.IsIndex l) {a : α}
    (ha : a ∉ l) : t.get? a = none := by
  rw [h.get?_eq, if_neg ha]

end ModuleBundler.Table
