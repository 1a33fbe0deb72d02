/-
ModuleBundler/Proofs/Table/OfList.lean

Tables filled pair by pair.  A table of a list of pairs has each key of the list
once, where it came first (`keys_ofList`), and under a key the value that came
with it last (`get?_ofList_of_last`).

The order of first occurrence is that of `List.eraseDups`, which
`eraseDups_concat` describes from the end of the list.
-/
import Mathlib.Data.List.Induction
import Mathlib.Data.List.Nodup
import ModuleBundler.Table

namespace ModuleBundler

variable {α β : Type}

/-! ### Repetitions -/

/-- A repetition at the end of a list is removed, a new element stays there. -/
theorem eraseDups_concat [BEq α] [LawfulBEq α] (l : List α) (a : α) :
    (l ++ [a]).eraseDups = if l.contains a then l.eraseDups else l.eraseDups ++ [a] := by
  rw [List.eraseDups_append]
  by_cases h : a ∈ l
  · have hrest : [a].removeAll l = [] := by simp [List.removeAll, h]
    rw [hrest, if_pos (List.contains_iff_mem.2 h)]
    simp
  · have hrest : [a].removeAll l = [a] := by simp [List.removeAll, h]
    rw [hrest, if_neg (mt List.contains_iff_mem.1 h), List.eraseDups_cons]
    simp

namespace Table

variable [DecidableEq α]

/-! ### One pair more -/

theorem ofList_concat (es : List (α × β)) (k : α) (v : β) :
    ofList (es ++ [(k, v)]) = (ofList es).put k v := by
  simp [ofList]

theorem ofList_append (es fs : List (α × β)) :
    ofList (es ++ fs) = fs.foldl (fun t e => t.put e.1 e.2) (ofList es) := by
  simp [ofList]

theorem mem_keys_iff {t : Table α β} {k : α} : k ∈ t.keys ↔ (t.get? k).isSome := by
  simp [keys, get?]

/-- Under a key stands the value of its entry. -/
theorem get?_eq_some_iff {t : Table α β} {k : α} {v : β} :
    t.get? k = some v ↔ (k, v) ∈ t.entries := by
  unfold get?
  rw [Option.map_eq_some_iff]
  constructor
  · rintro ⟨e, hfind, rfl⟩
    obtain rfl : e.1 = k := by simpa using List.find?_some hfind
    exact List.mem_of_find?_eq_some hfind
  · intro hmem
    have hfound : (t.entries.find? fun e => e.1 = k).isSome :=
      List.find?_isSome.2 ⟨(k, v), hmem, by simp⟩
    obtain ⟨e, hfind⟩ := Option.isSome_iff_exists.1 hfound
    have hkey : e.1 = k := by simpa using List.find?_some hfind
    have heq := List.inj_on_of_nodup_map t.nodup (List.mem_of_find?_eq_some hfind) hmem hkey
    exact ⟨e, hfind, by rw [heq]⟩

/-! ### Keys and values of the whole -/

/-- The keys of a table are those of its pairs, each where it came first. -/
theorem keys_ofList (es : List (α × β)) : (ofList es).keys = (es.map Prod.fst).eraseDups := by
  induction es using List.reverseRecOn with
  | nil => rfl
  | append_singleton es e ih =>
      have hmem : e.1 ∈ (es.map Prod.fst).eraseDups ↔ e.1 ∈ es.map Prod.fst :=
        List.mem_eraseDups
      rw [ofList_concat es e.1 e.2, keys_put, ih, List.map_append, List.map_singleton,
        eraseDups_concat]
      simp only [hmem, List.contains_iff_mem]

/-- Pairs with other keys do not touch the value under a key. -/
theorem get?_foldl_put_of_notMem {fs : List (α × β)} {k : α} (h : k ∉ fs.map Prod.fst)
    (t : Table α β) : (fs.foldl (fun t e => t.put e.1 e.2) t).get? k = t.get? k := by
  induction fs generalizing t with
  | nil => rfl
  | cons f fs ih =>
      simp only [List.map_cons, List.mem_cons, not_or] at h
      rw [List.foldl_cons, ih h.2, get?_put, if_neg h.1]

/-- Under a key stands the value that came with it last. -/
theorem get?_ofList_of_last (es fs : List (α × β)) (k : α) (v : β) (h : k ∉ fs.map Prod.fst) :
    (ofList (es ++ (k, v) :: fs)).get? k = some v := by
  rw [ofList_append, List.foldl_cons, get?_foldl_put_of_notMem h, get?_put, if_pos rfl]

/-- If keys determine their values, a key has that value wherever it stood. -/
theorem get?_ofList_map (l : List α) (f : α → β) (k : α) :
    (ofList (l.map fun a => (a, f a))).get? k = if k ∈ l then some (f k) else none := by
  induction l using List.reverseRecOn with
  | nil => rfl
  | append_singleton l a ih =>
      rw [List.map_append, List.map_singleton, ofList_concat, get?_put, ih]
      by_cases hk : k = a
      · simp [hk]
      · simp [hk]

/-- Under a key that comes with one value only, a table has the pair that it was filled with. -/
theorem get?_ofList_eq_some_iff {es : List (α × β)} {k : α}
    (h : ∀ v w, (k, v) ∈ es → (k, w) ∈ es → v = w) {v : β} :
    (ofList es).get? k = some v ↔ (k, v) ∈ es := by
  induction es using List.reverseRecOn with
  | nil => simp [ofList, get?_empty]
  | append_singleton es e ih =>
      have hes : (ofList es).get? k = some v ↔ (k, v) ∈ es := ih fun v w hv hw =>
        h v w (List.mem_append_left _ hv) (List.mem_append_left _ hw)
      have hlast : e ∈ es ++ [e] := List.mem_append_right _ (List.mem_singleton_self e)
      rw [ofList_concat es e.1 e.2, get?_put]
      by_cases hk : k = e.1
      · subst hk
        rw [if_pos rfl, Option.some.injEq]
        constructor
        · rintro rfl
          exact hlast
        · exact fun hv => h e.2 v hlast hv
      · rw [if_neg hk, hes, List.mem_append, List.mem_singleton]
        exact ⟨.inl, fun hv => hv.resolve_right fun he => hk (congrArg Prod.fst he)⟩

/-- The pairs of a key that comes with one value only may stand in any order. -/
theorem get?_ofList_perm {es fs : List (α × β)} {k : α}
    (h : ∀ v w, (k, v) ∈ es → (k, w) ∈ es → v = w) (hperm : es.Perm fs) :
    (ofList es).get? k = (ofList fs).get? k := by
  refine Option.ext fun v => ?_
  rw [get?_ofList_eq_some_iff h, hperm.mem_iff, get?_ofList_eq_some_iff fun v w hv hw =>
    h v w (hperm.mem_iff.2 hv) (hperm.mem_iff.2 hw)]

/-- Values are found under keys that were changed, as long as this made none of them equal. -/
theorem get?_ofList_mapKeys {γ : Type} [DecidableEq γ] {es : List (α × β)} {φ : α → γ} {k : α}
    (h : ∀ e ∈ es, φ e.1 = φ k → e.1 = k) :
    (ofList (es.map fun e => (φ e.1, e.2))).get? (φ k) = (ofList es).get? k := by
  induction es using List.reverseRecOn with
  | nil => rfl
  | append_singleton es e ih =>
      rw [List.map_append]
      show (ofList (_ ++ [(φ e.1, e.2)])).get? (φ k) = (ofList (es ++ [(e.1, e.2)])).get? k
      rw [ofList_concat, ofList_concat, get?_put, get?_put,
        ih fun e he => h e (List.mem_append_left _ he)]
      by_cases hk : k = e.1
      · rw [if_pos hk, if_pos (congrArg φ hk)]
      · have hnew : φ k ≠ φ e.1 := fun heq => hk (h e (by simp) heq.symm).symm
        rw [if_neg hk, if_neg hnew]

end Table

theorem nodup_eraseDups [DecidableEq α] (l : List α) : l.eraseDups.Nodup := by
  have hkeys := Table.keys_ofList (l.map fun a => (a, ()))
  have hmap : (l.map fun a => (a, ())).map Prod.fst = l := by
    rw [List.map_map]
    exact List.map_id' l
  rw [hmap] at hkeys
  rw [← hkeys]
  exact (Table.ofList _).nodup

end ModuleBundler
