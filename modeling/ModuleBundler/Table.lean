/-
ModuleBundler/Table.lean

Tables: pairs of keys and values, each key once, in the order in which the keys came
first.  Putting a value under a key that is there already replaces the value and
leaves the order as it is.

The two laws that everything else needs are `get?_put` and `keys_put`.
-/

namespace ModuleBundler

/-- Pairs of keys and values, each key once. -/
structure Table (α β : Type) where
  entries : List (α × β)
  nodup : (entries.map Prod.fst).Nodup

namespace Table

variable {α β : Type}

def keys (t : Table α β) : List α := t.entries.map Prod.fst

def empty : Table α β := ⟨[], List.nodup_nil⟩

instance : Inhabited (Table α β) := ⟨empty⟩
instance : EmptyCollection (Table α β) := ⟨empty⟩

def size (t : Table α β) : Nat := t.entries.length

section
variable [DecidableEq α]

/-- The entries with a value under a key. -/
def putIn (k : α) (v : β) : List (α × β) → List (α × β)
  | [] => [(k, v)]
  | e :: rest => if e.1 = k then (k, v) :: rest else e :: putIn k v rest

theorem map_fst_putIn (k : α) (v : β) (es : List (α × β)) :
    (putIn k v es).map Prod.fst =
      if k ∈ es.map Prod.fst then es.map Prod.fst else es.map Prod.fst ++ [k] := by
  induction es with
  | nil => simp [putIn]
  | cons e rest ih =>
      by_cases h : e.1 = k
      · simp [putIn, h]
      · have h' : ¬ k = e.1 := fun he => h he.symm
        by_cases hk : k ∈ rest.map Prod.fst <;> simp_all [putIn]

/-- Puts a value under a key. -/
def put (t : Table α β) (k : α) (v : β) : Table α β where
  entries := putIn k v t.entries
  nodup := by
    rw [map_fst_putIn]
    have h := t.nodup
    split
    · exact h
    · rename_i hk
      refine List.nodup_append.2 ⟨h, by simp, fun a ha b hb e => hk ?_⟩
      rw [← List.mem_singleton.1 hb, ← e]
      exact ha

/-- The value under a key. -/
def get? (t : Table α β) (k : α) : Option β := (t.entries.find? fun e => e.1 = k).map Prod.snd

theorem keys_put (t : Table α β) (k : α) (v : β) :
    (t.put k v).keys = if k ∈ t.keys then t.keys else t.keys ++ [k] :=
  map_fst_putIn k v t.entries

theorem get?_empty (k : α) : (empty : Table α β).get? k = none := rfl

theorem find?_putIn (k : α) (v : β) (es : List (α × β)) (j : α) :
    (((putIn k v es).find? fun e => e.1 = j).map Prod.snd) =
      if j = k then some v else (es.find? fun e => e.1 = j).map Prod.snd := by
  induction es with
  | nil => by_cases h : k = j <;> simp_all [putIn, eq_comm]
  | cons e rest ih =>
      by_cases h : e.1 = k
      · by_cases hj : j = k
        · simp [putIn, h, hj]
        · have : ¬ k = j := fun x => hj x.symm
          simp [putIn, h, hj, this]
      · by_cases hj : e.1 = j
        · have : ¬ j = k := fun x => h (hj.trans x)
          simp [putIn, hj, this]
        · simpa [putIn, h, hj] using ih

/-- The last value put under a key is the one that is found, and other keys are not touched. -/
theorem get?_put (t : Table α β) (k : α) (v : β) (j : α) :
    (t.put k v).get? j = if j = k then some v else t.get? j :=
  find?_putIn k v t.entries j

/-- The table of a list of pairs, a later value in place of an earlier one. -/
def ofList (es : List (α × β)) : Table α β := es.foldl (fun t e => t.put e.1 e.2) empty

end

end Table

end ModuleBundler
