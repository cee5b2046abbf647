import Mathlib.Data.List.Nodup
import ConsoleKeeper.Data.Table

/-!
# `ConsoleKeeper.Proofs.Data.Table`: looking up what was put

A change of one key changes the look-up of that key alone: `get?_put`, `get?_erase`. A table without
a key that occurs twice is `Distinct`; putting a value keeps it so, and its entries are then what the
look-up gives.

The tables of this library are the mappings in a document, the resources of a cluster and the files
of a tree. What is true of all of them stands here.
-/

set_option autoImplicit false

namespace ConsoleKeeper.Table

variable {κ ν : Type} [DecidableEq κ]

/-- Nothing is in an empty table. -/
@[simp] theorem get?_nil (key : κ) : get? ([] : Table κ ν) key = none := rfl

/-- The first entry decides about its own key only. -/
theorem get?_cons (entry : κ × ν) (rest : Table κ ν) (key : κ) :
    get? (entry :: rest) key = if key = entry.1 then some entry.2 else get? rest key := by
  simp only [get?, eq_comm]

/-- What stands in front of a table is looked through first. -/
theorem get?_append (table more : Table κ ν) (key : κ) :
    get? (table ++ more) key = (table.get? key).or (more.get? key) := by
  induction table with
  | nil => rfl
  | cons entry rest ih =>
    rw [List.cons_append, get?_cons, get?_cons, ih]
    split <;> rfl

/-! ### Putting a value -/

/-- The value under a key after a value was put under one. -/
theorem get?_put (table : Table κ ν) (key k : κ) (value : ν) :
    (table.put key value).get? k = if k = key then some value else table.get? k := by
  -- The entry that is replaced may stand anywhere in the list.
  induction table with
  | nil => simp [put, get?_cons]
  | cons entry rest ih =>
    obtain ⟨k', v⟩ := entry
    by_cases hk' : k' = key
    · subst hk'
      by_cases hk : k = k' <;> simp [put, get?_cons, hk]
    · by_cases hk : k = k'
      · subst hk
        simp [put, get?_cons, hk']
      · simp [put, get?_cons, hk', hk, ih]

/-- Putting the value that stands under a key changes nothing. -/
theorem put_eq_self {table : Table κ ν} {key : κ} {value : ν} (h : table.get? key = some value) :
    table.put key value = table := by
  induction table with
  | nil => cases h
  | cons entry rest ih =>
    obtain ⟨k, v⟩ := entry
    rw [get?_cons] at h
    by_cases hk : key = k
    · rw [if_pos hk, Option.some.injEq] at h
      rw [put, if_pos hk.symm, hk, ← h]
    · rw [if_neg hk] at h
      rw [put, if_neg (Ne.symm hk), ih h]

/-- A key that is not there yet comes last. -/
theorem put_eq_append {table : Table κ ν} {key : κ} (h : key ∉ table.map (·.1)) (value : ν) :
    table.put key value = table ++ [(key, value)] := by
  induction table with
  | nil => rfl
  | cons entry rest ih =>
    rw [List.map_cons, List.mem_cons, not_or] at h
    rw [put, if_neg (Ne.symm h.1), ih h.2, List.cons_append]

/-- A key that is put stays in its place, or comes last if it is new. -/
theorem map_fst_put (table : Table κ ν) (key : κ) (value : ν) :
    (table.put key value).map (·.1) =
      if key ∈ table.map (·.1) then table.map (·.1) else table.map (·.1) ++ [key] := by
  induction table with
  | nil => rfl
  | cons entry rest ih =>
    obtain ⟨k, v⟩ := entry
    by_cases hk : k = key
    · simp [put, hk]
    · simp only [put, if_neg hk, List.map_cons, ih, List.mem_cons, Ne.symm hk, false_or]
      split <;> rfl

/-- The keys after a value was put under one. -/
theorem mem_map_fst_put {table : Table κ ν} {key k : κ} {value : ν} :
    k ∈ (table.put key value).map (·.1) ↔ k = key ∨ k ∈ table.map (·.1) := by
  rw [map_fst_put]
  split
  · next hmem => exact ⟨.inr, fun hk => hk.elim (fun hsame => hsame ▸ hmem) id⟩
  · rw [List.mem_append, List.mem_singleton, or_comm]

/-- No key occurs twice. -/
def Distinct (table : Table κ ν) : Prop :=
  (table.map (·.1)).Nodup

instance (table : Table κ ν) : Decidable table.Distinct :=
  inferInstanceAs (Decidable (List.Nodup _))

omit [DecidableEq κ] in
/-- No key is twice in an empty table. -/
theorem distinct_nil : Distinct ([] : Table κ ν) :=
  List.nodup_nil

/-- Putting a value makes no key occur twice. -/
theorem Distinct.put {table : Table κ ν} (h : table.Distinct) (key : κ) (value : ν) :
    (table.put key value).Distinct := by
  rw [Distinct, map_fst_put]
  split
  · exact h
  · next hnew =>
    refine List.nodup_append.mpr ⟨h, List.nodup_singleton key, ?_⟩
    rintro k hk _ hmem rfl
    exact hnew (List.mem_singleton.mp hmem ▸ hk)

/-- Entries with keys of their own come behind the table, one after the other. -/
theorem foldl_put_eq_append {table more : Table κ ν} (h : Distinct (table ++ more)) :
    more.foldl (fun all entry => all.put entry.1 entry.2) table = table ++ more := by
  induction more generalizing table with
  | nil => exact (List.append_nil table).symm
  | cons entry more ih =>
    have hnew : entry.1 ∉ table.map (·.1) := by
      rw [Distinct, List.map_append, List.nodup_append] at h
      exact fun hmem => h.2.2 _ hmem _ List.mem_cons_self rfl
    rw [List.foldl_cons, put_eq_append hnew, ih (by simpa using h), List.append_assoc,
      List.singleton_append]

/-- The value under a key after entries were put one after the other: the last of them counts. -/
theorem get?_foldl_put (table more : Table κ ν) (key : κ) :
    (more.foldl (fun all entry => all.put entry.1 entry.2) table).get? key =
      (get? more.reverse key).or (table.get? key) := by
  induction more generalizing table with
  | nil => rfl
  | cons entry more ih =>
    rw [List.foldl_cons, ih, get?_put, List.reverse_cons, get?_append, get?_cons]
    split <;> simp [*]

/-- An entry is the one that was put or was there before. -/
theorem mem_put {table : Table κ ν} {key : κ} {value : ν} {entry : κ × ν}
    (h : entry ∈ table.put key value) : entry = (key, value) ∨ entry ∈ table := by
  induction table with
  | nil => exact .inl (List.mem_singleton.mp h)
  | cons first rest ih =>
    obtain ⟨k, v⟩ := first
    rw [Table.put] at h
    split at h
    · obtain rfl | h := List.mem_cons.mp h
      · exact .inl rfl
      · exact .inr (List.mem_cons_of_mem _ h)
    · obtain rfl | h := List.mem_cons.mp h
      · exact .inr List.mem_cons_self
      · exact (ih h).imp_right (List.mem_cons_of_mem _)

/-! ### Entries and what is looked up -/

/-- A key that no entry has. -/
theorem get?_eq_none_iff {table : Table κ ν} {key : κ} :
    table.get? key = none ↔ key ∉ table.map (·.1) := by
  induction table with
  | nil => simp
  | cons entry rest ih =>
    rw [get?_cons, List.map_cons, List.mem_cons, not_or, ← ih]
    split
    · next hk => simp [hk]
    · next hk => simp [hk]

/-- The value under a key is that of an entry. -/
theorem mem_of_get? {table : Table κ ν} {key : κ} {value : ν} (h : table.get? key = some value) :
    (key, value) ∈ table := by
  induction table with
  | nil => cases h
  | cons entry rest ih =>
    rw [get?_cons] at h
    split at h
    · next hk =>
      cases h
      exact hk ▸ List.mem_cons_self
    · exact List.mem_cons_of_mem entry (ih h)

/-- An entry of a table without keys that occur twice is the one under its key. -/
theorem Distinct.get?_of_mem {table : Table κ ν} (h : table.Distinct) {entry : κ × ν}
    (hmem : entry ∈ table) : table.get? entry.1 = some entry.2 := by
  induction table with
  | nil => cases hmem
  | cons first rest ih =>
    obtain ⟨hnew, hrest⟩ := List.nodup_cons.mp h
    rw [get?_cons]
    obtain rfl | hmem := List.mem_cons.mp hmem
    · rw [if_pos rfl]
    · have hne : entry.1 ≠ first.1 := fun hsame =>
        hnew (List.mem_map.mpr ⟨entry, hmem, hsame⟩)
      rw [if_neg hne, ih hrest hmem]

/-! ### Other changes of a table -/

/-- The value under a key after a key was taken out. -/
theorem get?_erase (table : Table κ ν) (key k : κ) :
    (table.erase key).get? k = if k = key then none else table.get? k := by
  unfold erase
  induction table with
  | nil => simp [get?]
  | cons entry rest ih =>
    obtain ⟨k', v⟩ := entry
    -- All entries under the key go, so a second one cannot come to light behind the first.
    by_cases hk' : k' = key
    · subst hk'
      rw [List.filter_cons_of_neg (by simp), ih]
      by_cases hk : k = k'
      · simp [hk]
      · simp [get?, hk, Ne.symm hk]
    · rw [List.filter_cons_of_pos (by simpa using hk')]
      by_cases hk : k' = k
      · subst hk
        simp [get?, hk']
      · simpa [get?, hk] using ih

/-- The value under a key of a table whose values were changed. -/
theorem get?_map {μ : Type} (f : ν → μ) (table : Table κ ν) (k : κ) :
    get? (table.map fun entry => (entry.1, f entry.2)) k = (table.get? k).map f := by
  induction table with
  | nil => rfl
  | cons entry rest ih =>
    obtain ⟨k', v⟩ := entry
    by_cases hk : k' = k
    · simp [get?, hk]
    · simpa [get?, hk] using ih

/-- Where the old value and the new one change into the same, it cannot be seen that the new one was
put. -/
theorem map_put {μ : Type} (f : ν → μ) {table : Table κ ν} {key : κ} {old value : ν}
    (hold : table.get? key = some old) (hf : f value = f old) :
    (table.put key value).map (fun entry => (entry.1, f entry.2)) =
      table.map fun entry => (entry.1, f entry.2) := by
  induction table with
  | nil => cases hold
  | cons entry rest ih =>
    obtain ⟨k, v⟩ := entry
    -- The first entry of the key is the one that `put` replaces and `get?` finds.
    by_cases hk : k = key
    · subst hk
      simp only [get?, if_true, Option.some.injEq] at hold
      simp [put, hold, hf]
    · simp only [get?, hk, if_false] at hold
      simp [put, hk, ih hold]

/-- What is found for some keys, in their order. -/
theorem get?_filterMap (found : κ → Option ν) (keys : List κ) (key : κ) :
    get? (keys.filterMap fun k => (found k).map fun value => (k, value)) key =
      if key ∈ keys then found key else none := by
  induction keys with
  | nil => simp
  | cons k rest ih =>
    rw [List.filterMap_cons]
    by_cases hk : key = k
    · subst hk
      cases hfound : found key with
      | none => simp [ih, hfound]
      | some value => simp [get?_cons]
    · cases found k with
      | none => simp [ih, hk]
      | some value => simp [get?_cons, ih, hk]

omit [DecidableEq κ] in
/-- The keys that something is found for. -/
theorem map_fst_filterMap (found : κ → Option ν) (keys : List κ) :
    (keys.filterMap fun k => (found k).map fun value => (k, value)).map (·.1) =
      keys.filter fun k => (found k).isSome := by
  induction keys with
  | nil => rfl
  | cons k rest ih =>
    rw [List.filterMap_cons]
    cases hfound : found k with
    | none => simp [ih, hfound]
    | some value => simp [ih, hfound]

end ConsoleKeeper.Table
