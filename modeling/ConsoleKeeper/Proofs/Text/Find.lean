import ConsoleKeeper.Text.Split

/-!
# `ConsoleKeeper.Proofs.Text.Find`: where a pattern occurs

`OccursAt` says that a pattern begins at a place of a sequence. An occurrence in a part of a
sequence is one of the whole sequence, and one of the whole sequence that ends in its first part is
an occurrence in that part.

`findFrom` searches from the left. `findFrom_eq_some` and `findFrom_eq_none` say what it has found
and what it has passed on the way.
-/

set_option autoImplicit false

namespace ConsoleKeeper.Text

variable {α : Type} {pattern s t : List α} {i : Nat}

/-- A pattern begins at a place of a sequence. -/
def OccursAt (pattern s : List α) (i : Nat) : Prop :=
  pattern <+: s.drop i

instance [DecidableEq α] (pattern s : List α) (i : Nat) : Decidable (OccursAt pattern s i) :=
  inferInstanceAs (Decidable (pattern <+: s.drop i))

/-- An occurrence ends where the sequence ends, or before. -/
theorem OccursAt.le_length (h : OccursAt pattern s i) (hpattern : pattern ≠ []) :
    i + pattern.length ≤ s.length := by
  have hpos : 0 < pattern.length := List.length_pos_iff.mpr hpattern
  have hle : pattern.length ≤ (s.drop i).length := h.length_le
  rw [List.length_drop] at hle
  omega

/-- An occurrence stays where it is if something is put behind the text. -/
theorem OccursAt.append_right (h : OccursAt pattern s i) (t : List α) :
    OccursAt pattern (s ++ t) i := by
  rw [OccursAt, List.drop_append]
  exact h.trans (List.prefix_append _ _)

/-- An occurrence that ends in the first part lies in it. -/
theorem OccursAt.of_append (h : OccursAt pattern (s ++ t) i)
    (hle : i + pattern.length ≤ s.length) : OccursAt pattern s i := by
  rw [OccursAt, List.drop_append] at h
  refine List.prefix_of_prefix_length_le h (List.prefix_append _ _) ?_
  rw [List.length_drop]
  omega

/-- The places of the second part come behind the first part. -/
theorem occursAt_append_iff : OccursAt pattern (s ++ t) (s.length + i) ↔ OccursAt pattern t i := by
  simp [OccursAt]

/-- In a text without its first elements the occurrences are as much nearer. -/
theorem occursAt_drop_iff {n : Nat} :
    OccursAt pattern (s.drop n) i ↔ OccursAt pattern s (n + i) := by
  rw [OccursAt, OccursAt, List.drop_drop]

/-- What stands inside an occurrence is an element of the pattern. -/
theorem OccursAt.mem {k : Nat} {c : α} (h : OccursAt pattern s i) (hle : i ≤ k)
    (hlt : k < i + pattern.length) (hc : s[k]? = some c) : c ∈ pattern := by
  obtain ⟨behind, hbehind⟩ := h
  have hfound : (pattern ++ behind)[k - i]? = some c := by
    rw [hbehind, List.getElem?_drop, Nat.add_sub_cancel' hle, hc]
  rw [List.getElem?_append_left (by omega)] at hfound
  exact List.mem_of_getElem? hfound

section Search

variable [DecidableEq α]

/-- A search that finds nothing has passed all places. -/
theorem findAt_eq_none {pos : Nat} (h : findAt pattern pos s = none) (i : Nat) :
    ¬OccursAt pattern s i := by
  induction s generalizing pos i with
  | nil =>
    rw [findAt] at h
    split at h
    · cases h
    · next hpattern =>
      rw [OccursAt, List.drop_nil, List.prefix_nil]
      simpa using hpattern
  | cons c rest ih =>
    rw [findAt] at h
    split at h
    · cases h
    · next hfront =>
      cases i with
      | zero => rwa [OccursAt, List.drop_zero, ← List.isPrefixOf_iff_prefix]
      | succ i => exact ih h i

/-- A search finds the first occurrence that there is. -/
theorem findAt_eq_some {pos found : Nat} (h : findAt pattern pos s = some found) :
    ∃ i, found = pos + i ∧ OccursAt pattern s i ∧ ∀ j < i, ¬OccursAt pattern s j := by
  induction s generalizing pos with
  | nil =>
    rw [findAt] at h
    split at h
    · next hpattern =>
      cases h
      rw [List.isEmpty_iff.mp hpattern]
      exact ⟨0, rfl, List.nil_prefix, fun j hj => absurd hj (Nat.not_lt_zero j)⟩
    · cases h
  | cons c rest ih =>
    rw [findAt] at h
    split at h
    · next hfront =>
      cases h
      exact ⟨0, rfl, List.isPrefixOf_iff_prefix.mp hfront,
        fun j hj => absurd hj (Nat.not_lt_zero j)⟩
    · next hfront =>
      obtain ⟨i, hfound, hoccurs, hpassed⟩ := ih h
      -- The first place is passed since the pattern does not begin there.
      refine ⟨i + 1, by omega, hoccurs, fun j hj => ?_⟩
      cases j with
      | zero => rwa [OccursAt, List.drop_zero, ← List.isPrefixOf_iff_prefix]
      | succ j => exact hpassed j (by omega)

/-- From the start on there is no occurrence. -/
theorem findFrom_eq_none {start : Nat} (h : findFrom pattern s start = none) (hle : start ≤ i) :
    ¬OccursAt pattern s i := by
  have hnone := findAt_eq_none h (i - start)
  rwa [occursAt_drop_iff, Nat.add_sub_cancel' hle] at hnone

/-- The first occurrence from the start on. -/
theorem findFrom_eq_some {start found : Nat} (h : findFrom pattern s start = some found) :
    start ≤ found ∧ OccursAt pattern s found ∧
      ∀ i, start ≤ i → i < found → ¬OccursAt pattern s i := by
  obtain ⟨k, rfl, hoccurs, hpassed⟩ := findAt_eq_some h
  refine ⟨by omega, occursAt_drop_iff.mp hoccurs, fun i hle hlt => ?_⟩
  have hnot := hpassed (i - start) (by omega)
  rwa [occursAt_drop_iff, Nat.add_sub_cancel' hle] at hnot

end Search

end ConsoleKeeper.Text
