import ConsoleKeeper.Text.Split
import ConsoleKeeper.Version

/-!
# `ConsoleKeeper.Proofs.Version`: normal forms of version labels

A label is its own normal form exactly if it has no leading `v`. Taking the normal form twice is
therefore not the same as taking it once: `vv1` becomes `v1` and then `1`.

A `Plain` version is empty, or has at most one mark and is made of ordinary characters. Its normal
form has no mark, so that taking it once more changes nothing.
-/

set_option autoImplicit false

namespace ConsoleKeeper.Version

/-- The normal form drops the mark of the text. -/
@[simp] theorem toList_normalize (version : String) :
    (normalize version).toList = dropMark version.toList := by
  rw [normalize, String.toList_ofList]

/-- What begins with no mark is left as it is. -/
theorem dropMark_eq_self {label : List Char} : dropMark label = label ↔ label.head? ≠ some 'v' := by
  unfold dropMark
  split
  · simp
  · next h =>
    cases label with
    | nil => simp
    | cons c rest =>
      have hc : c ≠ 'v' := fun hc => h rest (by rw [hc])
      simpa using hc

/-- Dropping a mark adds nothing. -/
theorem dropMark_subset (label : List Char) : dropMark label ⊆ label := by
  unfold dropMark
  split
  · exact List.subset_cons_self _ _
  · exact List.Subset.refl _

/-- The labels that are their own normal form. -/
theorem normalize_eq_self {version : String} :
    normalize version = version ↔ version.toList.head? ≠ some 'v' := by
  rw [← String.toList_inj, toList_normalize, dropMark_eq_self]

/-- A label with a `v` in front has the label as its normal form. -/
theorem normalize_mark (version : String) : normalize ("v" ++ version) = version := by
  rw [← String.toList_inj, toList_normalize, String.toList_append]
  rfl

/-- The empty version is its own normal form. -/
theorem normalize_empty : normalize "" = "" := rfl

/-- The labels that name no version. -/
theorem normalize_eq_empty {version : String} :
    normalize version = "" ↔ version = "" ∨ version = "v" := by
  rw [← String.toList_inj, toList_normalize, ← String.toList_inj, ← String.toList_inj]
  generalize version.toList = label
  unfold dropMark
  split
  · simp
  · next h =>
    constructor
    · exact .inl
    · rintro (h' | rfl)
      · exact h'
      · exact absurd rfl (h [])

/-- Of what is not empty, only the mark alone is taken for an empty version. -/
theorem normalize_empty_eq_iff {version : String} (h : version ≠ "") :
    normalize "" = normalize version ↔ version = "v" := by
  rw [normalize_empty, eq_comm, normalize_eq_empty, or_iff_right h]

/-! ### Plain versions -/

/-- A character that means nothing in an inventory, in an image reference, or between lines. -/
def IsOrdinary (c : Char) : Prop :=
  c ∉ ['/', ':', '@', '=', ' '] ∧ Text.isLineBoundary c = false

instance (c : Char) : Decidable (IsOrdinary c) :=
  inferInstanceAs (Decidable (_ ∧ _))

/-- A version without a mark. -/
structure Bare (version : String) : Prop where
  said : version ≠ ""
  unmarked : version.toList.head? ≠ some 'v'
  ordinary : ∀ c ∈ version.toList, IsOrdinary c

instance (version : String) : Decidable (Bare version) :=
  haveI := List.decidableBAll IsOrdinary version.toList
  decidable_of_iff (version ≠ "" ∧ version.toList.head? ≠ some 'v' ∧
      ∀ c ∈ version.toList, IsOrdinary c)
    ⟨fun ⟨said, unmarked, ordinary⟩ => ⟨said, unmarked, ordinary⟩,
      fun h => ⟨h.said, h.unmarked, h.ordinary⟩⟩

/-- A bare version is its own normal form. -/
theorem Bare.normalize {version : String} (h : Bare version) : normalize version = version :=
  normalize_eq_self.mpr h.unmarked

/-- A version that asks for nothing, a bare one, or a bare one with one mark. -/
inductive Plain : String → Prop where
  | empty : Plain ""
  | bare {version : String} (h : Bare version) : Plain version
  | marked {version : String} (h : Bare version) : Plain ("v" ++ version)

namespace Plain

variable {version : String}

/-- A plain version has ordinary characters only. -/
theorem ordinary (h : Plain version) : ∀ c ∈ version.toList, IsOrdinary c := by
  cases h with
  | empty => simp
  | bare h => exact h.ordinary
  | marked h =>
    -- The mark itself is an ordinary character.
    have hmark : IsOrdinary 'v' := by decide
    intro c hc
    rw [String.toList_append, List.mem_append] at hc
    obtain hc | hc := hc
    · rwa [List.mem_singleton.mp hc]
    · exact h.ordinary c hc

/-- The normal form of a plain version that asks for something. -/
theorem bare_normalize (h : Plain version) (hne : version ≠ "") : Bare (normalize version) := by
  cases h with
  | empty => exact absurd rfl hne
  | bare h => rwa [h.normalize]
  | marked h => rwa [normalize_mark]

end Plain

end ConsoleKeeper.Version
