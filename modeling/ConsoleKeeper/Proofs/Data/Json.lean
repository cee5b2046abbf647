import Mathlib.Data.Option.Basic
import ConsoleKeeper.Data.Json
import ConsoleKeeper.Proofs.Data.Fields
import ConsoleKeeper.Proofs.Reading

/-!
# `ConsoleKeeper.Proofs.Data.Json`: the names in an object

Of two equal names in an object the later one counts. So the mapping that a text holds has no name
twice, `distinct_of_parse`. A text holds a mapping only where there are braces: words, numbers and
texts are none, and what stands between brackets is a list.
-/

set_option autoImplicit false

namespace ConsoleKeeper.Json

variable {fuel depth : Nat} {cs rest : List Char} {fields : Fields} {document : Data}

/-- A word is no mapping. -/
theorem word?_ne_object : word? cs ≠ some (.object fields, rest) := by
  intro h
  unfold word? at h
  obtain ⟨⟨word, value⟩, hmem, hfound⟩ := List.exists_of_findSome?_eq_some h
  obtain ⟨after, -, hpair⟩ := Option.map_eq_some_iff.mp hfound
  cases hpair
  simp at hmem

/-- A number is no mapping. -/
theorem number?_ne_object : number? cs ≠ some (.object fields, rest) := by
  intro h
  unfold number? at h
  split at h
  extract_lets digits whole rest at h
  split at h
  · cases h
  · split at h
    split at h
    split at h
    · split at h <;> cases h
    · cases h

/-- A text between quotes is no mapping. -/
theorem ofQuoted_ne_object (quoted : Quoted) : ofQuoted quoted ≠ .object fields := by
  cases quoted <;> exact Data.noConfusion

/-- What stands between brackets is a list. -/
theorem eq_list_of_items {done : List Data} (h : items fuel depth done cs = .ok (document, rest)) :
    ∃ all, document = .list all := by
  induction fuel generalizing done cs with
  | zero => cases h
  | succ fuel ih =>
    rw [items] at h
    split at h
    · cases h
    · split at h
      · exact ih h
      · cases h
        exact ⟨_, rfl⟩
      · cases h

/-- What stands between braces is a mapping, and no name is in it twice. -/
theorem distinct_of_members {done : Fields} (hdone : done.Distinct)
    (h : members fuel depth done cs = .ok (document, rest)) :
    ∃ fields : Fields, document = .object fields ∧ fields.Distinct := by
  induction fuel generalizing done cs with
  | zero => cases h
  | succ fuel ih =>
    rw [members] at h
    split at h
    · split at h
      · cases h
      · next key _ _ =>
        split at h
        · split at h
          · cases h
          · next value _ _ =>
            extract_lets next at h
            -- A name that is no proper text leaves what is done as it is.
            have hnext : next.Distinct := by
              cases key with
              | none => exact hdone
              | some key => exact hdone.put key value
            split at h
            · exact ih hnext h
            · cases h
              exact ⟨_, rfl, hnext⟩
            · cases h
        · cases h
    · cases h

/-- A mapping that is read has each name once. -/
theorem distinct_of_value (h : value fuel depth cs = .ok (.object fields, rest)) :
    fields.Distinct := by
  cases fuel with
  | zero => cases h
  | succ fuel =>
    unfold value at h
    split at h
    · obtain ⟨⟨quoted, after⟩, -, hpair⟩ := map_ok_iff.mp h
      exact absurd (congrArg Prod.fst hpair) (ofQuoted_ne_object quoted)
    · split at h
      · cases h
      · split at h
        · cases h
        · obtain ⟨all, hall⟩ := eq_list_of_items h
          cases hall
    · split at h
      · cases h
      · split at h
        · cases h
          exact Table.distinct_nil
        · obtain ⟨found, hfound, hdistinct⟩ := distinct_of_members Table.distinct_nil h
          cases hfound
          exact hdistinct
    · split at h
      · -- A word or a number is no object.
        next found hfound =>
        cases h
        obtain hword | ⟨-, hnumber⟩ := (Option.orElse_eq_some _ _ _).mp hfound
        · exact absurd hword word?_ne_object
        · exact absurd hnumber number?_ne_object
      · cases h

/-- The mapping that a text holds has no name twice. -/
theorem distinct_of_parse {text : String} (h : parse text = .ok (.object fields)) :
    fields.Distinct := by
  unfold parse at h
  extract_lets cs at h
  split at h
  · cases h
  · next value rest hvalue =>
    split at h
    · cases h
      exact distinct_of_value hvalue
    · cases h

end ConsoleKeeper.Json
