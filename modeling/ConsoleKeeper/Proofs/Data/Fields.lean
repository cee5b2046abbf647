import ConsoleKeeper.Data.Basic
import ConsoleKeeper.Proofs.Data.Table

/-!
# `ConsoleKeeper.Proofs.Data.Fields`: mappings in a document

A mapping is a table with names for keys, so what `put` and `erase` do to it is in
`Proofs.Data.Table`. `setDefault` puts a value only where a name has none, and changes nothing where
it has one.

`Data.at?` looks up what stands at a path of names, from mapping to mapping. Two paths are `Apart`
if neither leads through the place of the other.
-/

set_option autoImplicit false

namespace ConsoleKeeper

namespace Fields

variable {fields : Fields} {key : String} {value : Data}

/-- The value under a name after a value was put where one was missing. -/
theorem get?_setDefault (fields : Fields) (key k : String) (value : Data) :
    (fields.setDefault key value).get? k =
      if k = key then some ((fields.get? key).getD value) else fields.get? k := by
  unfold setDefault Table.has
  cases h : fields.get? key with
  | some v =>
    rw [Option.isSome_some, if_pos rfl]
    split
    · next hk => rw [hk, h, Option.getD_some]
    · rfl
  | none =>
    rw [Option.isSome_none, if_neg Bool.false_ne_true, Table.get?_append, Table.get?_cons]
    split
    · next hk => rw [hk, h, Option.none_or, Option.getD_none]
    · exact Option.or_none

/-- A name that has a value needs no default. -/
theorem setDefault_eq_self {v : Data} (h : fields.get? key = some v) (value : Data) :
    fields.setDefault key value = fields := by
  rw [setDefault, Table.has, h, Option.isSome_some, if_pos rfl]

/-- A name has no value, or a mapping. -/
def OpenAt (fields : Fields) (key : String) : Prop :=
  ∀ value, fields.get? key = some value → ∃ inner, value = .object inner

/-- The mapping under a name, empty if there is none. -/
def mappingAt (fields : Fields) (key : String) : Fields :=
  match fields.get? key with
  | some (.object inner) => inner
  | _ => []

/-- The mapping under a name, where there is one. -/
theorem mappingAt_of_get? {inner : Fields} (h : fields.get? key = some (.object inner)) :
    mappingAt fields key = inner := by
  rw [mappingAt, h]

/-- A name with a mapping under it is open. -/
theorem openAt_of_get? {inner : Fields} (h : fields.get? key = some (.object inner)) :
    OpenAt fields key := by
  intro value hvalue
  rw [h, Option.some.injEq] at hvalue
  exact ⟨inner, hvalue.symm⟩

/-- The value under a name that is open is its mapping. -/
theorem OpenAt.getD (h : OpenAt fields key) :
    (fields.get? key).getD (.object []) = .object (mappingAt fields key) := by
  unfold mappingAt
  cases hv : fields.get? key with
  | none => rfl
  | some value =>
    obtain ⟨inner, rfl⟩ := h value hv
    rfl

/-- A value is a mapping, or there is none and the mapping is empty. -/
theorem getD_eq_object_iff {inner : Fields} :
    (fields.get? key).getD (.object []) = .object inner ↔
      OpenAt fields key ∧ mappingAt fields key = inner := by
  constructor
  · intro h
    have hopen : OpenAt fields key := fun value hvalue => by
      rw [hvalue, Option.getD_some] at h
      exact ⟨inner, h⟩
    rw [hopen.getD] at h
    exact ⟨hopen, Data.object.inj h⟩
  · rintro ⟨hopen, rfl⟩
    exact hopen.getD

end Fields

namespace Data

/-- What stands at a path of names. -/
def at? (document : Data) : List String → Option Data
  | [] => some document
  | key :: rest =>
    match document with
    | object fields => (Table.get? fields key).bind fun value => value.at? rest
    | _ => none

/-- No steps lead to the document itself. -/
@[simp] theorem at?_nil (document : Data) : document.at? [] = some document := by
  unfold at?
  rfl

/-- The first step is by name, the others lead on from there. -/
@[simp] theorem at?_cons (fields : Fields) (key : String) (rest : List String) :
    (object fields).at? (key :: rest) =
      (Table.get? fields key).bind fun value => value.at? rest := by
  rw [at?]

/-- What stands at a path below a name stands in the mapping under that name. -/
theorem at?_below {fields : Fields} {key : String} (h : fields.OpenAt key) (k : String)
    (rest : List String) :
    (object fields).at? (key :: k :: rest) = (object (fields.mappingAt key)).at? (k :: rest) := by
  rw [at?_cons, Fields.mappingAt]
  cases hv : Table.get? fields key with
  | none => rfl
  | some value =>
    obtain ⟨inner, rfl⟩ := h value hv
    rfl

/-- Neither path leads through the place of the other. -/
def Apart (path other : List String) : Prop :=
  ¬path <+: other ∧ ¬other <+: path

/-- The whole document is not apart from any of its parts. -/
theorem not_apart_nil_left (other : List String) : ¬Apart [] other :=
  fun h => h.1 List.nil_prefix

/-- No part is apart from the whole document. -/
theorem not_apart_nil_right (path : List String) : ¬Apart path [] :=
  fun h => h.2 List.nil_prefix

/-- Paths that start in the same way part later. -/
theorem apart_cons_iff {key k : String} {path other : List String} :
    Apart (key :: path) (k :: other) ↔ (key = k → Apart path other) := by
  simp only [Apart, List.cons_prefix_cons, eq_comm (a := k)]
  by_cases hk : key = k <;> simp [hk]

/-- One step is apart from a path that begins with another. -/
theorem apart_singleton_iff {key k : String} {rest : List String} :
    Apart [key] (k :: rest) ↔ key ≠ k := by
  rw [apart_cons_iff]
  exact imp_congr_right fun _ => iff_false_intro (not_apart_nil_left rest)

end Data

end ConsoleKeeper
