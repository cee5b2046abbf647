import ConsoleKeeper.Journal.Calling
import ConsoleKeeper.Proofs.Data.Fields

/-!
# `ConsoleKeeper.Proofs.Journal.Calling`: which records a log writes

Whatever word a record is made by, it is written only if its level reaches the threshold, it binds
what the log binds, and it has the fields that came with the word (`written_of_note`). Two fields
are apart: what happened, which comes among the fields where the level comes without a name, and the
request to show the present error.

All words that make a record make it in one place, `noteAt`, so what is true of that is true of each
of them.
-/

set_option autoImplicit false

namespace ConsoleKeeper.LogCall

variable {threshold : Nat} {bound fields : Fields} {level : Level} {event : Data} {call : LogCall}
  {n : Note}

/-- A record at a level is written if the level reaches the threshold and no field has a name that
is taken. -/
theorem noteAt_eq_some_iff :
    noteAt threshold bound level event fields = .ok (some n) ↔
      threshold ≤ level.weight ∧ fields.has "method_name" = false ∧
        n = { level, event, bound, fields } := by
  unfold noteAt
  split
  · next hbelow => simp [Nat.not_le.mpr hbelow]
  · next hreached =>
    rw [and_iff_right (Nat.le_of_not_lt hreached)]
    split
    · next hnamed => simp [hnamed]
    · next hnamed => simp [hnamed, eq_comm]

/-- The record that a log writes for a call: at a level that reaches the threshold, with what the
log binds and the fields of the call. -/
structure Written (threshold : Nat) (bound : Fields) (call : LogCall) (n : Note) : Prop where
  reached : threshold ≤ n.level.weight
  bound_eq : n.bound = bound
  fields_eq : ∀ key, key ≠ "event" → key ≠ "exc_info" → n.fields.get? key = call.fields.get? key

/-- A record with the fields of the call, but for those that are apart. -/
theorem written_of_noteAt (h : noteAt threshold bound level event fields = .ok (some n))
    (hfields : ∀ key, key ≠ "event" → key ≠ "exc_info" → fields.get? key = call.fields.get? key) :
    Written threshold bound call n := by
  obtain ⟨hreached, -, rfl⟩ := noteAt_eq_some_iff.mp h
  exact ⟨hreached, rfl, hfields⟩

/-- A record whose level comes as a weight. -/
theorem written_of_weighed (h : weighed threshold bound call = .ok (some n)) :
    Written threshold bound call n := by
  unfold weighed at h
  split at h
  · extract_lets others at h
    split at h
    · cases h
    · split at h
      · cases h
      · split at h
        · cases h
        · split at h
          · refine written_of_noteAt h fun key hevent _ => ?_
            rw [Table.get?_erase, if_neg hevent]
          · cases h
  · cases h

/-- A record that a word asks for. -/
theorem written_of_note? {asked : LogWord} (h : call.note? threshold bound asked = .ok (some n)) :
    Written threshold bound call n := by
  cases asked with
  | record level traced =>
    rw [note?] at h
    split at h
    · cases h
    · cases traced with
      | false => exact written_of_noteAt h fun _ _ _ => rfl
      | true =>
        refine written_of_noteAt h fun key _ htrace => ?_
        rw [if_pos rfl, tracedFields, Fields.get?_setDefault, if_neg htrace]
  | weighed => exact written_of_weighed h
  -- The other words make no record.
  | lowest =>
    rw [note?] at h
    split at h
    · cases h
    · split at h <;> cases h
  | asksWeight =>
    rw [note?] at h
    split at h <;> cases h
  | named | inert => cases h
  | unbinds strict =>
    rw [note?] at h
    split at h
    · cases h
    · cases hfound : isBound bound call.subject with
      | error failure =>
        rw [hfound] at h
        cases h
      | ok found =>
        rw [hfound] at h
        change (if strict && !found then _ else _) = _ at h
        split at h <;> cases h

/-- A record that a call makes by a word is written only at or above the threshold, and it says what
the log and the call say. -/
theorem written_of_note {word : String} (h : call.note threshold bound word = .ok (some n)) :
    Written threshold bound call n := by
  unfold note at h
  split at h
  · cases h
  · next asked _ =>
    -- A record that is made later is not made here.
    cases hlater : call.checkLater asked <;> rw [hlater] at h <;> cases h
  · exact written_of_note? h

end ConsoleKeeper.LogCall
