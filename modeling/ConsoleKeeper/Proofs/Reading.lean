import Mathlib.Logic.Basic
import ConsoleKeeper.Failure.Basic

/-!
# `ConsoleKeeper.Proofs.Reading`: when a document can be read

A reading gathers the faults of all parts, so it gives a value exactly if every part does. The
equivalences here say this for each way of making a reading, so that a record can be taken apart
into what its fields have to be.
-/

set_option autoImplicit false

namespace ConsoleKeeper

/-- Two readings in a row give a value if both do. -/
theorem bind_eq_ok_iff {ε α β : Type} {x : Except ε α} {f : α → Except ε β} {b : β} :
    (x >>= f) = .ok b ↔ ∃ a, x = .ok a ∧ f a = .ok b := by
  cases x with
  | error e => simp [bind, Except.bind]
  | ok a => simp [bind, Except.bind]

/-- What is made of an outcome is a value if the outcome is one. -/
theorem map_ok_iff {ε α β : Type} {x : Except ε α} {f : α → β} {b : β} :
    x.map f = .ok b ↔ ∃ a, x = .ok a ∧ f a = b := by
  cases x with
  | error e => simp [Except.map]
  | ok a => simp [Except.map]

namespace Checked

variable {α β : Type}

/-- What is made of a reading is a value if the reading gives one. -/
@[simp] theorem map_eq_ok_iff {f : α → β} {x : Checked α} {b : β} :
    f <$> x = .ok b ↔ ∃ a, x = .ok a ∧ f a = b := by
  show seq (ok f) (fun _ => x) = ok b ↔ _
  cases x <;> simp [seq]

/-- Two readings side by side give a value if both do. -/
@[simp] theorem seq_eq_ok_iff {f : Checked (α → β)} {x : Checked α} {b : β} :
    f <*> x = .ok b ↔ ∃ g, f = .ok g ∧ ∃ a, x = .ok a ∧ g a = b := by
  show seq f (fun _ => x) = ok b ↔ _
  cases f <;> cases x <;> simp [seq]

/-- Where a part stands makes no difference to a value. -/
@[simp] theorem within_eq_ok_iff {x : Checked α} {step : PathStep} {a : α} :
    x.within step = .ok a ↔ x = .ok a := by
  cases x <;> simp [within]

/-- A reading that has to succeed gives its value. -/
@[simp] theorem orFail_eq_ok_iff {x : Checked α} {a : α} : x.orFail = .ok a ↔ x = .ok a := by
  cases x with
  | ok value => simp [orFail]
  | faulty faults =>
    simp only [orFail, reduceCtorEq, iff_false]
    split <;> simp

end Checked

namespace Reading

variable {α : Type} {fields : Fields} {key : String} {read : Reading α} {a : α}

/-- A field that has to be there is read if it is there and can be read. -/
@[simp] theorem required_eq_ok_iff :
    required fields key read = .ok a ↔
      ∃ value, fields.get? key = some value ∧ read value = .ok a := by
  unfold required
  cases fields.get? key with
  | some value => simp
  | none => simp [Checked.fault]

/-- A field with a default is read if it is there, and is the default if not. -/
@[simp] theorem optional_eq_ok_iff {default : α} :
    optional fields key default read = .ok a ↔
      (∃ value, fields.get? key = some value ∧ read value = .ok a) ∨
        fields.get? key = none ∧ default = a := by
  unfold optional
  cases fields.get? key <;> simp

/-- A field that is there is read, whatever the default. -/
theorem optional_of_some {default : α} {value : Data} (h : fields.get? key = some value) :
    optional fields key default read = (read value).within (.key key) := by
  rw [optional, h]

/-- A field that is not there is the default. -/
theorem optional_of_none {default : α} (h : fields.get? key = none) :
    optional fields key default read = .ok default := by
  rw [optional, h]

end Reading

end ConsoleKeeper
