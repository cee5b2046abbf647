import ConsoleKeeper.Data.Basic

/-!
# `ConsoleKeeper.Validation.Basic`: reading a record from a document

A record is read field by field, and every field that does not fit is reported, not only the first.
`Checked` is the outcome: a value, or the faults with the path to each. Its applicative structure
gathers the faults of both sides.
-/

set_option autoImplicit false

namespace ConsoleKeeper

/-- A step into a document. -/
inductive PathStep where
  | key (name : String)
  | index (position : Nat)
  deriving DecidableEq, Repr, Inhabited

/-- Why a value does not fit. -/
inductive FaultKind where
  | missing
  | extra
  | notARecord
  | notText
  | notUtf8
  | notAList
  | notAMapping
  | notBool
  | unreadableBool
  | notInt
  | unreadableInt
  /-- A whole number that takes too many digits to write. -/
  | oversizedInt
  | fractionalInt
  | notFinite
  | notFloat
  | unreadableFloat
  | notGreater
  | tooSmall
  | tooLarge
  | notAChoice
  | notAMember
  | frozen
  /-- A list or mapping where a word to look up is wanted; nothing else is reported beside it. -/
  | notAWord
  deriving DecidableEq, Repr, Inhabited

/-- The code under which a fault is reported. -/
def FaultKind.code : FaultKind → String
  | missing => "missing"
  | extra => "extra_forbidden"
  | notARecord => "model_type"
  | notText => "string_type"
  | notUtf8 => "string_unicode"
  | notAList => "list_type"
  | notAMapping => "dict_type"
  | notBool => "bool_type"
  | unreadableBool => "bool_parsing"
  | notInt => "int_type"
  | unreadableInt => "int_parsing"
  | oversizedInt => "int_parsing_size"
  | fractionalInt => "int_from_float"
  | notFinite => "finite_number"
  | notFloat => "float_type"
  | unreadableFloat => "float_parsing"
  | notGreater => "greater_than"
  | tooSmall => "greater_than_equal"
  | tooLarge => "less_than_equal"
  | notAChoice => "literal_error"
  | notAMember => "enum"
  | frozen => "frozen_instance"
  | notAWord => "word_expected"

/-- A value that does not fit: where it stands, and why. -/
structure Fault where
  path : List PathStep
  kind : FaultKind
  deriving DecidableEq, Repr, Inhabited

/-- The outcome of reading: a value, or what is wrong with the document. -/
inductive Checked (α : Type) where
  | ok (value : α)
  | faulty (faults : List Fault)
  deriving Repr, Inhabited

namespace Checked

variable {α β : Type}

/-- Changes the value of an outcome. -/
def map (f : α → β) : Checked α → Checked β
  | ok a => ok (f a)
  | faulty faults => faulty faults

/-- Applies one outcome to another; the faults of both are kept. -/
def seq (f : Checked (α → β)) (a : Unit → Checked α) : Checked β :=
  match f, a () with
  | ok f, ok a => ok (f a)
  | ok _, faulty more => faulty more
  | faulty faults, ok _ => faulty faults
  | faulty faults, faulty more => faulty (faults ++ more)

instance : Applicative Checked where
  pure := ok
  seq := seq

/-- Goes on with a value; the faults of the first outcome end the reading. -/
def thenCheck (a : Checked α) (f : α → Checked β) : Checked β :=
  match a with
  | ok a => f a
  | faulty faults => faulty faults

/-- One fault at the value itself. -/
def fault (kind : FaultKind) : Checked α :=
  faulty [⟨[], kind⟩]

/-- Reports the faults of a part of the document, reached by `step`. -/
def within (step : PathStep) : Checked α → Checked α
  | ok a => ok a
  | faulty faults => faulty (faults.map fun f => { f with path := step :: f.path })

/-- The value, if there is one. -/
def value? : Checked α → Option α
  | ok a => some a
  | faulty _ => none

end Checked

/-- A way to read a value from a document. -/
abbrev Reading (α : Type) := Data → Checked α

namespace Reading

variable {α : Type}

/-- Reads the members of a record. -/
def record (read : Fields → Checked α) : Reading α
  | .object fields => read fields
  | _ => .fault .notARecord

/-- Reads a field that has to be there. -/
def required (fields : Fields) (key : String) (read : Reading α) : Checked α :=
  match fields.get? key with
  | some value => (read value).within (.key key)
  | none => .within (.key key) (.fault .missing)

/-- Reads a field that has a default. -/
def optional (fields : Fields) (key : String) (default : α) (read : Reading α) : Checked α :=
  match fields.get? key with
  | some value => (read value).within (.key key)
  | none => .ok default

/-- Reads null as nothing. -/
def nullable (read : Reading α) : Reading (Option α)
  | .null => .ok none
  | value => (read value).map some

/-- Reads the items from position `i` on. -/
def itemsFrom (read : Reading α) : Nat → List Data → Checked (List α)
  | _, [] => .ok []
  | i, item :: items =>
    (· :: ·) <$> (read item).within (.index i) <*> itemsFrom read (i + 1) items

/-- Reads a list. -/
def list (read : Reading α) : Reading (List α)
  | .list items => itemsFrom read 0 items
  | _ => .fault .notAList

/-- Reads the values of a mapping. -/
def entriesOf (read : Reading α) : Fields → Checked (List (String × α))
  | [] => .ok []
  | (key, value) :: rest =>
    (fun a more => (key, a) :: more) <$> (read value).within (.key key) <*> entriesOf read rest

/-- Reads a mapping. -/
def mapping (read : Reading α) : Reading (List (String × α))
  | .object fields => entriesOf read fields
  | _ => .fault .notAMapping

end Reading

end ConsoleKeeper
