import ConsoleKeeper.Command.Basic
import ConsoleKeeper.Decision
import ConsoleKeeper.Resource.Deployment
import ConsoleKeeper.Settings.Basic
import ConsoleKeeper.Version

/-!
# `ConsoleKeeper.Assignment`: values that nothing has checked

A record that was read may have its fields changed afterwards, and what is put there is not checked.
So a field may hold a value of any kind. `assign` says which names can be changed at all; most of
the other functions say what can still be derived from a record with such fields. `chosen` does the
same for the two versions that an action is chosen from.

The operator itself changes no field of a record that it was given, so a pass does not come here.
These functions are for whoever uses the records of the library on their own. On records that nobody
changed they agree with the functions that a pass uses, which `Proofs.Assignment` shows.
-/

set_option autoImplicit false

namespace ConsoleKeeper.Assignment

/-- What the names of a record say about changes. -/
structure Rules where
  /-- Whether the record never changes. -/
  frozen : Bool := false
  /-- The names of what is derived from the fields, which cannot be changed itself. -/
  derived : List String := []
  deriving Inhabited

/-- Whether a name is private. What is put there is kept beside the record. -/
def isPrivate (name : String) : Bool :=
  name.startsWith "_"

/-- A record with another value in one field. -/
def assign (rules : Rules) (fields : Fields) (name : String) (value : Data) :
    Except Failure Fields :=
  if isPrivate name then .ok fields
  else if rules.frozen then .error (.faults [⟨[.key name], .frozen⟩])
  else if rules.derived.contains name then .error .noMember
  else if fields.has name then .ok (fields.put name value)
  else .error .badArgument

/-- A record after some changes, of which the first one that fails ends the row. -/
def assignAll (rules : Rules) (fields : Fields) (changes : Fields) : Except Failure Fields :=
  changes.foldlM (fun fields (name, value) => assign rules fields name value) fields

/-- The version of a wanted console as it is compared. Only a text has such a form. -/
def comparedVersion (fields : Fields) : Except Failure Data :=
  match Data.field fields "version" with
  | .text version => .ok (.text (Version.normalize version))
  | _ => .error .noMember

/-- The action for a requested and a deployed version that need not be texts. Where nothing is
deployed it only counts whether the requested one is anything. Otherwise the two are compared, and
only texts can be. -/
def chosen (desired actual : Data) : Except Failure Action :=
  match desired, actual with
  | desired, .null => .ok (if desired.isFalsy then .noop else .provision)
  | .text desired, .text actual => .ok (Action.choose desired (some actual))
  | _, _ => .error .noMember

/-- Group and version of a cluster's resources, whatever they are. -/
def groupVersion (fields : Fields) : Data :=
  .text ((Data.field fields "group").shown ++ "/" ++ (Data.field fields "version").shown)

/-- An owner under the names that the cluster uses. -/
def ownerAsWritten (fields : Fields) : Data :=
  let names : List (String × String) :=
    [("api_version", "apiVersion"), ("block_owner_deletion", "blockOwnerDeletion")]
  .object (fields.map fun (name, value) => ((names.lookup name).getD name, value))

/-- What a value holds one by one: the items of a list, the characters of a text, the names of a
mapping. -/
def itemsOf : Data → Except Failure (List Data)
  | .list items => .ok items
  | .text s => .ok (s.toList.map fun c => .text (String.ofList [c]))
  | .object fields => .ok (fields.map fun field => .text field.1)
  | _ => .error .wrongKind

/-- The words of a command: its program and its arguments. -/
def words (fields : Fields) : Except Failure (List Data) := do
  .ok (Data.field fields "program" :: (← itemsOf (Data.field fields "args")))

/-- A word as a shell reads it back. What counts as nothing is an empty word. -/
def quoted (word : Data) : Except Failure (List Char) :=
  match word with
  | .text s => .ok (Words.quote s.toList)
  | other => if other.isFalsy then .ok (Words.quote []) else .error .wrongKind

/-- The secrets of a command. What counts as nothing hides nothing. -/
def secrets (fields : Fields) : Except Failure (List String) := do
  let items ← itemsOf (Data.field fields "secrets")
  (items.filter fun item => !item.isFalsy).mapM fun item =>
    match item with
    | .text s => .ok s
    | _ => .error .wrongKind

/-- The command line with every secret masked. -/
def display (fields : Fields) : Except Failure Data := do
  let line ← (← words fields).mapM quoted
  let secrets ← secrets fields
  .ok (.text (String.ofList (Command.masked secrets (List.intercalate [' '] line))))

/-- A command as a record in one line, which leaves out the secrets. -/
def commandLiteral (fields : Fields) : Data :=
  let part (name : String) : String := String.ofList (Data.field fields name).literal
  .text ("ProcessCommand(program=" ++ part "program" ++ ", args=" ++ part "args" ++ ", env=" ++
    part "env" ++ ")")

end ConsoleKeeper.Assignment
