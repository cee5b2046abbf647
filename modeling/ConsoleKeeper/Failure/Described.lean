import ConsoleKeeper.Failure.Basic
import ConsoleKeeper.Failure.Given

/-!
# `ConsoleKeeper.Failure.Described`: failures given as documents

A rehearsal says in a document which failure is to happen: the name of its type, and the arguments
with which it is made. The operator reads no failures from documents. What it meets is the failure
itself, as the end of a call that a store was told to fail or of a request for credentials.
-/

set_option autoImplicit false

namespace ConsoleKeeper.Failure

/-- The names of the failures outside the operator's vocabulary that a document can give, with the
way to make one from its message. -/
def plainTypes : List (String × (String → Failure)) :=
  [("RuntimeError", unexpected), ("OSError", fun message => system (.said message))]

/-- The kind of error that a document names, and the arguments for it. -/
def argumentsIn (document : Data) : Except Failure (String × Fields) :=
  match document with
  | .object fields =>
    match Table.get? fields "type" with
    | some (.text word) => .ok (word, Table.erase fields "type")
    | _ => .error .noKey
  | _ => .error .wrongKind

/-- The operator error that a document describes, or why it describes none. -/
def givenIn (document : Data) : Except Failure GivenError := do
  let (word, arguments) ← argumentsIn document
  match ErrorKind.ofName? word with
  | none => .error .noKey
  | some kind =>
    match GivenError.build? kind arguments with
    | some e => .ok e
    | none => .error .wrongKind

/-- The failure that a document describes, or why it describes none. -/
def described (document : Data) : Except Failure Failure := do
  let (word, arguments) ← argumentsIn document
  match plainTypes.lookup word with
  | some make => .ok (make ((Table.get? arguments "message").getD (.text "")).shown)
  | none => (givenIn document).map fun e => .operator e.toError

end ConsoleKeeper.Failure
