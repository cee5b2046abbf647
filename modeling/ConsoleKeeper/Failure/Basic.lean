import ConsoleKeeper.Failure.Operator
import ConsoleKeeper.Validation.Basic

/-!
# `ConsoleKeeper.Failure.Basic`: every way an action can end without a value

Operator errors are the failures that a pass knows how to report. The others pass through it: faults
in a document, refusals of the system, and misuse that no handler expects.
-/

set_option autoImplicit false

namespace ConsoleKeeper

/-- How an action ends that gives no value. -/
inductive Failure where
  | operator (error : OperatorError)
  /-- A document does not fit a record. -/
  | faults (faults : List Fault)
  /-- A word is none of a vocabulary's. -/
  | unknownWord (shown vocabulary : String)
  /-- A configuration file that was asked for is not there. -/
  | noConfigFile (path : String)
  /-- A handler asks to be called again after a delay. -/
  | retry (message : String) (delay : Binary64) (cause : ErrorKind)
  | system (error : SystemError)
  /-- Some error without a place in the operator's vocabulary. -/
  | unexpected (message : String)
  /-- The cluster's interface refused a call. -/
  | api (status reason : Data)
  /-- The connection to the cluster failed. -/
  | connection (message : String)
  /-- A value is of a kind that cannot take part in an operation. -/
  | wrongKind
  /-- A value has no such member. -/
  | noMember
  /-- An argument has no meaning. -/
  | badArgument
  /-- Bytes are not the form of a text. -/
  | notUtf8
  /-- An environment variable holds no document. -/
  | badSetting
  /-- A mapping has no such key. -/
  | noKey
  /-- A row has no such item. -/
  | noItem
  /-- A number is too large for what is done with it. -/
  | tooLarge
  /-- Parts stand inside one another too deep. -/
  | tooDeep
  /-- There is no form of texts with such a name. -/
  | noEncoding
  /-- The task was cancelled. -/
  | cancelled
  deriving Repr, Inhabited, BEq

namespace Failure

/-- The message of a failure, where a handler shows it. -/
def message : Failure → String
  | operator e => e.message
  | system e => e.message
  | unexpected message => message
  | connection message => message
  | noConfigFile path => "Configuration file not found: " ++ path
  | unknownWord shown vocabulary => shown ++ " is not a valid " ++ vocabulary
  | retry message _ _ => message
  | _ => ""

/-- The operator error that a failure is. -/
def operator? : Failure → Option OperatorError
  | operator e => some e
  | _ => none

/-- The cluster error that a failure is. -/
def cluster? : Failure → Option OperatorError
  | operator e => if e.kind.isCluster then some e else none
  | _ => none

/-- The refusal of the system that a failure is. -/
def system? : Failure → Option SystemError
  | system e => some e
  | _ => none

/-- The failure of looking up a value that a vocabulary does not have. -/
def ofWord (word : Data) (vocabulary : String) : Failure :=
  .unknownWord (String.ofList word.literal) vocabulary

end Failure

/-- The value of a document that fits, or the failure. A list or mapping where a word is wanted is a
failure of its own kind. -/
def Checked.orFail {α : Type} : Checked α → Except Failure α
  | .ok a => .ok a
  | .faulty faults =>
    if faults.any (·.kind = .notAWord) then .error .wrongKind else .error (.faults faults)

end ConsoleKeeper
