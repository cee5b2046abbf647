import ConsoleKeeper.Resource.Deployment

/-!
# `ConsoleKeeper.Resource.Records`: credentials, and how a pass ended

Two small records that travel between the parts of the operator.
-/

set_option autoImplicit false

namespace ConsoleKeeper

/-- What a command needs to log in to the cluster. The token is a secret. -/
structure Credentials where
  host : String
  caFile : String
  token : String
  deriving DecidableEq, Repr, Inhabited

namespace Credentials

/-- Reads credentials. -/
def read : Reading Credentials :=
  Reading.record fun fields =>
    Credentials.mk <$> Reading.required fields "host" Reading.text
      <*> Reading.required fields "ca_file" Reading.text
      <*> Reading.required fields "token" Reading.text

/-- Credentials as a record. -/
def fields (credentials : Credentials) : Fields :=
  [("host", .text credentials.host), ("ca_file", .text credentials.caFile),
    ("token", .text credentials.token)]

end Credentials

/-- How a pass ended that did not fail. There is no phase if no status was written. -/
structure PassResult where
  resource : ResourceId
  action : Action
  phase : Option Phase := none
  message : String := ""
  deriving DecidableEq, Repr, Inhabited

namespace PassResult

/-- Reads a result. -/
def read : Reading PassResult :=
  Reading.record fun fields =>
    PassResult.mk <$> Reading.required fields "resource" ResourceId.read
      <*> Reading.required fields "action" (Reading.wordIn Action.ofName? .notAMember)
      <*> Reading.optional fields "phase" none
        (Reading.nullable (Reading.wordIn Phase.ofName? .notAMember))
      <*> Reading.optional fields "message" "" Reading.text

/-- A result as a record. -/
def fields (result : PassResult) : Fields :=
  [("resource", .object result.resource.fields), ("action", .text result.action.name),
    ("phase", .textOrNull (result.phase.map Phase.name)), ("message", .text result.message)]

end PassResult

end ConsoleKeeper
