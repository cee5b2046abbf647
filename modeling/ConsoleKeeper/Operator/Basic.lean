import ConsoleKeeper.Cluster.Basic
import ConsoleKeeper.Command.Basic

/-!
# `ConsoleKeeper.Operator.Basic`: the operator and its status reports

An operator is its settings and what it works with: a cluster, something that runs commands, and a
source of credentials.

A status tells people what the last pass did. No decision reads it, so a status that cannot be
written is reported and the pass goes on. Before each write the resource is read again, so that the
write carries whatever was changed in the meantime.
-/

set_option autoImplicit false

namespace ConsoleKeeper

/-- An operator. -/
structure Operator (κ ρ : Type) where
  settings : Settings
  cluster : Cluster κ ρ
  runner : Runner κ ρ
  credentials : Act κ ρ Credentials

namespace Operator

variable {κ ρ : Type}

/-- Writes a status into a resource that was just read. -/
def writeStatus (cluster : Cluster κ ρ) (note : StatusNote) (resource : WebUI) : Act κ ρ Bool := do
  let message ← Act.lift
    ((WebUI.Status.readMessage note.message).within (.key "message")).orFail
  let status : WebUI.Status := { phase := some note.phase, message }
  -- Only a failure of the cluster is dropped; any other one leaves the pass.
  match ← Act.catching Failure.cluster? (cluster.updateWebUI { resource with status }) with
  | .ok _ =>
    Act.report (.statusWritten note)
    pure true
  | .error e =>
    Act.report (.statusUnwritten note e.message)
    pure false

/-- Reports a status, and says whether it was written. -/
def reportStatus (cluster : Cluster κ ρ) (note : StatusNote) : Act κ ρ Bool := do
  match ← Act.catching Failure.cluster? (cluster.getWebUI note.resource) with
  | .ok resource => writeStatus cluster note resource
  | .error e =>
    Act.report (.statusUnread note e.message)
    pure false

/-- Reports a phase with a message. -/
def setStatus (op : Operator κ ρ) (id : ResourceId) (phase : Phase) (message : String) :
    Act κ ρ Unit :=
  discard (reportStatus op.cluster ⟨id, phase, .text message⟩)

end Operator

end ConsoleKeeper
