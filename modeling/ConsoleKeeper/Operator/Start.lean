import ConsoleKeeper.Access.Backend
import ConsoleKeeper.Operator.Pass

/-!
# `ConsoleKeeper.Operator.Start`: an operator from its settings

Starting an operator checks that its cluster can be used, and reports what was built.
-/

set_option autoImplicit false

namespace ConsoleKeeper.Operator

variable {κ ρ : Type}

/-- The event that reports an operator with the given settings. -/
def builtEvent (settings : Settings) : Event :=
  .operatorBuilt settings.stage settings.cluster.backend
    (settings.cluster.plural ++ "." ++ settings.cluster.group)

/-- Starts an operator with the given parts. -/
def build (settings : Settings) (cluster : Cluster κ ρ) (runner : Runner κ ρ)
    (credentials : Act κ ρ Credentials) : Act κ ρ (Operator κ ρ) := do
  Act.report (builtEvent settings)
  pure { settings, cluster, runner, credentials }

/-- Starts an operator with the pod's credentials, after a check of the backend that its settings
name. -/
def start (settings : Settings) (environment : Variables) (cluster : Cluster κ ρ)
    (runner : Runner κ ρ) : Act κ ρ (Operator κ ρ) := do
  let world ← Act.look
  Act.lift (Access.check settings.cluster.backend environment world.files)
  build settings cluster runner (Access.podCredentials settings.cluster environment)

end ConsoleKeeper.Operator
