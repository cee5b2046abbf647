import ConsoleKeeper.Artifacts
import ConsoleKeeper.Inventory
import ConsoleKeeper.Operator.Basic

/-!
# `ConsoleKeeper.Operator.Playbook`: one run of the playbook

A run logs in to the cluster, selects the namespace, and runs the playbook with an inventory made
for it. All three commands use one credentials file, which the login fills. The first step that
fails ends the run. Both files are gone afterwards, however the run ended.
-/

set_option autoImplicit false

namespace ConsoleKeeper.Operator

variable {κ ρ : Type}

/-- The command that logs in. The token is a secret. -/
def loginCommand (settings : CommandSettings) (credentials : Credentials)
    (environment : List (String × String)) : Command where
  program := settings.clientBinary
  arguments :=
    ["login", credentials.host, "--certificate-authority=" ++ credentials.caFile,
      "--token=" ++ credentials.token]
  environment := environment
  secrets := [credentials.token]

/-- The command that selects a namespace. -/
def projectCommand (settings : CommandSettings) (ns : String)
    (environment : List (String × String)) : Command where
  program := settings.clientBinary
  arguments := ["project", ns]
  environment := environment

/-- The command that runs the playbook with an inventory. -/
def playbookCommand (settings : CommandSettings) (inventory : String)
    (environment : List (String × String)) : Command where
  program := settings.playbookBinary
  arguments := ["-i", inventory, settings.playbookPath, settings.verbosityFlag]
  environment := environment

/-- The commands of a run, after the credentials file is made. -/
def playbookSteps (op : Operator κ ρ) (action : PlaybookAction) (spec : WebUI.Spec) (ns : String)
    (credentials : Credentials) (credentialsPath : String) : Act κ ρ Unit := do
  let commands := op.settings.commands
  let environment := [(commands.kubeconfigVariable, credentialsPath)]
  let _ ← op.runner (loginCommand commands credentials environment)
  let _ ← op.runner (projectCommand commands ns environment)
  -- The inventory is made last, so there is none where the login or the selection fails.
  let content := Inventory.render spec ns action op.settings.inventory
  Artifacts.withInventoryFile op.settings.artifacts content fun inventory =>
    discard (op.runner (playbookCommand commands inventory environment))

/-- Runs the playbook once for a namespace. -/
def runPlaybook (op : Operator κ ρ) (action : PlaybookAction) (spec : WebUI.Spec) (ns : String) :
    Act κ ρ Unit := do
  Act.report (.runStarted action ns spec.version)
  let credentials ← op.credentials
  Artifacts.withCredentialsFile op.settings.artifacts
    (op.playbookSteps action spec ns credentials)
  Act.report (.runFinished action ns)

end ConsoleKeeper.Operator
