import ConsoleKeeper.Operator.Ownership
import ConsoleKeeper.Operator.Playbook

/-!
# `ConsoleKeeper.Operator.Pass`: one pass over a resource

A pass compares the version that a resource wants with the version that is deployed, and runs the
playbook as far as they differ. It starts from what the cluster says and remembers nothing from
earlier passes.

* Nothing deployed: provision, unless nothing is wanted.
* The same version deployed: only see to the owner.
* Another version deployed: take it away, and provision if something is wanted.

A pass ends with a result or with the error that stopped it. Each error of the operator that stops
it is reported in the status first, apart from a deployed tag that names no version.
-/

set_option autoImplicit false

namespace ConsoleKeeper.Operator

variable {κ ρ : Type}

/-- What a status says when the resource cannot be read. -/
def resourceUnreadableMessage : String := "Failed to retrieve KWebUI object."

/-- What a status says when the deployment cannot be read. -/
def deploymentUnreadableMessage : String :=
  "Failed to retrieve kubevirt-web-ui Deployment object."

/-- What a status says when no version can be read from the deployment. -/
def versionUnreadableMessage : String := "Can not read deployed container version."

/-- What a status says after a playbook's task. -/
def finishedMessage : PlaybookAction → String
  | .provision => "Provision finished."
  | .deprovision => "Deprovision finished."

/-- What a status says when a playbook's task failed. -/
def failedMessage : PlaybookAction → String
  | .provision => "Failed to provision Kubevirt Web UI. See operator's log for more details."
  | .deprovision => "Failed to deprovision Kubevirt Web UI. See operator's log for more details."

/-- What a status says when the wanted version is deployed. -/
def conformsMessage (actual : String) : String :=
  "Existing version conform the requested one: " ++ actual ++ ". Nothing to do."

/-- The phase of a failed task. -/
def failedPhase : PlaybookAction → Phase
  | .provision => .provisionFailed
  | .deprovision => .deprovisionFailed

/-- Reports the end of a pass and gives its result. -/
def conclude (id : ResourceId) (action : Action) (phase : Phase) (message : String) :
    Act κ ρ PassResult := do
  Act.report (.passFinished id action phase)
  pure { resource := id, action, phase := some phase, message }

/-- Reports the last status of a pass and gives its result. -/
def finish (op : Operator κ ρ) (id : ResourceId) (action : Action) (phase : Phase)
    (message : String) : Act κ ρ PassResult := do
  op.setStatus id phase message
  conclude id action phase message

/-- Runs the playbook for a resource; if that fails, reports it and ends with the error. -/
def attemptPlaybook (op : Operator κ ρ) (task : PlaybookAction) (resource : WebUI) :
    Act κ ρ Unit := do
  match ← Act.catching Failure.operator? (op.runPlaybook task resource.spec resource.id.ns) with
  | .ok () => pure ()
  | .error e =>
    Act.report (.playbookFailed task resource.id e.message e.code)
    op.setStatus resource.id (failedPhase task) (failedMessage task)
    Act.fail (.operator e)

/-- Deploys the wanted version and links the deployment to the resource. -/
def provision (op : Operator κ ρ) (resource : WebUI) (action : Action) : Act κ ρ PassResult := do
  op.setStatus resource.id .provisionStarted ("Target version: " ++ resource.spec.version)
  op.attemptPlaybook .provision resource
  let _ ← op.link resource resource.id.ns
  op.finish resource.id action .provisioned (finishedMessage .provision)

/-- Takes the deployed version away. -/
def deprovision (op : Operator κ ρ) (resource : WebUI) : Act κ ρ Unit := do
  op.setStatus resource.id .deprovisionStarted ""
  op.attemptPlaybook .deprovision resource
  op.setStatus resource.id .deprovisioned (finishedMessage .deprovision)

/-- The error of a failed link, which a pass over a deployment in its wanted version only reports.
-/
def linkError? (failure : Failure) : Option OperatorError :=
  match failure.operator? with
  | some e => if e.kind = .ownerReference then some e else none
  | none => none

/-- Links the deployment to the resource if it is not linked; a failed link is only reported. -/
def repairLink (op : Operator κ ρ) (id : ResourceId) (resource : WebUI) (deployment : Deployment) :
    Act κ ρ Unit := do
  if deployment.isControlledBy resource.uid then pure ()
  else
    -- The deployment is the wanted one already, so the next pass can try the link again.
    match ← Act.catching linkError? (op.link resource id.ns) with
    | .ok _ => pure ()
    | .error e => Act.report (.linkRepairFailed id e.code e.message)

/-- Takes the deployed version away and deploys the wanted one. -/
def replace (op : Operator κ ρ) (id : ResourceId) (resource : WebUI) (action : Action) :
    Act κ ρ PassResult := do
  match ← Act.catching Failure.operator? (op.deprovision resource) with
  | .ok () => op.provision resource action
  | .error e =>
    Act.report (.firstHalfFailed id)
    Act.fail (.operator e)

/-- Does what was chosen about a deployment whose version could be read. -/
def carryOut (op : Operator κ ρ) (id : ResourceId) (resource : WebUI) (deployment : Deployment)
    (actual : String) (action : Action) : Act κ ρ PassResult :=
  match action with
  | .deprovision => do
    op.deprovision resource
    conclude id action .deprovisioned (finishedMessage .deprovision)
  | .deprovisionThenProvision => op.replace id resource action
  | _ => do
    op.repairLink id resource deployment
    op.finish id action .provisioned (conformsMessage actual)

/-- Goes on with a deployment whose version could be read. -/
def settle (op : Operator κ ρ) (id : ResourceId) (resource : WebUI) (deployment : Deployment)
    (actual : String) : Act κ ρ PassResult := do
  let action := Action.choose resource.spec.version (some actual)
  Act.report (.actionDecided id action resource.spec.version (some actual))
  op.carryOut id resource deployment actual action

/-- Goes on where nothing is deployed. -/
def settleAbsent (op : Operator κ ρ) (id : ResourceId) (resource : WebUI) :
    Act κ ρ PassResult := do
  let action := Action.choose resource.spec.version none
  Act.report (.actionDecided id action resource.spec.version none)
  match action with
  | .noop => op.finish id action .notDeployed ""
  | _ => op.provision resource action

/-- Goes on with a deployment. -/
def settleDeployed (op : Operator κ ρ) (id : ResourceId) (resource : WebUI)
    (deployment : Deployment) : Act κ ρ PassResult := do
  let name := op.settings.cluster.containerName
  -- A tag that names no version ends the pass here, before any status is written.
  match ← Act.lift (deployment.deployedVersion name) with
  | some actual => op.settle id resource deployment actual
  | none =>
    Act.report (.versionUnreadable id ((deployment.container? name).map (·.image)))
    op.finish id .noop .otherError versionUnreadableMessage

/-- Whether an error says that an object is absent. -/
def saysAbsent (e : OperatorError) : Bool :=
  e.kind = .notFound

/-- Goes on with the resource that was read under an id. -/
def settleResource (op : Operator κ ρ) (id : ResourceId) (resource : WebUI) :
    Act κ ρ PassResult := do
  let name := op.settings.cluster.deploymentName
  match ← Act.catching Failure.cluster? (op.cluster.getDeployment id.ns name) with
  | .ok deployment => op.settleDeployed id resource deployment
  | .error e =>
    -- Only here does the absence of the deployment mean that nothing is deployed.
    if saysAbsent e then op.settleAbsent id resource
    else
      Act.report (.deploymentUnreadable id e.message)
      op.setStatus id .otherError deploymentUnreadableMessage
      Act.fail (.operator e)

/-- Makes one pass over the resource with an id. -/
def pass (op : Operator κ ρ) (id : ResourceId) : Act κ ρ PassResult := do
  Act.report (.passStarted id)
  match ← Act.catching Failure.cluster? (op.cluster.getWebUI id) with
  | .ok resource => op.settleResource id resource
  | .error e =>
    if saysAbsent e then
      Act.report (.resourceAbsent id)
      pure { resource := id, action := .noop }
    else
      Act.report (.resourceUnreadable id e.message)
      op.setStatus id .otherError resourceUnreadableMessage
      Act.fail (.operator e)

end ConsoleKeeper.Operator
