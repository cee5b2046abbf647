import ConsoleKeeper.Operator.Basic

/-!
# `ConsoleKeeper.Operator.Ownership`: whose deployment it is

The resource should control the deployment, so that the deployment goes when the resource goes.
`link` makes it so: it leaves a deployment alone that the resource controls already, refuses one
that something else controls, and otherwise writes the resource behind the other owners.

Each refusal is reported in the resource's status before it ends the action.
-/

set_option autoImplicit false

namespace ConsoleKeeper

namespace Deployment

/-- A text, or another where it is empty. -/
def textOr (text other : String) : String :=
  if text.isEmpty then other else text

/-- The reference that makes a resource the controlling owner. -/
def ownedBy (settings : ClusterSettings) (parent : WebUI) : OwnerReference where
  apiVersion := textOr parent.apiVersion settings.apiVersion
  kind := textOr parent.kind settings.kind
  name := parent.id.name
  uid := parent.uid
  controller := true
  blockOwnerDeletion := true

/-- The deployment with a resource as its controlling owner, behind the owners with other uids. -/
def withOwner (deployment : Deployment) (settings : ClusterSettings) (parent : WebUI) :
    Deployment :=
  { deployment with
    owners := deployment.owners.filter (·.uid ≠ parent.uid) ++ [ownedBy settings parent] }

end Deployment

namespace Operator

variable {κ ρ : Type}

/-- What a status says when the deployment to link cannot be read. -/
def ownedUnreadableMessage : String :=
  "Failed to retrieve the just created kubevirt-web-ui Deployment object to set owner reference."

/-- What a status says when the deployment cannot be linked. -/
def linkFailedMessage : String :=
  "Failed to set Operator CR as the owner of the kubevirt-web-ui Deployment object."

/-- The error of a link that failed because a cluster call did. -/
def linkError (id : ResourceId) (message : String) (e : OperatorError) : OperatorError :=
  (OperatorError.plain .ownerReference message
    [("resource", .text id.path), ("error", .text e.message)]).causedBy (.operator e.kind)

/-- The error of a link to a deployment that something else controls. -/
def controlledError (id : ResourceId) (owner : OwnerReference) : OperatorError :=
  (OperatorError.plain .ownerReference linkFailedMessage
    [("resource", .text id.path), ("controller_kind", .text owner.kind),
      ("controller_name", .text owner.name), ("controller_uid", .text owner.uid)]).withCode
    "DEPLOYMENT_ALREADY_CONTROLLED"

/-- Reports that a link failed, and ends with the error. -/
def refuseLink {α : Type} (op : Operator κ ρ) (id : ResourceId) (message : String)
    (e : OperatorError) : Act κ ρ α := do
  op.setStatus id .ownerReferenceFailed message
  Act.fail (.operator e)

/-- Makes a resource the controlling owner of the deployment in a namespace, and gives the
deployment as written or, if it was linked already, as found. -/
def link (op : Operator κ ρ) (parent : WebUI) (ns : String) : Act κ ρ Deployment := do
  let name := op.settings.cluster.deploymentName
  let site : LinkSite := ⟨parent.id, ns ++ "/" ++ name⟩
  match ← Act.catching Failure.cluster? (op.cluster.getDeployment ns name) with
  | .error e =>
    Act.report (.ownedUnreadable site e.message)
    op.refuseLink parent.id ownedUnreadableMessage (linkError parent.id ownedUnreadableMessage e)
  | .ok deployment =>
    match deployment.controller? with
    | some owner =>
      if owner.uid = parent.uid then
        Act.report (.ownerPresent site)
        pure deployment
      else
        Act.report (.ownedByOther site (owner.kind ++ "/" ++ owner.name))
        op.refuseLink parent.id linkFailedMessage (controlledError parent.id owner)
    | none =>
      -- Nobody controls the deployment. All its owners are written, those that were read and the
      -- resource.
      let linked := deployment.withOwner op.settings.cluster parent
      match ← Act.catching Failure.cluster? (op.cluster.updateOwners linked) with
      | .error e =>
        Act.report (.ownerUnwritten site e.message)
        op.refuseLink parent.id linkFailedMessage (linkError parent.id linkFailedMessage e)
      | .ok written =>
        Act.report (.ownerWritten site parent.uid)
        pure written

end Operator

end ConsoleKeeper
