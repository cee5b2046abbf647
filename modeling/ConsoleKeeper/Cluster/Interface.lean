import ConsoleKeeper.Cluster.Basic

/-!
# `ConsoleKeeper.Cluster.Interface`: a cluster behind its interface

A running cluster offers four calls that take and give plain documents. `Interface.cluster` makes
the operator's view of a cluster from them: it names the objects, reads the answers as records, and
turns refusals and lost connections into cluster errors.

A refusal with status 404 says that the object is absent. What an answer holds that is no record is
a failure of its own, not a cluster error.
-/

set_option autoImplicit false

namespace ConsoleKeeper

/-- The calls of a cluster's interface. -/
structure Interface (κ ρ : Type) where
  /-- Gives the object with a group, a version, a namespace, a plural and a name. -/
  getObject : String → String → String → String → String → Act κ ρ Data
  /-- Replaces the object with a group, a version, a namespace, a plural and a name. -/
  replaceObject : String → String → String → String → String → Data → Act κ ρ Data
  /-- Gives the deployment with a name and a namespace. -/
  readDeployment : String → String → Act κ ρ Data
  /-- Changes the deployment with a name and a namespace. -/
  patchDeployment : String → String → Data → Act κ ρ Data

/-- A part of a document that the interface gave: null if it is missing. Only records have parts. -/
def Data.part (document : Data) (key : String) : Except Failure Data :=
  match document with
  | .object fields => .ok (Data.field fields key)
  | _ => .error .noMember

/-- The items of a list, none if it counts as nothing. -/
def Data.itemsOrNone : Data → Except Failure (List Data)
  | .list items => .ok items
  | .text s => if s.isEmpty then .ok [] else .error .noMember
  | value => if value.isFalsy then .ok [] else .error .wrongKind

/-- A value, or the empty text if it counts as nothing. -/
def Data.orEmptyText (value : Data) : Data :=
  if value.isFalsy then .text "" else value

/-- Reads a container from the interface's document. -/
def Container.ofInterface (document : Data) : Except Failure Container := do
  let name ← document.part "name"
  let image ← document.part "image"
  (Container.read (.object [("name", name), ("image", image.orEmptyText)])).orFail

/-- Reads an owner from the interface's document, where the two marks may be left open. -/
def OwnerReference.ofInterface (document : Data) : Except Failure OwnerReference := do
  let apiVersion ← document.part "api_version"
  let kind ← document.part "kind"
  let name ← document.part "name"
  let uid ← document.part "uid"
  let controller ← document.part "controller"
  let block ← document.part "block_owner_deletion"
  (OwnerReference.read (.object
    [("api_version", apiVersion), ("kind", kind), ("name", name), ("uid", uid),
      ("controller", .bool !controller.isFalsy),
      ("block_owner_deletion", .bool !block.isFalsy)])).orFail

/-- The containers that a deployment's document describes; on the way to them a part may be null. -/
def containersOf (document : Data) : Except Failure (List Container) := do
  match ← document.part "spec" with
  | .null => pure []
  | spec =>
    match ← spec.part "template" with
    | .null => pure []
    | template =>
      match ← template.part "spec" with
      | .null => pure []
      | pod =>
        let items ← (← pod.part "containers").itemsOrNone
        items.mapM Container.ofInterface

/-- Reads a deployment from the interface's document. -/
def Deployment.ofInterface (document : Data) : Except Failure Deployment := do
  let metadata ← document.part "metadata"
  let containers ← containersOf document
  let owners ← (← (← metadata.part "owner_references").itemsOrNone).mapM OwnerReference.ofInterface
  let name ← metadata.part "name"
  let ns ← metadata.part "namespace"
  let uid ← metadata.part "uid"
  (Deployment.read (.object
    [("name", name), ("namespace", ns), ("uid", uid.orEmptyText),
      ("containers", .list (containers.map fun c => .object c.fields)),
      ("owner_references", .list (owners.map fun o => .object o.fields))])).orFail

/-- The document that sets a deployment's owners and nothing else. -/
def Deployment.ownersPatch (deployment : Deployment) : Data :=
  .object [("metadata", .object
    [("ownerReferences", .list (deployment.owners.map fun o => .object o.clusterFields))])]

namespace Interface

variable {κ ρ : Type}

/-- An object's name in full, with its kind. -/
def fullName (object : ObjectName) : String :=
  object.kind ++ " " ++ object.ns ++ "/" ++ object.name

/-- The cluster error of a refused call. -/
def refusal (object : ObjectName) (status reason : Data) : OperatorError :=
  (OperatorError.aboutObject .cluster
    (fullName object ++ ": API error " ++ status.shown ++ " " ++ reason.shown)
    object.kind object.ns object.name [("status", status), ("reason", reason)]).causedBy .api

/-- The cluster error of a lost connection. -/
def disconnection (object : ObjectName) (said : String) : OperatorError :=
  ((OperatorError.aboutObject .cluster (fullName object ++ ": connection error: " ++ said)
    object.kind object.ns object.name []).withCode "CLUSTER_CONNECTION_ERROR").causedBy .connection

/-- Whether a status says that the object is absent. -/
def saysAbsent : Data → Bool
  | .int n => n = 404
  | .float x => x.toInt? = some 404
  | _ => false

/-- Makes a call about an object, and turns its refusal or a lost connection into a cluster error.
-/
def call (object : ObjectName) (ask : Act κ ρ Data) : Act κ ρ Data := do
  match ← Act.catching some ask with
  | .ok answer => pure answer
  | .error (.api status reason) =>
    if saysAbsent status then
      Act.fail (.operator ((OperatorError.absent object.kind object.ns object.name).causedBy .api))
    else
      Act.report (.callRefused object status reason)
      Act.fail (.operator (refusal object status reason))
  | .error (.connection said) =>
    Act.report (.connectionLost object said)
    Act.fail (.operator (disconnection object said))
  -- Any other failure is not the cluster's and is passed on as it is.
  | .error failure => Act.fail failure

/-- Reads a resource. -/
def getWebUI (calls : Interface κ ρ) (settings : ClusterSettings) (id : ResourceId) :
    Act κ ρ WebUI := do
  let answer ← call ⟨settings.kind, id.ns, id.name⟩
    (calls.getObject settings.group settings.version id.ns settings.plural id.name)
  Act.lift (WebUI.ofObject answer)

/-- Writes a resource. No call is made if there is no object to write. -/
def updateWebUI (calls : Interface κ ρ) (settings : ClusterSettings) (resource : WebUI) :
    Act κ ρ WebUI := do
  let body ← Act.lift resource.toObject
  let answer ← call ⟨settings.kind, resource.id.ns, resource.id.name⟩
    (calls.replaceObject settings.group settings.version resource.id.ns settings.plural
      resource.id.name (.object body))
  Act.lift (WebUI.ofObject answer)

/-- Reads a deployment. -/
def getDeployment (calls : Interface κ ρ) (ns name : String) : Act κ ρ Deployment := do
  let answer ← call ⟨"Deployment", ns, name⟩ (calls.readDeployment name ns)
  Act.lift (Deployment.ofInterface answer)

/-- Writes the owners of a deployment. -/
def updateOwners (calls : Interface κ ρ) (deployment : Deployment) : Act κ ρ Deployment := do
  let answer ← call ⟨"Deployment", deployment.ns, deployment.name⟩
    (calls.patchDeployment deployment.name deployment.ns deployment.ownersPatch)
  Act.lift (Deployment.ofInterface answer)

/-- The cluster behind an interface as the operator sees it. -/
def cluster (calls : Interface κ ρ) (settings : ClusterSettings) : Cluster κ ρ where
  getWebUI := calls.getWebUI settings
  updateWebUI := calls.updateWebUI settings
  getDeployment := calls.getDeployment
  updateOwners := calls.updateOwners

end Interface

end ConsoleKeeper
