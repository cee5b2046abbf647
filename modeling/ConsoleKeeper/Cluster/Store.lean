import ConsoleKeeper.Cluster.Basic
import ConsoleKeeper.Data.Table

/-!
# `ConsoleKeeper.Cluster.Store`: a cluster in memory

A store holds resources and deployments under their names. It notes every call. A call can be told
to fail: each operation has a queue of failures, and a call takes the first of its operation's
queue, if there is one, and ends with it.

`put`, `remove` and `find` work on the store directly. They are not calls: they are not noted and do
not fail.
-/

set_option autoImplicit false

namespace ConsoleKeeper

/-- A call that the store was asked for. -/
structure CallNote where
  operation : Operation
  ns : String
  name : String
  deriving DecidableEq, Repr, Inhabited

/-- A call in one line. -/
def CallNote.text (call : CallNote) : String :=
  call.operation.name ++ " " ++ call.ns ++ "/" ++ call.name

/-- The namespace and the name of a deployment. -/
abbrev DeploymentKey := String × String

/-- The key of a deployment. -/
def Deployment.key (deployment : Deployment) : DeploymentKey :=
  (deployment.ns, deployment.name)

/-- A cluster in memory. -/
structure Store where
  webuis : Table ResourceId WebUI := []
  deployments : Table DeploymentKey Deployment := []
  /-- The failures that calls are to end with, for each operation in order. -/
  failures : Operation → List Failure := fun _ => []
  calls : List CallNote := []
  /-- How many uids were issued. -/
  issued : Nat := 0

instance : Inhabited Store := ⟨{}⟩

namespace Store

/-- The store with a resource under its own id. -/
def putWebUI (store : Store) (resource : WebUI) : Store :=
  { store with webuis := store.webuis.put resource.id resource }

/-- The store without a resource. -/
def removeWebUI (store : Store) (id : ResourceId) : Store :=
  { store with webuis := store.webuis.erase id }

/-- The resource with an id. -/
def webui? (store : Store) (id : ResourceId) : Option WebUI :=
  store.webuis.get? id

/-- The store with a deployment under its own key. -/
def putDeployment (store : Store) (deployment : Deployment) : Store :=
  { store with deployments := store.deployments.put deployment.key deployment }

/-- The store without a deployment. -/
def removeDeployment (store : Store) (ns name : String) : Store :=
  { store with deployments := store.deployments.erase (ns, name) }

/-- The deployment with a namespace and a name. -/
def deployment? (store : Store) (ns name : String) : Option Deployment :=
  store.deployments.get? (ns, name)

/-- The store in which the next calls of an operation fail, after those that are to fail already. -/
def failNext (store : Store) (operation : Operation) (failure : Failure) (times : Nat) : Store :=
  { store with
    failures := fun o =>
      if o = operation then store.failures o ++ List.replicate times failure
      else store.failures o }

/-- The uid with a number. -/
def uidOf (number : Nat) : String :=
  "uid-" ++ String.ofList (digitsOf number)

/-- A uid that was not issued before, and the store that remembers it. -/
def issueUid (store : Store) : String × Store :=
  (uidOf (store.issued + 1), { store with issued := store.issued + 1 })

/-- The store with a resource that gets a uid if it has none. -/
def enroll (store : Store) (resource : WebUI) : Store :=
  if resource.uid.isEmpty then
    let (uid, store) := store.issueUid
    store.putWebUI { resource with uid }
  else store.putWebUI resource

/-- A deployment with a new uid and one container, and the store that remembers the uid. -/
def newDeployment (store : Store) (ns image name containerName : String) : Deployment × Store :=
  let (uid, store) := store.issueUid
  ({ name, ns, uid, containers := [⟨containerName, image⟩] }, store)

variable {ρ : Type}

/-- Notes a call and ends with the failure that waits for it, if there is one. -/
def answer (operation : Operation) (ns name : String) : Act Store ρ Unit := do
  -- A call counts as made even where it is going to fail.
  Act.changeCluster fun store => { store with calls := store.calls ++ [⟨operation, ns, name⟩] }
  let store ← Act.cluster
  match store.failures operation with
  | [] => pure ()
  | failure :: rest =>
    Act.changeCluster fun store =>
      { store with failures := fun o => if o = operation then rest else store.failures o }
    Act.report (.scriptedFailure operation.name failure.message)
    Act.fail failure

/-- The kind of the managed resources in errors about absent ones. -/
def webuiKind : String := "KWebUI"

/-- The kind of a deployment in errors. -/
def deploymentKind : String := "Deployment"

/-- Reads a resource. -/
def getWebUI (id : ResourceId) : Act Store ρ WebUI := do
  answer .getWebUI id.ns id.name
  let store ← Act.cluster
  match store.webui? id with
  | some resource => pure resource
  | none => Act.fail (.operator (.absent webuiKind id.ns id.name))

/-- Writes a resource that is there. -/
def updateWebUI (resource : WebUI) : Act Store ρ WebUI := do
  answer .updateWebUI resource.id.ns resource.id.name
  let store ← Act.cluster
  match store.webui? resource.id with
  | some _ =>
    Act.changeCluster fun store => store.putWebUI resource
    Act.report (.resourceStored resource.id resource.status.phase)
    pure resource
  | none => Act.fail (.operator (.absent webuiKind resource.id.ns resource.id.name))

/-- Reads a deployment. -/
def getDeployment (ns name : String) : Act Store ρ Deployment := do
  answer .getDeployment ns name
  let store ← Act.cluster
  match store.deployment? ns name with
  | some deployment => pure deployment
  | none => Act.fail (.operator (.absent deploymentKind ns name))

/-- Writes the owners of a deployment that is there, and nothing else of it. -/
def updateOwners (deployment : Deployment) : Act Store ρ Deployment := do
  answer .updateOwners deployment.ns deployment.name
  let store ← Act.cluster
  match store.deployment? deployment.ns deployment.name with
  | some current =>
    -- What else the caller's deployment says is not taken over.
    let updated := { current with owners := deployment.owners }
    Act.changeCluster fun store =>
      { store with deployments := store.deployments.put deployment.key updated }
    pure updated
  | none => Act.fail (.operator (.absent deploymentKind deployment.ns deployment.name))

/-- The store as the operator sees it. -/
def cluster : Cluster Store ρ where
  getWebUI := getWebUI
  updateWebUI := updateWebUI
  getDeployment := getDeployment
  updateOwners := updateOwners

end Store

end ConsoleKeeper
