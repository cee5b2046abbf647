import ConsoleKeeper.Cluster.Store
import ConsoleKeeper.Failure.Described

/-!
# `ConsoleKeeper.Cluster.Seeding`: preparing a store

A rehearsal prepares the store, or changes it behind the operator's back, in steps given as
documents. Such a step is no call: the store does not note it. The operator knows nothing of these
steps; they stand for people and programs that work on the same cluster.

`Proofs.Cluster.Seeding` shows that a store prepared in this way is one that the theorems about
passes are about.
-/

set_option autoImplicit false

namespace ConsoleKeeper.Seeding

/-- An argument of a step that has to be there. -/
def argument (step : Fields) (key : String) : Except Failure Data :=
  match step.get? key with
  | some value => .ok value
  | none => .error .noKey

/-- An argument of a step, or its default. -/
def argumentOr (step : Fields) (key : String) (default : Data) : Data :=
  (step.get? key).getD default

/-- The id that a step names, if it has both parts of one. -/
def idOf? (step : Fields) : Except Failure (Option ResourceId) :=
  match step.get? "namespace", step.get? "name" with
  | some ns, some name =>
    (ResourceId.read (.object [("namespace", ns), ("name", name)])).orFail.map some
  | _, _ => .ok none

/-- The id that a step has to name. -/
def idOf (step : Fields) : Except Failure ResourceId := do
  match ← idOf? step with
  | some id => .ok id
  | none => .error .noKey

/-- The name of deployments and of their containers where a step gives none. -/
def usualName : String := "console"

/-- The number of times that a step asks for, one if it does not say. -/
def timesOf (step : Fields) : Nat :=
  match step.get? "times" with
  | some (.int n) => n.toNat
  | _ => 1

variable {ρ : Type}

/-- Stores the resource of an object. -/
def putWebUI (step : Fields) : Act Store ρ Unit := do
  let object ← Act.lift (argument step "object")
  let resource ← Act.lift (WebUI.ofObject object)
  Act.changeCluster fun store => store.enroll resource

/-- Gives a stored resource another spec. -/
def setSpec (step : Fields) : Act Store ρ Unit := do
  let id ← Act.lift (idOf step)
  let store ← Act.cluster
  match store.webui? id with
  | none => Act.fail .noMember
  | some resource =>
    let spec ← Act.lift ((argument step "spec").bind fun spec => (WebUI.Spec.read spec).orFail)
    Act.changeCluster fun store => store.enroll { resource with spec }

/-- Stores a deployment. -/
def putDeployment (step : Fields) : Act Store ρ Unit := do
  let document ← Act.lift (argument step "deployment")
  let deployment ← Act.lift (Deployment.read document).orFail
  Act.changeCluster fun store => store.putDeployment deployment

/-- Stores a deployment with one container and a new uid. -/
def makeDeployment (step : Fields) : Act Store ρ Unit := do
  let ns ← Act.lift (argument step "namespace")
  let image ← Act.lift (argument step "image")
  let store ← Act.cluster
  Act.changeCluster fun store => store.issueUid.2
  let container ← Act.lift (Container.read (.object
    [("name", argumentOr step "container_name" (.text usualName)), ("image", image)])).orFail
  let deployment ← Act.lift (Deployment.read (.object
    [("name", argumentOr step "name" (.text usualName)), ("namespace", ns), ("uid", .text store.issueUid.1),
      ("containers", .list [.object container.fields])])).orFail
  Act.changeCluster fun store => store.putDeployment deployment

/-- Takes a deployment away, if it is there. -/
def deleteDeployment (step : Fields) : Act Store ρ Unit := do
  let ns ← Act.lift (argument step "namespace")
  match ns, argumentOr step "name" (.text usualName) with
  | .text ns, .text name => Act.changeCluster fun store => store.removeDeployment ns name
  | _, _ => pure ()

/-- Tells the next calls of an operation to fail. -/
def failNext (step : Fields) : Act Store ρ Unit := do
  let operation ← Act.lift (argument step "operation")
  let failure ← Act.lift ((argument step "error").bind Failure.described)
  match operation.text?.bind Operation.ofName? with
  | some operation => Act.changeCluster fun store => store.failNext operation failure (timesOf step)
  | none => pure ()

/-- Takes a directory away with everything in it. -/
def removeTree (step : Fields) : Act Store ρ Unit := do
  match ← Act.lift (argument step "path") with
  | .text path =>
    Act.changeFiles path fun files =>
      match files.locate path with
      | .error reason => .error reason
      | .ok place =>
        match files.at? place with
        | some .directory => .ok (files.prune place)
        | some (.file _ _) => .error .notDirectory
        | none => .error .noEntry
  | _ => Act.fail .wrongKind

/-- The steps that prepare a store, by the words for them. -/
def steps : List (String × (Fields → Act Store ρ Unit)) :=
  [("put_webui", putWebUI),
    ("set_spec", setSpec),
    ("delete_webui", fun step => do
      let id ← Act.lift (idOf step)
      Act.changeCluster fun store => store.removeWebUI id),
    ("put_deployment", putDeployment),
    ("make_deployment", makeDeployment),
    ("delete_deployment", deleteDeployment),
    ("fail_next", failNext),
    ("raise", fun step => do
      let failure ← Act.lift ((argument step "error").bind Failure.described)
      Act.fail failure),
    ("rmtree", removeTree)]

/-- The word that says what a step does. -/
def wordOf (step : Fields) : String :=
  match step.get? "do" with
  | some (.text word) => word
  | _ => ""

/-- What a step does to the store, if it is one of these. The id that a step names is read first. -/
def perform? (step : Fields) : Option (Act Store ρ Unit) :=
  (steps.lookup (wordOf step)).map fun run => do
    let _ ← Act.lift (idOf? step)
    run step

end ConsoleKeeper.Seeding
