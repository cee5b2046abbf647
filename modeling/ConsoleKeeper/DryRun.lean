import ConsoleKeeper.Cluster.Store
import ConsoleKeeper.Command.Recorder
import ConsoleKeeper.Operator.Start

/-!
# `ConsoleKeeper.DryRun`: the life of a console without a cluster

A dry run asks an operator over a store and a recorder for one version after the other, and shows in
a line how each pass ended. The playbook's part is played by `simulate`, which reads the inventory
and deploys the image that it asks for, or takes the deployment away.

The whole dry run installs a version, asks for it again, changes to another, and removes it. Then it
shows the commands that were run.
-/

set_option autoImplicit false

namespace ConsoleKeeper.DryRun

/-- The namespace of the console. -/
def ns : String := "kubevirt-web-ui"

/-- The resource of the console. -/
def resourceId : ResourceId := ⟨ns, "kubevirt-web-ui"⟩

/-- The name of the deployment and of its container. -/
def consoleName : String := "console"

/-- A part of a dry run. -/
abbrev Scene (α : Type) := Act Store (Recorder Unit) α

/-- The assignments in the inventory at a path. -/
def inventoryAt (path : String) : Scene (List (String × String)) := do
  let world ← Act.look
  let text ← Act.lift (world.files.readText path)
  pure (Inventory.runVariables text)

/-- Plays the playbook's part. Other commands do nothing. -/
def simulate (command : Command) : Scene Unit := do
  if command.program.endsWith "ansible-playbook" then
    let path ← Act.lift (match command.arguments[1]? with
      | some path => .ok path
      | none => .error .badArgument)
    let values ← inventoryAt path
    if (← Act.lift (Inventory.need values "apb_action")) = PlaybookAction.provision.name then
      let image ← Act.lift (Inventory.wantedImage values)
      Act.changeCluster fun store =>
        let (deployment, store) := store.newDeployment ns image consoleName consoleName
        store.putDeployment deployment
    else Act.changeCluster fun store => store.removeDeployment ns consoleName

/-- The credentials of a dry run. -/
def credentials : Credentials where
  host := "https://172.30.0.1:443"
  caFile := "/var/run/secrets/kubernetes.io/serviceaccount/ca.crt"
  token := "dry-run-token"

/-- The values that are given to the settings of a dry run with files in a directory. -/
def given (directory : String) : Fields :=
  let artifacts : ArtifactSettings := { tempDir := directory }
  let cluster : ClusterSettings := { backend := .memory }
  [("log_level", .text "WARNING"), ("artifacts", .object artifacts.fields),
    ("cluster", .object cluster.fields)]

/-- A text filled up with blanks. -/
def padded (width : Nat) (text : String) : String :=
  text ++ String.ofList (List.replicate (width - text.length) ' ')

/-- The line that shows how a pass ended. -/
def passLine (version : String) (action : Action) (phase : Phase) : String :=
  "version=" ++ padded 8 (String.ofList (Text.literal version.toList)) ++ " action=" ++
    padded 28 action.name ++ " phase=" ++ phase.name

/-- Asks for a version and makes a pass. -/
def setVersion (op : Operator Store (Recorder Unit)) (version : String) : Scene String := do
  let store ← Act.cluster
  match store.webui? resourceId with
  | none => Act.fail .noMember
  | some resource =>
    Act.changeCluster fun store => store.enroll { resource with spec := { version } }
    let result ← op.pass resourceId
    let store ← Act.cluster
    match (store.webui? resourceId).bind (·.status.phase) with
    | some phase => pure (passLine version result.action phase)
    | none => Act.fail .noMember

/-- Starts an operator with an empty resource for the console. -/
def prepare (settings : Settings) : Scene (Operator Store (Recorder Unit)) := do
  let op ← Operator.build settings Store.cluster (Recorder.run simulate) (pure credentials)
  Act.changeCluster fun store => store.enroll { id := resourceId }
  pure op

/-- Asks for versions one after the other, and shows how each pass ended. -/
def passes (settings : Settings) (versions : List String) : Scene (List String) := do
  let op ← prepare settings
  versions.mapM (setVersion op)

/-- The versions of the whole dry run. -/
def versions : List String := ["v1.4", "v1.4", "v2.0", ""]

/-- The lines of the whole dry run. -/
def lines (settings : Settings) : Scene (List String) := do
  let shown ← passes settings versions
  let recorder ← Act.runner
  pure (shown ++ ["", "Commands run:"] ++
    recorder.calls.map fun call => "  " ++ call.command.display)

/-- The surroundings of a dry run, with a directory for its files. -/
def surroundings (files : Tree) (directory : Place) : World Store (Recorder Unit) :=
  { cluster := {}, runner := { memory := () }, files := files.withDirectories directory }

end ConsoleKeeper.DryRun
