import ConsoleKeeper.Cluster.Seeding
import ConsoleKeeper.Command.Recorder
import ConsoleKeeper.Operator.Pass

/-!
# `ConsoleKeeper.Rehearsal`: the operator over a store and a recorder

In a rehearsal nothing real is touched: the cluster is a store, and commands are only recorded. A
rehearsal is played in steps given as documents. A step prepares the store, tells the recorder what
to do when a command comes, or asks the operator for something.

The playbook can be simulated: what it would deploy or take away is then put into the store or taken
from it, as its inventory says.

A rehearsal is for people who want to see how the operator meets a situation. The operator in it is
the one that runs a cluster: `operatorOf` puts `Store.cluster` and a recorder in the places of the
cluster and of the runner, and `ask` hands a step to `Operator.pass`, `Operator.link`,
`Operator.runPlaybook` or a call of the cluster. What is proved of these for every runner holds in a
rehearsal. `Proofs.Rehearsal` adds that nothing else in a rehearsal is noted as a call.
-/

set_option autoImplicit false

namespace ConsoleKeeper

/-- What happens when a command comes: the steps to play, and how often still, without end if no
number is given. -/
structure Cue where
  pattern : CommandPattern
  left : Option Nat
  steps : List Fields
  deriving Inhabited

/-- What a recorder remembers in a rehearsal: the program that is simulated as the playbook, and the
cues. -/
structure Script where
  playbook : Option String := none
  cues : List Cue := []
  deriving Inhabited

namespace Rehearsal

open Seeding

/-- A part of a rehearsal. -/
abbrev Scene (α : Type) := Act Store (Recorder Script) α

/-- The text under a key, if it is one. -/
def textAt? (fields : Fields) (key : String) : Option String :=
  (fields.get? key).bind Data.text?

/-- The commands that a step is about. -/
def patternOf (step : Fields) : CommandPattern :=
  match step.get? "match" with
  | some (.object fields) =>
    { program := textAt? fields "program", firstArgument := textAt? fields "arg0" }
  | _ => {}

/-- The names of the arguments of a failure rule. -/
def ruleArguments : List String := ["exit_code", "start_error"]

/-- The failure rule that a step asks for. -/
def ruleOf (step : Fields) : Except Failure FailureRule :=
  match argumentOr step "kwargs" (.object []) with
  | .object arguments =>
    if arguments.any fun a => !ruleArguments.contains a.1 then .error .wrongKind
    else
      ((fun status atStart =>
          { covers := (patternOf step).fits, status, atStart : FailureRule })
        <$> Reading.optional arguments "exit_code" 1 Reading.int
        <*> Reading.optional arguments "start_error" false Reading.bool).orFail
  | _ => .error .wrongKind

/-- The steps in a list of documents. -/
def stepsOf : Data → List Fields
  | .list items => items.filterMap fun item =>
    match item with
    | .object fields => some fields
    | _ => none
  | _ => []

/-- The cue that a step asks for. -/
def cueOf (step : Fields) : Except Failure Cue := do
  let steps ← argument step "steps"
  .ok
    { pattern := patternOf step
      left := match step.get? "times" with
        | some (.int n) => some n.toNat
        | _ => none
      steps := stepsOf steps }

/-- Changes what the recorder remembers. -/
def changeScript (f : Script → Script) : Scene Unit :=
  Act.changeRunner fun recorder => { recorder with memory := f recorder.memory }

/-- Plays a step that only prepares something. -/
def prepare? (step : Fields) : Option (Scene Unit) :=
  match wordOf step with
  | "fail_when" => some do
    let rule ← Act.lift (ruleOf step)
    Recorder.failWhen rule
  | "on_command" => some do
    let cue ← Act.lift (cueOf step)
    changeScript fun script => { script with cues := script.cues ++ [cue] }
  | "clear_runner" => some Recorder.clear
  | _ => perform? step

/-- Plays a step that only prepares something; no other may follow a command. -/
def prepare (step : Fields) : Scene Unit :=
  match prepare? step with
  | some scene => scene
  | none => Act.fail .badArgument

/-- Does to the store what an inventory asks for. -/
def applyInventory (values : List (String × String)) : Scene Unit := do
  let action ← Act.lift (Inventory.need values "apb_action")
  if action = PlaybookAction.provision.name then
    let image ← Act.lift (Inventory.wantedImage values)
    let ns ← Act.lift (Inventory.need values "kubevirt_web_ui_namespace")
    Act.changeCluster fun store =>
      let (deployment, store) := store.newDeployment ns image usualName usualName
      store.putDeployment deployment
  else
    let ns ← Act.lift (Inventory.need values "kubevirt_web_ui_namespace")
    Act.changeCluster fun store => store.removeDeployment ns usualName

/-- Plays the playbook's part: reads the inventory that the command names and does what it asks
for. -/
def simulatePlaybook (command : Command) : Scene Unit := do
  match command.arguments[1]? with
  | none => Act.fail .badArgument
  | some path =>
    let world ← Act.look
    let document ← Act.lift (world.files.readText path)
    applyInventory (Inventory.looseVariables document)

/-- Uses up one turn of a cue. -/
def Cue.turn (cue : Cue) : Cue :=
  { cue with left := cue.left.map (· - 1) }

/-- Whether a command is a turn of a cue. -/
def Cue.isDue (cue : Cue) (command : Command) : Bool :=
  cue.pattern.fits command && cue.left ≠ some 0

/-- Plays the cue with a number, if it is its turn. -/
def playCue (command : Command) (number : Nat) : Scene Unit := do
  let recorder ← Act.runner
  match recorder.memory.cues[number]? with
  | none => pure ()
  | some cue =>
    if Cue.isDue cue command then
      changeScript fun script => { script with cues := script.cues.modify number Cue.turn }
      cue.steps.forM prepare

/-- What happens after a command that does not fail: the playbook's part, and the cues. -/
def hook (command : Command) : Scene Unit := do
  let recorder ← Act.runner
  if recorder.memory.playbook = some command.program then simulatePlaybook command
  (List.range recorder.memory.cues.length).forM (playCue command)

/-- The runner of a rehearsal. -/
def runner : Runner Store (Recorder Script) :=
  Recorder.run hook

/-- The credentials that a rehearsal gives, or the failure in their place. -/
def credentialsOf (document : Data) : Scene Credentials :=
  match document with
  | .object fields =>
    match Table.get? fields "raise" with
    | some failure => do
      let failure ← Act.lift (Failure.described failure)
      Act.fail failure
    | none => Act.lift (Credentials.read document).orFail
  | _ => Act.lift (Credentials.read document).orFail

/-- The operator of a rehearsal. -/
def operatorOf (settings : Settings) (credentials : Data) : Operator Store (Recorder Script) where
  settings := settings
  cluster := Store.cluster
  runner := runner
  credentials := credentialsOf credentials

/-- The phase that a document names. -/
def phaseOf (document : Data) : Except Failure Phase :=
  match document.text?.bind Phase.ofName? with
  | some phase => .ok phase
  | none => .error (.ofWord document "Phase")

/-- The playbook's task that a document names. -/
def taskOf (document : Data) : Except Failure PlaybookAction :=
  match document.text?.bind PlaybookAction.ofName? with
  | some task => .ok task
  | none => .error (.ofWord document "PlaybookAction")

/-- The resource that a step is about: one that it describes, or the stored one that it names. -/
def parentOf (step : Fields) : Scene WebUI := do
  match step.get? "resource" with
  | some document => Act.lift (WebUI.read document).orFail
  | none =>
    let id ← Act.lift (idOf step)
    let store ← Act.cluster
    match store.webui? id with
    | some resource => pure resource
    | none => Act.fail .noMember

/-- A text argument of a step. -/
def textArgument (step : Fields) (key : String) : Except Failure String := do
  match ← argument step key with
  | .text s => .ok s
  | _ => .error .wrongKind

/-- Shows what the store holds under a step's names. -/
def peek (step : Fields) : Scene Data := do
  let id ← Act.lift (idOf step)
  let store ← Act.cluster
  let name := (textAt? step "deployment").getD usualName
  let shown {α : Type} (fields : α → Fields) (found : Option α) : Data :=
    (found.map fun a => .object (fields a)).getD .null
  pure (.object
    [("webui", shown WebUI.fields (store.webui? id)),
      ("deployment", shown Deployment.fields (store.deployment? id.ns name))])

/-- Asks the operator for what a step says, and gives the answer as a document. -/
def ask (op : Operator Store (Recorder Script)) (step : Fields) : Scene Data := do
  match wordOf step with
  | "reconcile" =>
    let id ← Act.lift (idOf step)
    let result ← op.pass id
    pure (.object result.fields)
  | "set_status" =>
    let id ← Act.lift (idOf step)
    let phase ← Act.lift ((argument step "phase").bind phaseOf)
    let written ←
      Operator.reportStatus op.cluster ⟨id, phase, argumentOr step "message" (.text "")⟩
    pure (.bool written)
  | "owner_reference" =>
    let parent ← parentOf step
    pure (.object (Deployment.ownedBy op.settings.cluster parent).fields)
  | "link" =>
    let parent ← parentOf step
    let ns ← Act.lift
      (if step.has "target" then textArgument step "target" else textArgument step "namespace")
    let deployment ← op.link parent ns
    pure (.object deployment.fields)
  | "workflow" =>
    let spec ← Act.lift ((argument step "spec").bind fun spec => (WebUI.Spec.read spec).orFail)
    let target ← Act.lift (textArgument step "target")
    let task ← Act.lift ((argument step "action").bind taskOf)
    op.runPlaybook task spec target
    pure .null
  | "peek" => peek step
  | "get_webui" =>
    let id ← Act.lift (idOf step)
    let resource ← op.cluster.getWebUI id
    pure (.object resource.fields)
  | "update_webui" =>
    let object ← Act.lift (argument step "object")
    let resource ← Act.lift (WebUI.ofObject object)
    let stored ← op.cluster.updateWebUI resource
    pure (.object stored.fields)
  | "get_deployment" =>
    let id ← Act.lift (idOf step)
    let deployment ← op.cluster.getDeployment id.ns id.name
    pure (.object deployment.fields)
  | "update_owners" =>
    let document ← Act.lift (argument step "deployment")
    let deployment ← Act.lift (Deployment.read document).orFail
    let stored ← op.cluster.updateOwners deployment
    pure (.object stored.fields)
  | _ => Act.fail .badArgument

/-- Plays a step. The id that it names is read first. -/
def play (op : Operator Store (Recorder Script)) (step : Fields) : Scene Data := do
  match prepare? step with
  | some scene =>
    scene
    pure .null
  | none =>
    let _ ← Act.lift (idOf? step)
    ask op step

/-- The surroundings in which a rehearsal takes place. -/
abbrev Theatre := World Store (Recorder Script)

/-- What a step brought about. -/
structure Outcome where
  result : Except Failure Data
  events : List Event
  calls : List CallNote
  commands : List RecordedCall
  after : Theatre

/-- Plays a step and gathers what is new after it. -/
def observe (op : Operator Store (Recorder Script)) (step : Fields) (before : Theatre) : Outcome :=
  let (result, after) := (play op step).runOn before
  { result
    events := (after.journal.extract before.journal.size after.journal.size).toList
    calls := after.cluster.calls.drop before.cluster.calls.length
    commands := after.runner.calls.drop before.runner.calls.length
    after }

/-- Plays steps one after the other. -/
def observeAll (op : Operator Store (Recorder Script)) : List Fields → Theatre → List Outcome
  | [], _ => []
  | step :: rest, before =>
    let outcome := observe op step before
    outcome :: observeAll op rest outcome.after

end Rehearsal

end ConsoleKeeper
