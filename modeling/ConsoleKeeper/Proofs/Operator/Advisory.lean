import ConsoleKeeper.DryRun
import ConsoleKeeper.Proofs.Command.Recorder
import ConsoleKeeper.Proofs.Operator.Reporting
import ConsoleKeeper.Proofs.Operator.Starts

/-!
# `ConsoleKeeper.Proofs.Operator.Advisory`: no decision reads a status

Two worlds are the same but for statuses (`Unadvised`) if they have the same runner, files and
source of random bytes, and stores that differ in the statuses of their resources and in the script
of failures for writing these. Their journals may differ, since a journal tells about statuses too.

`passes_unadvised` compares passes from two such worlds. Reports of a status may be written in the
one and fail in the other, and still both passes start the same commands, end alike, and leave the
same deployments. What runs the commands must not look at statuses either: it has to agree with
itself between such worlds. `recorder_agrees` shows that a recorder does if its hook does.
-/

set_option autoImplicit false

namespace ConsoleKeeper

namespace Store

variable {store store' : Store}

/-- The store without its statuses and without the script for writing them. -/
def unreported (store : Store) : Store :=
  { store with
    webuis := store.webuis.map fun entry => (entry.1, entry.2.unreported)
    failures := fun o => if o = .updateWebUI then [] else store.failures o }

/-- A resource of the store without reports is one without its report. -/
theorem webui?_unreported (store : Store) (id : ResourceId) :
    store.unreported.webui? id = (store.webui? id).map WebUI.unreported :=
  Table.get?_map WebUI.unreported store.webuis id

/-- Whether a call is answered first or the reports are left out, the store is the same. -/
theorem unreported_answered (store : Store) (call : CallNote) :
    (store.answered call).unreported = store.unreported.answered call := by
  simp only [unreported, answered, Store.mk.injEq, true_and, and_true]
  funext o
  -- Without its script, a write finds nothing to use up.
  by_cases ho : o = .updateWebUI
  · simp [ho]
  · simp [ho]

/-- A resource that is put where only its status is new changes nothing else. -/
theorem unreported_putWebUI {resource old : WebUI} (hold : store.webui? resource.id = some old)
    (hsame : resource.unreported = old.unreported) :
    (store.putWebUI resource).unreported = store.unreported := by
  simp only [unreported, putWebUI, Store.mk.injEq, and_true]
  exact Table.map_put WebUI.unreported hold hsame

/-- A status that is written or not changes nothing else of a store. -/
theorem unreported_reported {resource : WebUI} {phase : Phase} {message : String} {after : Store}
    (hkeyed : store.Keyed) (hfound : store.webui? resource.id = some resource)
    (hafter : after = store ∨ after = store.putWebUI (Operator.reported resource phase message)) :
    after.unreported = store.unreported ∧ after.Keyed ∧ after.failures = store.failures := by
  obtain rfl | rfl := hafter
  · exact ⟨rfl, hkeyed, rfl⟩
  · exact ⟨unreported_putWebUI hfound rfl, hkeyed.putWebUI _, rfl⟩

/-- Two stores are the same but for statuses and for the cluster errors that writing them is to end
with. Their entries stand under their own names. -/
structure Unadvised (store store' : Store) : Prop where
  same : store'.unreported = store.unreported
  keyed : store.Keyed
  keyed' : store'.Keyed
  script : ∀ failure ∈ store.failures .updateWebUI, failure.IsCluster
  script' : ∀ failure ∈ store'.failures .updateWebUI, failure.IsCluster

namespace Unadvised

/-- The deployments are the same. -/
theorem deployments (h : Unadvised store store') : store'.deployments = store.deployments :=
  congrArg (fun s => s.deployments) h.same

/-- The same failures wait for every call that is no report. -/
theorem failures (h : Unadvised store store') {operation : Operation}
    (hop : operation ≠ .updateWebUI) : store'.failures operation = store.failures operation := by
  have hsame := congrFun (congrArg Store.failures h.same) operation
  simpa [unreported, hop] using hsame

/-- The resource with an id is the same, apart from what was reported. -/
theorem webui? (h : Unadvised store store') (id : ResourceId) :
    (store'.webui? id).map WebUI.unreported = (store.webui? id).map WebUI.unreported := by
  rw [← webui?_unreported, h.same, webui?_unreported]

/-- A call that both stores answer leaves them alike. -/
theorem answered (h : Unadvised store store') (call : CallNote) :
    Unadvised (store.answered call) (store'.answered call) where
  same := by rw [unreported_answered, unreported_answered, h.same]
  keyed := h.keyed.answered call
  keyed' := h.keyed'.answered call
  script _ hmem := h.script _ (mem_answered_failures hmem)
  script' _ hmem := h.script' _ (mem_answered_failures hmem)

/-- The same change of the deployments on both sides. -/
theorem withDeployments (h : Unadvised store store')
    (f : Table DeploymentKey Deployment → Table DeploymentKey Deployment)
    (hf : ∀ store : Store, store.Keyed → Keyed { store with deployments := f store.deployments }) :
    Unadvised { store with deployments := f store.deployments }
      { store' with deployments := f store'.deployments } where
  same := by
    -- The stores are the same but for their statuses and scripts, and `f` sees neither.
    have hdeployments := h.deployments
    have hsame := h.same
    simp only [unreported, Store.mk.injEq] at hsame ⊢
    simpa [hdeployments] using hsame
  keyed := hf store h.keyed
  keyed' := hf store' h.keyed'
  script := h.script
  script' := h.script'

/-- The same owners in both stores leave them alike. -/
theorem reowned (h : Unadvised store store') {key : DeploymentKey} {current : Deployment}
    (hkey : current.key = key) (owners : List OwnerReference) :
    Unadvised (store.reowned key current owners) (store'.reowned key current owners) :=
  h.withDeployments (·.put key { current with owners }) fun _ hstore => hstore.reowned hkey owners

/-- The same deployment put into both stores leaves them alike. -/
theorem putDeployment (h : Unadvised store store') (deployment : Deployment) :
    Unadvised (store.putDeployment deployment) (store'.putDeployment deployment) :=
  h.withDeployments (·.put deployment.key deployment) fun _ hstore =>
    hstore.putDeployment deployment

/-- The same deployment removed from both stores leaves them alike. -/
theorem removeDeployment (h : Unadvised store store') (ns name : String) :
    Unadvised (store.removeDeployment ns name) (store'.removeDeployment ns name) :=
  h.withDeployments (·.erase (ns, name)) fun _ hstore => hstore.removeDeployment ns name

/-- A new deployment gets the same uid on both sides. -/
theorem newDeployment (h : Unadvised store store') (ns image name containerName : String) :
    (store'.newDeployment ns image name containerName).1 =
        (store.newDeployment ns image name containerName).1 ∧
      Unadvised (store.newDeployment ns image name containerName).2
        (store'.newDeployment ns image name containerName).2 := by
  have hissued : store'.unreported.issued = store.unreported.issued := by rw [h.same]
  replace hissued : store'.issued = store.issued := hissued
  refine ⟨by simp only [Store.newDeployment, issueUid, hissued], ?_, ?_, ?_, h.script, h.script'⟩
  · have hsame := h.same
    simp only [unreported, Store.newDeployment, issueUid, Store.mk.injEq] at hsame ⊢
    simpa [hissued] using hsame
  · exact ⟨h.keyed.webuis, h.keyed.deployments⟩
  · exact ⟨h.keyed'.webuis, h.keyed'.deployments⟩

/-- A status that is written on one side or on both, or on neither, does not tell the stores apart.
-/
theorem reported {resource resource' : WebUI} {phase : Phase} {message : String}
    {after after' : Store} (h : Unadvised store store')
    (hfound : store.webui? resource.id = some resource)
    (hfound' : store'.webui? resource'.id = some resource')
    (hafter : after = store ∨ after = store.putWebUI (Operator.reported resource phase message))
    (hafter' : after' = store' ∨
      after' = store'.putWebUI (Operator.reported resource' phase message)) :
    Unadvised after after' := by
  obtain ⟨hu, hk, hf⟩ := unreported_reported h.keyed hfound hafter
  obtain ⟨hu', hk', hf'⟩ := unreported_reported h.keyed' hfound' hafter'
  exact ⟨by rw [hu', hu, h.same], hk, hk', by rw [hf]; exact h.script, by rw [hf']; exact h.script'⟩

end Unadvised

end Store

/-- Two worlds are the same but for statuses, for the cluster errors that writing them is to end
with, and for their journals. -/
structure World.Unadvised {ρ : Type} (w w' : World Store ρ) : Prop where
  cluster : w.cluster.Unadvised w'.cluster
  runner : w'.runner = w.runner
  files : w'.files = w.files
  random : w'.random = w.random

namespace World.Unadvised

variable {ρ : Type} {w w' w₁ w₁' : World Store ρ} {store store' : Store}

/-- Two worlds that get stores of this kind are of this kind. -/
theorem onlyCluster (h : Unadvised w w') (hc : store.Unadvised store') (h₁ : w.OnlyCluster store w₁)
    (h₁' : w'.OnlyCluster store' w₁') : Unadvised w₁ w₁' where
  cluster := by rwa [h₁.cluster, h₁'.cluster]
  runner := by rw [h₁.runner, h₁'.runner, h.runner]
  files := by rw [h₁.files, h₁'.files, h.files]
  random := by rw [h₁.random, h₁'.random, h.random]

/-- Worlds whose stores are alike share all else. -/
theorem shared : Act.Shared (Unadvised : World Store ρ → World Store ρ → Prop) where
  files _ _ h := h.files
  random _ _ h := h.random
  withFiles _ _ h _ := ⟨h.cluster, h.runner, rfl, h.random⟩
  withRandom _ _ h _ := ⟨h.cluster, h.runner, h.files, rfl⟩
  report _ _ h _ := ⟨h.cluster, h.runner, h.files, h.random⟩

end World.Unadvised

/-! ### The calls of a store -/

namespace Store

open Act (Agrees)

variable {ρ : Type}

/-- Two reads of the clusters give stores that are alike. -/
theorem cluster_agrees :
    Agrees World.Unadvised Unadvised (Act.cluster : Act Store ρ Store) Act.cluster :=
  fun _ _ hw => ⟨.value hw.cluster, hw⟩

/-- A change of the store on both sides. -/
theorem changeCluster_agrees {f f' : Store → Store}
    (hf : ∀ store store', Unadvised store store' → Unadvised (f store) (f' store')) :
    Agrees World.Unadvised Eq (Act.changeCluster f : Act Store ρ Unit) (Act.changeCluster f') :=
  fun _ _ hw => ⟨.value rfl, hf _ _ hw.cluster, hw.runner, hw.files, hw.random⟩

/-- A call other than the writing of a status is answered alike. -/
theorem answer_agrees {operation : Operation} (hop : operation ≠ .updateWebUI) (ns name : String) :
    Agrees World.Unadvised Eq (answer operation ns name : Act Store ρ Unit)
      (answer operation ns name) := by
  intro w w' hw
  obtain ⟨w₁, hrun, h₁⟩ := answer_effect operation ns name w
  obtain ⟨w₁', hrun', h₁'⟩ := answer_effect operation ns name w'
  have hverdict : w'.cluster.verdict operation = w.cluster.verdict operation := by
    simp only [verdict, hw.cluster.failures hop]
  rw [hrun, hrun', hverdict]
  exact ⟨.refl _, hw.onlyCluster (hw.cluster.answered _) h₁ h₁'⟩

/-- A resource is read alike, but for its status. -/
theorem getWebUI_agrees (id : ResourceId) :
    Agrees World.Unadvised (Operator.SameWish (· = id)) (getWebUI id : Act Store ρ WebUI)
      (getWebUI id) := by
  refine (answer_agrees (by decide) _ _).bind fun _ _ _ => cluster_agrees.bind ?_
  intro store store' h
  have hsame := h.webui? id
  cases hr : store.webui? id with
  | none =>
    rw [hr] at hsame
    rw [Option.map_eq_none_iff.mp hsame]
    exact .fail _
  | some resource =>
    rw [hr] at hsame
    obtain ⟨resource', hr', hunreported⟩ := Option.map_eq_some_iff.mp hsame
    rw [hr']
    -- Equal up to the status: every other field is the same.
    have hfield := fun {β : Type} (f : WebUI → β) => congrArg f hunreported
    exact .pure ⟨h.keyed.webuis id resource hr, hfield (·.id), hfield (·.uid),
      hfield (·.apiVersion), hfield (·.kind), hfield (·.spec)⟩

/-- A deployment is read alike. -/
theorem getDeployment_agrees (ns name : String) :
    Agrees World.Unadvised Eq (getDeployment ns name : Act Store ρ Deployment)
      (getDeployment ns name) := by
  refine (answer_agrees (by decide) _ _).bind fun _ _ _ => cluster_agrees.bind ?_
  intro store store' h
  have hsame : store'.deployment? ns name = store.deployment? ns name := by
    simp only [deployment?, h.deployments]
  rw [hsame]
  cases store.deployment? ns name with
  | none => exact .fail _
  | some deployment => exact .pure rfl

/-- The owners of a deployment are written alike. -/
theorem updateOwners_agrees (deployment : Deployment) :
    Agrees World.Unadvised Eq (updateOwners deployment : Act Store ρ Deployment)
      (updateOwners deployment) := by
  refine (answer_agrees (by decide) _ _).bind fun _ _ _ => cluster_agrees.bind ?_
  intro store store' h
  -- Statuses are parts of resources, so both stores have the same deployments.
  have hsame : store'.deployment? deployment.ns deployment.name =
      store.deployment? deployment.ns deployment.name := by
    simp only [deployment?, h.deployments]
  rw [hsame]
  cases hd : store.deployment? deployment.ns deployment.name with
  | none => exact .fail _
  | some current =>
    have hkey : current.key = deployment.key := h.keyed.deployments _ _ current hd
    have hchange : Agrees World.Unadvised Eq
        (Act.changeCluster fun store => store.reowned deployment.key current deployment.owners :
          Act Store ρ Unit) _ :=
      changeCluster_agrees fun _ _ hstore => hstore.reowned hkey deployment.owners
    exact hchange.bind fun _ _ _ => .pure rfl

end Store

namespace Operator

open Act (Agrees)

variable {ρ : Type}

/-- A status is reported alike, whatever becomes of it. -/
theorem setStatus_unadvised {op : Operator Store ρ} (hop : op.cluster = Store.cluster)
    (id : ResourceId) (phase : Phase) (message : String) :
    Agrees World.Unadvised Eq (op.setStatus id phase message) (op.setStatus id phase message) := by
  rw [setStatus, hop]
  suffices h : Agrees World.Unadvised (fun _ _ => True)
      (reportStatus Store.cluster ⟨id, phase, .text message⟩ : Act Store ρ Bool)
      (reportStatus Store.cluster ⟨id, phase, .text message⟩) from h.discard
  intro w w' hw
  obtain ⟨hend, hw₁⟩ := Store.getWebUI_agrees id hw
  obtain ⟨x, w₁, hrun, honly, hfound⟩ := Store.getWebUI_effect id w
  obtain ⟨x', w₁', hrun', honly', hfound'⟩ := Store.getWebUI_effect id w'
  rw [hrun, hrun'] at hend hw₁
  simp only [reportStatus, Store.cluster_getWebUI]
  cases hend with
  | failure f =>
    cases hpick : f.cluster? with
    | some e =>
      rw [Act.runOn_bind_ok _ (Act.runOn_catching_some hrun hpick),
        Act.runOn_bind_ok _ (Act.runOn_catching_some hrun' hpick)]
      exact ⟨.value trivial, World.Unadvised.shared.report hw₁ _⟩
    | none =>
      rw [Act.runOn_bind_error _ (Act.runOn_catching_none hrun hpick),
        Act.runOn_bind_error _ (Act.runOn_catching_none hrun' hpick)]
      exact ⟨.failure f, hw₁⟩
  | @value resource resource' hwish =>
    rw [Act.runOn_bind_ok _ (Act.runOn_catching_ok hrun),
      Act.runOn_bind_ok _ (Act.runOn_catching_ok hrun')]
    -- From here on the runs differ: each write succeeds or fails by its own script.
    obtain ⟨_, store, w₂, hwrite, h₂, hstore, hok⟩ :=
      writeStatus_effect id phase message resource w₁
    obtain ⟨_, store', w₂', hwrite', h₂', hstore', hok'⟩ :=
      writeStatus_effect id phase message resource' w₁'
    obtain ⟨b, rfl⟩ := hok hw₁.cluster.script
    obtain ⟨b', rfl⟩ := hok' hw₁.cluster.script'
    -- Still, each side writes into the resource that it has just read.
    have hthere : w₁.cluster.webui? resource.id = some resource := by
      rw [honly.cluster, Store.answered_webui?, hwish.named, hfound resource rfl]
    have hthere' : w₁'.cluster.webui? resource'.id = some resource' := by
      rw [honly'.cluster, Store.answered_webui?, hwish.id, hwish.named, hfound' resource' rfl]
    rw [hwish.id] at hstore'
    have hasked := hw₁.cluster.answered ⟨.updateWebUI, resource.id.ns, resource.id.name⟩
    dsimp only
    rw [hwrite, hwrite']
    exact ⟨.value trivial,
      hw₁.onlyCluster (hasked.reported hthere hthere' hstore hstore') h₂ h₂'⟩

/-- An operator over a store works alongside itself, whatever the statuses, if its runner and its
source of credentials do not look at them. -/
theorem alongside_unadvised {op : Operator Store ρ} (hop : op.cluster = Store.cluster)
    (hrunner : ∀ command, Agrees World.Unadvised Eq (op.runner command) (op.runner command))
    (hcredentials : Agrees World.Unadvised Eq op.credentials op.credentials) (id : ResourceId) :
    Alongside World.Unadvised (· = id) (fun _ => True) op op where
  shared := World.Unadvised.shared
  settings := rfl
  getWebUI := by
    rintro _ rfl
    rw [hop]
    exact Store.getWebUI_agrees _
  getDeployment id' _ := by
    rw [hop]
    exact (Store.getDeployment_agrees _ _).mono fun _ _ h => ⟨h.symm, trivial⟩
  updateOwners deployment _ := by
    rw [hop]
    exact Store.updateOwners_agrees deployment
  setStatus id' _ := setStatus_unadvised hop id'
  runner := hrunner
  credentials := hcredentials

/-- Passes from two worlds that are the same but for statuses and for the cluster errors that
writing them is to end with start the same commands in the same order, end with the same result or
the same error, and leave the same deployments, if neither the runner nor the source of credentials
looks at statuses. -/
theorem passes_unadvised {ρ : Type} (settings : Settings) (runner : Runner Store ρ)
    (credentials : Act Store ρ Credentials) (id : ResourceId) (w w' : World Store ρ)
    (hrunner : ∀ command, Agrees World.Unadvised Eq (runner command) (runner command))
    (hcredentials : Agrees World.Unadvised Eq credentials credentials) (hw : w.Unadvised w') :
    let op : Operator Store ρ := { settings, cluster := Store.cluster, runner, credentials }
    ((op.pass id).runOn w').1 = ((op.pass id).runOn w).1 ∧
      (op.passStarts id w').map Start.command = (op.passStarts id w).map Start.command ∧
      ((op.pass id).runOn w').2.cluster.deployments =
        ((op.pass id).runOn w).2.cluster.deployments ∧
      ((op.pass id).runOn w).2.Unadvised ((op.pass id).runOn w').2 := by
  intro op
  have halong : Alongside World.Unadvised (· = id) (fun _ => True) op op :=
    alongside_unadvised rfl hrunner hcredentials id
  obtain ⟨hend, hcommands, hafter⟩ := passes_alongside halong rfl hw
  exact ⟨hend, hcommands, hafter.cluster.deployments, hafter⟩

/-- A recorder does not look at statuses if its hook does not. -/
theorem recorder_agrees {η : Type} {hook : Command → Act Store (Recorder η) Unit}
    (hhook : ∀ command, Agrees World.Unadvised Eq (hook command) (hook command))
    (command : Command) :
    Agrees World.Unadvised Eq (Recorder.run hook command) (Recorder.run hook command) :=
  Recorder.run_agrees World.Unadvised.shared (fun _ _ hw => hw.runner)
    (fun _ _ hw _ => ⟨hw.cluster, rfl, hw.files, hw.random⟩) hhook command

/-- What an inventory says does not depend on statuses. -/
theorem inventoryAt_agrees (path : String) :
    Agrees World.Unadvised Eq (DryRun.inventoryAt path) (DryRun.inventoryAt path) := by
  refine Agrees.look.bind fun world world' hworld => ?_
  rw [hworld.files]
  refine (Agrees.lift (.refl _)).bind ?_
  rintro text _ rfl
  exact .pure rfl

/-- The playbook of a dry run does not look at statuses. -/
theorem simulate_agrees (command : Command) :
    Agrees World.Unadvised Eq (DryRun.simulate command) (DryRun.simulate command) := by
  -- The inventory and the image are read from what both worlds share; only the last step changes
  -- the store, and it changes deployments.
  unfold DryRun.simulate
  split
  · refine (Agrees.lift (.refl _)).bind ?_
    rintro path _ rfl
    refine (inventoryAt_agrees path).bind ?_
    rintro values _ rfl
    refine (Agrees.lift (.refl _)).bind ?_
    rintro word _ rfl
    split
    · refine (Agrees.lift (.refl _)).bind ?_
      rintro image _ rfl
      refine Store.changeCluster_agrees fun store store' hstore => ?_
      obtain ⟨hsame, hissued⟩ := hstore.newDeployment DryRun.ns image DryRun.consoleName
        DryRun.consoleName
      dsimp only
      rw [hsame]
      exact hissued.putDeployment _
    · exact Store.changeCluster_agrees fun store store' hstore =>
        hstore.removeDeployment DryRun.ns DryRun.consoleName
  · exact .pure rfl

/-- A store with the resource of the troubled one, in which an earlier pass has reported and no call
is to fail. -/
def reportedStore : Store :=
  ({} : Store).putWebUI
    { id := ⟨"ns", "ui"⟩, uid := "u1", spec := { version := "v1.4" },
      status := { phase := some .provisioned, message := finishedMessage .provision } }

/-- The two stores differ only in what was reported. -/
theorem unadvised_troubledStore : reportedStore.Unadvised troubledStore where
  same := by
    -- The scripts are functions, so they are compared operation by operation.
    have hfailures : troubledStore.unreported.failures = reportedStore.unreported.failures := by
      funext o
      cases o <;> rfl
    show Store.mk _ _ troubledStore.unreported.failures _ _ = _
    rw [hfailures]
    rfl
  keyed := Store.keyed_empty.putWebUI _
  keyed' := keyed_troubledStore
  script := by rintro failure ⟨⟩
  script' := scripted_troubledStore .updateWebUI

/-- Passes over both stores, with the recorder of a dry run. -/
theorem passes_unadvised_troubledStore :
    let op : Operator Store (Recorder Unit) :=
      { settings := {}, cluster := Store.cluster, runner := Recorder.run DryRun.simulate,
        credentials := pure default }
    let w := furnished reportedStore
    let w' := furnished troubledStore
    ((op.pass ⟨"ns", "ui"⟩).runOn w').1 = ((op.pass ⟨"ns", "ui"⟩).runOn w).1 ∧
      (op.passStarts ⟨"ns", "ui"⟩ w').map Start.command =
        (op.passStarts ⟨"ns", "ui"⟩ w).map Start.command ∧
      ((op.pass ⟨"ns", "ui"⟩).runOn w').2.cluster.deployments =
        ((op.pass ⟨"ns", "ui"⟩).runOn w).2.cluster.deployments ∧
      ((op.pass ⟨"ns", "ui"⟩).runOn w).2.Unadvised ((op.pass ⟨"ns", "ui"⟩).runOn w').2 := by
  intro op w w'
  have hw : w.Unadvised w' := ⟨unadvised_troubledStore, rfl, rfl, rfl⟩
  exact passes_unadvised {} (Recorder.run DryRun.simulate) (pure default) ⟨"ns", "ui"⟩ w w'
    (recorder_agrees simulate_agrees) (.pure rfl) hw

end Operator

end ConsoleKeeper
