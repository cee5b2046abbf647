import ConsoleKeeper.Cluster.Store
import ConsoleKeeper.Proofs.Act
import ConsoleKeeper.Proofs.Data.Table

/-!
# `ConsoleKeeper.Proofs.Cluster.Store`: the calls of a cluster in memory

A call is noted, and then it ends with the failure that waits for it or does its work. The equations
say how each call runs when none waits. `Scripted` stores let calls fail with cluster errors only,
and then each call is sound: it ends with a cluster error or not at all.
-/

set_option autoImplicit false

namespace ConsoleKeeper

/-- A failed cluster call. -/
def Failure.IsCluster (failure : Failure) : Prop :=
  ∃ e, failure = .operator e ∧ e.kind.isCluster = true

/-- An error of the operator. -/
def Failure.IsOperator (failure : Failure) : Prop :=
  ∃ e, failure = .operator e

namespace Store

variable {ρ : Type} {w : World Store ρ} {id : ResourceId} {resource : WebUI}
  {deployment current : Deployment} {ns name : String}

/-- The store after a call was noted. -/
def noted (store : Store) (call : CallNote) : Store :=
  { store with calls := store.calls ++ [call] }

/-- Noting a call leaves the resources as they are. -/
@[simp] theorem noted_webui? (store : Store) (call : CallNote) (id : ResourceId) :
    (store.noted call).webui? id = store.webui? id := rfl

/-- Noting a call leaves the deployments as they are. -/
@[simp] theorem noted_deployment? (store : Store) (call : CallNote) (ns name : String) :
    (store.noted call).deployment? ns name = store.deployment? ns name := rfl

/-- Putting a resource leaves the deployments as they are. -/
@[simp] theorem putWebUI_deployment? (store : Store) (resource : WebUI) (ns name : String) :
    (store.putWebUI resource).deployment? ns name = store.deployment? ns name := rfl

/-- The resource with an id after one was put. -/
theorem webui?_putWebUI (store : Store) (resource : WebUI) (id : ResourceId) :
    (store.putWebUI resource).webui? id =
      if id = resource.id then some resource else store.webui? id :=
  Table.get?_put store.webuis resource.id id resource

/-- The resource with an id after one was taken away. -/
theorem webui?_removeWebUI (store : Store) (id id' : ResourceId) :
    (store.removeWebUI id).webui? id' = if id' = id then none else store.webui? id' :=
  Table.get?_erase store.webuis id id'

/-- The deployment with a key after one was put. -/
theorem deployment?_putDeployment (store : Store) (deployment : Deployment) (ns name : String) :
    (store.putDeployment deployment).deployment? ns name =
      if (ns, name) = deployment.key then some deployment else store.deployment? ns name :=
  Table.get?_put store.deployments deployment.key (ns, name) deployment

/-- The deployment with a key after one was taken away. -/
theorem deployment?_removeDeployment (store : Store) (ns name ns' name' : String) :
    (store.removeDeployment ns name).deployment? ns' name' =
      if (ns', name') = (ns, name) then none else store.deployment? ns' name' :=
  Table.get?_erase store.deployments (ns, name) (ns', name')

/-- The cluster of a store gets resources from the store. -/
@[simp] theorem cluster_getWebUI (id : ResourceId) :
    (cluster : Cluster Store ρ).getWebUI id = getWebUI id := rfl

/-- The cluster of a store updates resources in the store. -/
@[simp] theorem cluster_updateWebUI (resource : WebUI) :
    (cluster : Cluster Store ρ).updateWebUI resource = updateWebUI resource := rfl

/-- The cluster of a store gets deployments from the store. -/
@[simp] theorem cluster_getDeployment (ns name : String) :
    (cluster : Cluster Store ρ).getDeployment ns name = getDeployment ns name := rfl

/-- The cluster of a store updates owners in the store. -/
@[simp] theorem cluster_updateOwners (deployment : Deployment) :
    (cluster : Cluster Store ρ).updateOwners deployment = updateOwners deployment := rfl

/-! ### Calls that are not to fail -/

/-- A call for which no failure waits is noted. -/
theorem answer_run {operation : Operation} (h : w.cluster.failures operation = []) :
    (answer operation ns name).runOn w =
      (.ok (), { w with cluster := w.cluster.noted ⟨operation, ns, name⟩ }) := by
  rw [answer, Act.runOn_bind_ok _ (Act.runOn_changeCluster _ w),
    Act.runOn_bind_ok _ (Act.runOn_cluster _)]
  simp only [h]
  rfl

/-- Reading a resource that is there. -/
theorem getWebUI_run (h : w.cluster.failures .getWebUI = [])
    (hr : w.cluster.webui? id = some resource) :
    (getWebUI id).runOn w =
      (.ok resource, { w with cluster := w.cluster.noted ⟨.getWebUI, id.ns, id.name⟩ }) := by
  rw [getWebUI, Act.runOn_bind_ok _ (answer_run h), Act.runOn_bind_ok _ (Act.runOn_cluster _)]
  simp only [noted_webui?, hr]
  rfl

/-- Writing a resource that is there. -/
theorem updateWebUI_run (h : w.cluster.failures .updateWebUI = []) {old : WebUI}
    (hr : w.cluster.webui? resource.id = some old) :
    (updateWebUI resource).runOn w =
      (.ok resource,
        { w with
          cluster := (w.cluster.noted
            ⟨.updateWebUI, resource.id.ns, resource.id.name⟩).putWebUI resource
          journal := w.journal.push (.resourceStored resource.id resource.status.phase) }) := by
  rw [updateWebUI, Act.runOn_bind_ok _ (answer_run h), Act.runOn_bind_ok _ (Act.runOn_cluster _)]
  simp only [noted_webui?, hr]
  rfl

/-- Reading a deployment that is there. -/
theorem getDeployment_run (h : w.cluster.failures .getDeployment = [])
    (hd : w.cluster.deployment? ns name = some deployment) :
    (getDeployment ns name).runOn w =
      (.ok deployment, { w with cluster := w.cluster.noted ⟨.getDeployment, ns, name⟩ }) := by
  rw [getDeployment, Act.runOn_bind_ok _ (answer_run h), Act.runOn_bind_ok _ (Act.runOn_cluster _)]
  simp only [noted_deployment?, hd]
  rfl

/-- Reading a deployment that is not there. -/
theorem getDeployment_run_absent (h : w.cluster.failures .getDeployment = [])
    (hd : w.cluster.deployment? ns name = none) :
    (getDeployment ns name).runOn w =
      (.error (.operator (.absent deploymentKind ns name)),
        { w with cluster := w.cluster.noted ⟨.getDeployment, ns, name⟩ }) := by
  rw [getDeployment, Act.runOn_bind_ok _ (answer_run h), Act.runOn_bind_ok _ (Act.runOn_cluster _)]
  simp only [noted_deployment?, hd]
  rfl

/-- Writing the owners of a deployment that is there. -/
theorem updateOwners_run (h : w.cluster.failures .updateOwners = [])
    (hd : w.cluster.deployment? deployment.ns deployment.name = some current)
    (hkey : current.key = deployment.key) :
    (updateOwners deployment).runOn w =
      (.ok { current with owners := deployment.owners },
        { w with
          cluster := (w.cluster.noted
            ⟨.updateOwners, deployment.ns, deployment.name⟩).putDeployment
              { current with owners := deployment.owners } }) := by
  rw [updateOwners, Act.runOn_bind_ok _ (answer_run h), Act.runOn_bind_ok _ (Act.runOn_cluster _)]
  -- The store puts a deployment under its own key, which is the one that was asked for.
  have hput : ({ current with owners := deployment.owners } : Deployment).key = deployment.key :=
    hkey
  simp only [noted_deployment?, hd, putDeployment, hput]
  rfl

/-- Reading a resource that is not there. -/
theorem getWebUI_run_absent (h : w.cluster.failures .getWebUI = [])
    (hr : w.cluster.webui? id = none) :
    (getWebUI id).runOn w =
      (.error (.operator (.absent webuiKind id.ns id.name)),
        { w with cluster := w.cluster.noted ⟨.getWebUI, id.ns, id.name⟩ }) := by
  rw [getWebUI, Act.runOn_bind_ok _ (answer_run h), Act.runOn_bind_ok _ (Act.runOn_cluster _)]
  simp only [noted_webui?, hr]
  rfl

/-- Writing a resource that is not there. -/
theorem updateWebUI_run_absent (h : w.cluster.failures .updateWebUI = [])
    (hr : w.cluster.webui? resource.id = none) :
    (updateWebUI resource).runOn w =
      (.error (.operator (.absent webuiKind resource.id.ns resource.id.name)),
        { w with
          cluster := w.cluster.noted ⟨.updateWebUI, resource.id.ns, resource.id.name⟩ }) := by
  rw [updateWebUI, Act.runOn_bind_ok _ (answer_run h), Act.runOn_bind_ok _ (Act.runOn_cluster _)]
  simp only [noted_webui?, hr]
  rfl

/-- Writing the owners of a deployment that is not there. -/
theorem updateOwners_run_absent (h : w.cluster.failures .updateOwners = [])
    (hd : w.cluster.deployment? deployment.ns deployment.name = none) :
    (updateOwners deployment).runOn w =
      (.error (.operator (.absent deploymentKind deployment.ns deployment.name)),
        { w with
          cluster := w.cluster.noted ⟨.updateOwners, deployment.ns, deployment.name⟩ }) := by
  rw [updateOwners, Act.runOn_bind_ok _ (answer_run h), Act.runOn_bind_ok _ (Act.runOn_cluster _)]
  simp only [noted_deployment?, hd]
  rfl

/-! ### Calls that fail -/

/-- Calls are told to fail with cluster errors only. -/
def Scripted (store : Store) : Prop :=
  ∀ operation, ∀ failure ∈ store.failures operation, failure.IsCluster

/-- Absence is a failure of the cluster. -/
theorem isCluster_absent (kind ns name : String) :
    Failure.IsCluster (.operator (.absent kind ns name)) :=
  ⟨_, rfl, rfl⟩

/-- A call notes itself, and ends with a cluster error or not at all. -/
theorem answer_sound (operation : Operation) (ns name : String) :
    Act.Sound Scripted Failure.IsCluster (answer operation ns name : Act Store ρ Unit) := by
  intro w outcome w' hrun hw
  cases hf : w.cluster.failures operation with
  | nil =>
    rw [answer_run hf] at hrun
    cases hrun
    exact ⟨hw, .of_eq rfl, fun _ he => by cases he⟩
  | cons failure rest =>
    rw [answer, Act.runOn_bind_ok _ (Act.runOn_changeCluster _ w),
      Act.runOn_bind_ok _ (Act.runOn_cluster _)] at hrun
    simp only [hf] at hrun
    cases hrun
    -- The script only loses its first failure, so what is left of it is still a script.
    refine ⟨fun o f hmem => ?_, World.Later.report w (.scriptedFailure _ _), fun _ he => ?_⟩
    · by_cases ho : o = operation
      · subst ho
        simp only [if_true] at hmem
        exact hw o f (by rw [hf]; exact List.mem_cons_of_mem failure hmem)
      · simp only [ho, if_false] at hmem
        exact hw o f hmem
    · cases he
      exact hw operation failure (by rw [hf]; exact List.mem_cons_self)

/-- Reading a resource. -/
theorem getWebUI_sound (id : ResourceId) :
    Act.Sound Scripted Failure.IsCluster (getWebUI id : Act Store ρ WebUI) := by
  refine (answer_sound _ _ _).bind fun _ => Act.Sound.cluster.bind fun store => ?_
  cases store.webui? id with
  | some resource => exact .pure resource
  | none => exact .fail (isCluster_absent _ _ _)

/-- Writing a resource. -/
theorem updateWebUI_sound (resource : WebUI) :
    Act.Sound Scripted Failure.IsCluster (updateWebUI resource : Act Store ρ WebUI) := by
  refine (answer_sound _ _ _).bind fun _ => Act.Sound.cluster.bind fun store => ?_
  cases store.webui? resource.id with
  | some old =>
    refine (Act.Sound.changeCluster ?_).bind fun _ => (Act.Sound.report rfl).bind fun _ =>
      .pure resource
    exact fun _ h => h
  | none => exact .fail (isCluster_absent _ _ _)

/-- Reading a deployment. -/
theorem getDeployment_sound (ns name : String) :
    Act.Sound Scripted Failure.IsCluster (getDeployment ns name : Act Store ρ Deployment) := by
  refine (answer_sound _ _ _).bind fun _ => Act.Sound.cluster.bind fun store => ?_
  cases store.deployment? ns name with
  | some deployment => exact .pure deployment
  | none => exact .fail (isCluster_absent _ _ _)

/-- Writing the owners of a deployment. -/
theorem updateOwners_sound (deployment : Deployment) :
    Act.Sound Scripted Failure.IsCluster (updateOwners deployment : Act Store ρ Deployment) := by
  refine (answer_sound _ _ _).bind fun _ => Act.Sound.cluster.bind fun store => ?_
  cases store.deployment? deployment.ns deployment.name with
  | some current =>
    refine (Act.Sound.changeCluster ?_).bind fun _ =>
      .pure { current with owners := deployment.owners }
    exact fun _ h => h
  | none => exact .fail (isCluster_absent _ _ _)

end Store

/-- Every call to a good cluster leaves it good, and ends with a cluster error or not at all. -/
structure Cluster.Sound {κ ρ : Type} (good : κ → Prop) (cluster : Cluster κ ρ) : Prop where
  getWebUI : ∀ id, (cluster.getWebUI id).Sound good Failure.IsCluster
  updateWebUI : ∀ resource, (cluster.updateWebUI resource).Sound good Failure.IsCluster
  getDeployment : ∀ ns name, (cluster.getDeployment ns name).Sound good Failure.IsCluster
  updateOwners : ∀ deployment, (cluster.updateOwners deployment).Sound good Failure.IsCluster

end ConsoleKeeper
