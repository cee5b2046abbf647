import ConsoleKeeper.Proofs.Cluster.Store

/-!
# `ConsoleKeeper.Proofs.Cluster.Effect`: what the calls leave of a store

Whether or not a failure waits for a call, the call is noted and uses that failure up: `answered` is
the store after that. The two readings do nothing else. The two writings may put one entry in the
place of another. Each `_effect` theorem says this of one call, for every script of failures.

A store is `Keyed` if each entry stands under its own name. `put` keeps a store so, and all that is
read from such a store can be written back to where it was found.
-/

set_option autoImplicit false

namespace ConsoleKeeper

/-- The resource without what was reported about it. -/
def WebUI.unreported (resource : WebUI) : WebUI :=
  { resource with status := {} }

/-- The deployment without its owners. -/
def Deployment.unowned (deployment : Deployment) : Deployment :=
  { deployment with owners := [] }

/-- The second world is the first with the given cluster, apart from the journal. -/
structure World.OnlyCluster {κ ρ : Type} (w : World κ ρ) (cluster : κ) (w' : World κ ρ) : Prop where
  cluster : w'.cluster = cluster
  runner : w'.runner = w.runner
  files : w'.files = w.files
  random : w'.random = w.random

namespace World.OnlyCluster

variable {κ ρ : Type} {w w' w'' : World κ ρ} {c c' : κ}

/-- Two changes of the cluster, the second of which counts. -/
theorem trans (h : OnlyCluster w c w') (h' : OnlyCluster w' c' w'') : OnlyCluster w c' w'' :=
  ⟨h'.cluster, h'.runner.trans h.runner, h'.files.trans h.files, h'.random.trans h.random⟩

/-- A report is no change but to the journal. -/
theorem report (h : OnlyCluster w c w') (event : Event) :
    OnlyCluster w c { w' with journal := w'.journal.push event } :=
  ⟨h.cluster, h.runner, h.files, h.random⟩

/-- A change of the cluster on top of what it is. -/
theorem change (h : OnlyCluster w c w') (f : κ → κ) :
    OnlyCluster w (f c) { w' with cluster := f w'.cluster } :=
  ⟨congrArg f h.cluster, h.runner, h.files, h.random⟩

end World.OnlyCluster

namespace Store

open World (OnlyCluster)

variable {ρ : Type} {store : Store} {call : CallNote}

/-- The store after a call was noted and the failure that waited for it, if there was one, was used
up. -/
def answered (store : Store) (call : CallNote) : Store :=
  { store with
    calls := store.calls ++ [call]
    failures := fun o =>
      if o = call.operation then (store.failures o).tail else store.failures o }

/-- Answering a call leaves the resources as they are. -/
@[simp] theorem answered_webui? (store : Store) (call : CallNote) (id : ResourceId) :
    (store.answered call).webui? id = store.webui? id := rfl

/-- Answering a call leaves the deployments as they are. -/
@[simp] theorem answered_deployment? (store : Store) (call : CallNote) (ns name : String) :
    (store.answered call).deployment? ns name = store.deployment? ns name := rfl

/-- A failure that still waits after a call has waited before it. -/
theorem mem_answered_failures {operation : Operation} {failure : Failure}
    (h : failure ∈ (store.answered call).failures operation) :
    failure ∈ store.failures operation := by
  simp only [answered] at h
  split at h
  · exact List.mem_of_mem_tail h
  · exact h

/-- How the next call of an operation is answered: with the failure that waits for it, if there is
one. -/
def verdict (store : Store) (operation : Operation) : Except Failure Unit :=
  match store.failures operation with
  | [] => .ok ()
  | failure :: _ => .error failure

/-- A call is answered, or it fails with one of the failures that wait for it. -/
theorem verdict_cases (store : Store) (operation : Operation) :
    store.verdict operation = .ok () ∨
      ∃ failure ∈ store.failures operation, store.verdict operation = .error failure := by
  unfold verdict
  cases store.failures operation with
  | nil => exact .inl rfl
  | cons failure rest => exact .inr ⟨failure, List.mem_cons_self, rfl⟩

/-! ### The calls -/

/-- Where no failure waits for a call, it is only noted. -/
theorem answered_eq_noted (call : CallNote) (h : store.failures call.operation = []) :
    store.answered call = store.noted call := by
  simp only [answered, noted, Store.mk.injEq, true_and, and_true]
  funext o
  -- An empty queue has an empty tail, so nothing but the call is new.
  split
  · next ho => rw [ho, h, List.tail_nil]
  · rfl

/-- A call ends with the failure that waits for it. -/
theorem answer_run_failing {operation : Operation} {ns name : String} {w : World Store ρ}
    {failure : Failure} {rest : List Failure} (h : w.cluster.failures operation = failure :: rest) :
    (answer operation ns name).runOn w =
      (.error failure,
        { w with
          cluster := w.cluster.answered ⟨operation, ns, name⟩
          journal := w.journal.push (.scriptedFailure operation.name failure.message) }) := by
  -- Scripted failures are written here as the store has them, and in `answered` as what is left
  -- of every queue.
  have hrest : w.cluster.answered ⟨operation, ns, name⟩ =
      { w.cluster.noted ⟨operation, ns, name⟩ with
        failures := fun o => if o = operation then rest else w.cluster.failures o } := by
    simp only [answered, noted, Store.mk.injEq, true_and, and_true]
    funext o
    split
    · next ho => rw [ho, h, List.tail_cons]
    · rfl
  rw [answer, Act.runOn_bind_ok _ (Act.runOn_changeCluster _ w),
    Act.runOn_bind_ok _ (Act.runOn_cluster _), hrest]
  simp only [h]
  rfl

/-- A call is answered. -/
theorem answer_effect (operation : Operation) (ns name : String) (w : World Store ρ) :
    ∃ w', (answer operation ns name).runOn w = (w.cluster.verdict operation, w') ∧
      OnlyCluster w (w.cluster.answered ⟨operation, ns, name⟩) w' := by
  unfold verdict
  cases hf : w.cluster.failures operation with
  | nil =>
    rw [answered_eq_noted ⟨operation, ns, name⟩ hf]
    exact ⟨_, answer_run hf, rfl, rfl, rfl, rfl⟩
  | cons failure rest => exact ⟨_, answer_run_failing hf, rfl, rfl, rfl, rfl⟩

/-- Reading a resource gives what stands under its id, or nothing. -/
theorem getWebUI_effect (id : ResourceId) (w : World Store ρ) :
    ∃ outcome w', (getWebUI id).runOn w = (outcome, w') ∧
      OnlyCluster w (w.cluster.answered ⟨.getWebUI, id.ns, id.name⟩) w' ∧
      ∀ resource, outcome = .ok resource → w.cluster.webui? id = some resource := by
  obtain ⟨w₁, hrun, honly⟩ := answer_effect .getWebUI id.ns id.name w
  obtain hv | ⟨failure, -, hv⟩ := w.cluster.verdict_cases .getWebUI <;> rw [hv] at hrun
  · rw [getWebUI, Act.runOn_bind_ok _ hrun, Act.runOn_bind_ok _ (Act.runOn_cluster _),
      honly.cluster]
    cases hr : w.cluster.webui? id with
    | some resource =>
      simp only [answered_webui?, hr]
      exact ⟨_, w₁, rfl, honly, fun _ h => by cases h; rfl⟩
    | none =>
      simp only [answered_webui?, hr]
      exact ⟨_, w₁, rfl, honly, fun _ h => by cases h⟩
  · rw [getWebUI, Act.runOn_bind_error _ hrun]
    exact ⟨_, w₁, rfl, honly, fun _ h => by cases h⟩

/-- Writing a resource fails, or it puts the resource where there was one. -/
theorem updateWebUI_effect (resource : WebUI) (w : World Store ρ) :
    ∃ outcome w', (updateWebUI resource).runOn w = (outcome, w') ∧
      ((OnlyCluster w (w.cluster.answered ⟨.updateWebUI, resource.id.ns, resource.id.name⟩) w' ∧
          ∃ failure, outcome = .error failure ∧
            (failure ∈ w.cluster.failures .updateWebUI ∨ failure.IsCluster)) ∨
        OnlyCluster w ((w.cluster.answered
            ⟨.updateWebUI, resource.id.ns, resource.id.name⟩).putWebUI resource) w' ∧
          outcome = .ok resource) := by
  obtain ⟨w₁, hrun, honly⟩ := answer_effect .updateWebUI resource.id.ns resource.id.name w
  obtain hv | ⟨failure, hmem, hv⟩ := w.cluster.verdict_cases .updateWebUI <;> rw [hv] at hrun
  · rw [updateWebUI, Act.runOn_bind_ok _ hrun, Act.runOn_bind_ok _ (Act.runOn_cluster _),
      honly.cluster]
    cases hr : w.cluster.webui? resource.id with
    | some old =>
      simp only [answered_webui?, hr]
      exact ⟨_, _, rfl, .inr ⟨(honly.change fun store => store.putWebUI resource).report _, rfl⟩⟩
    | none =>
      -- Nothing is put where nothing was, so a resource that is gone does not come back.
      simp only [answered_webui?, hr]
      exact ⟨_, w₁, rfl, .inl ⟨honly, _, rfl, .inr (isCluster_absent _ _ _)⟩⟩
  · rw [updateWebUI, Act.runOn_bind_error _ hrun]
    exact ⟨_, w₁, rfl, .inl ⟨honly, failure, rfl, .inl hmem⟩⟩

/-- Reading a deployment gives what stands under its key, or nothing. -/
theorem getDeployment_effect (ns name : String) (w : World Store ρ) :
    ∃ outcome w', (getDeployment ns name).runOn w = (outcome, w') ∧
      OnlyCluster w (w.cluster.answered ⟨.getDeployment, ns, name⟩) w' ∧
      ∀ deployment, outcome = .ok deployment → w.cluster.deployment? ns name = some deployment := by
  obtain ⟨w₁, hrun, honly⟩ := answer_effect .getDeployment ns name w
  obtain hv | ⟨failure, -, hv⟩ := w.cluster.verdict_cases .getDeployment <;> rw [hv] at hrun
  · rw [getDeployment, Act.runOn_bind_ok _ hrun, Act.runOn_bind_ok _ (Act.runOn_cluster _),
      honly.cluster]
    cases hd : w.cluster.deployment? ns name with
    | some deployment =>
      simp only [answered_deployment?, hd]
      exact ⟨_, w₁, rfl, honly, fun _ h => by cases h; rfl⟩
    | none =>
      simp only [answered_deployment?, hd]
      exact ⟨_, w₁, rfl, honly, fun _ h => by cases h⟩
  · rw [getDeployment, Act.runOn_bind_error _ hrun]
    exact ⟨_, w₁, rfl, honly, fun _ h => by cases h⟩

/-- The store with other owners of a deployment that it has. -/
def reowned (store : Store) (key : DeploymentKey) (current : Deployment)
    (owners : List OwnerReference) : Store :=
  { store with deployments := store.deployments.put key { current with owners } }

/-- Writing the owners of a deployment fails, or it changes the owners of one that is there. -/
theorem updateOwners_effect (deployment : Deployment) (w : World Store ρ) :
    ∃ outcome w', (updateOwners deployment).runOn w = (outcome, w') ∧
      ((OnlyCluster w
          (w.cluster.answered ⟨.updateOwners, deployment.ns, deployment.name⟩) w' ∧
          ∃ failure, outcome = .error failure) ∨
        ∃ current, w.cluster.deployment? deployment.ns deployment.name = some current ∧
          OnlyCluster w ((w.cluster.answered
            ⟨.updateOwners, deployment.ns, deployment.name⟩).reowned deployment.key current
              deployment.owners) w' ∧
          outcome = .ok { current with owners := deployment.owners }) := by
  obtain ⟨w₁, hrun, honly⟩ := answer_effect .updateOwners deployment.ns deployment.name w
  obtain hv | ⟨failure, -, hv⟩ := w.cluster.verdict_cases .updateOwners <;> rw [hv] at hrun
  · rw [updateOwners, Act.runOn_bind_ok _ hrun, Act.runOn_bind_ok _ (Act.runOn_cluster _),
      honly.cluster]
    cases hd : w.cluster.deployment? deployment.ns deployment.name with
    | some current =>
      -- The owners go into the deployment as it is now, not into the one that was passed in.
      simp only [answered_deployment?, hd]
      exact ⟨_, _, rfl, .inr ⟨current, rfl, honly.change fun store =>
        store.reowned deployment.key current deployment.owners, rfl⟩⟩
    | none =>
      simp only [answered_deployment?, hd]
      exact ⟨_, w₁, rfl, .inl ⟨honly, _, rfl⟩⟩
  · rw [updateOwners, Act.runOn_bind_error _ hrun]
    exact ⟨_, w₁, rfl, .inl ⟨honly, failure, rfl⟩⟩

/-! ### Entries under their own names -/

/-- Each entry stands under its own name. -/
structure Keyed (store : Store) : Prop where
  webuis : ∀ id resource, store.webui? id = some resource → resource.id = id
  deployments : ∀ ns name deployment,
    store.deployment? ns name = some deployment → deployment.key = (ns, name)

/-- Nothing in an empty store stands under a wrong name. -/
theorem keyed_empty : Keyed {} where
  webuis := by rintro id resource ⟨⟩
  deployments := by rintro ns name deployment ⟨⟩

/-- Other owners of a deployment leave the resources as they are. -/
@[simp] theorem reowned_webui? (store : Store) (key : DeploymentKey) (current : Deployment)
    (owners : List OwnerReference) (id : ResourceId) :
    (store.reowned key current owners).webui? id = store.webui? id := rfl

/-- The deployment with a key after one got other owners. -/
theorem deployment?_reowned (store : Store) (key : DeploymentKey) (current : Deployment)
    (owners : List OwnerReference) (ns name : String) :
    (store.reowned key current owners).deployment? ns name =
      if (ns, name) = key then some { current with owners } else store.deployment? ns name :=
  Table.get?_put store.deployments key (ns, name) { current with owners }

/-- Answering a call keeps every entry under its name. -/
theorem Keyed.answered (h : store.Keyed) (call : CallNote) : (store.answered call).Keyed :=
  ⟨h.webuis, h.deployments⟩

/-- A resource is put under its own id. -/
theorem Keyed.putWebUI (h : store.Keyed) (resource : WebUI) : (store.putWebUI resource).Keyed := by
  refine ⟨fun id found hfound => ?_, h.deployments⟩
  rw [webui?_putWebUI] at hfound
  split at hfound
  · next hid =>
    cases hfound
    exact hid.symm
  · exact h.webuis id found hfound

/-- What is left after a resource was removed stands where it stood. -/
theorem Keyed.removeWebUI (h : store.Keyed) (id : ResourceId) : (store.removeWebUI id).Keyed := by
  refine ⟨fun id' found hfound => ?_, h.deployments⟩
  rw [webui?_removeWebUI] at hfound
  split at hfound
  · cases hfound
  · exact h.webuis id' found hfound

/-- A deployment is put under its own key. -/
theorem Keyed.putDeployment (h : store.Keyed) (deployment : Deployment) :
    (store.putDeployment deployment).Keyed := by
  refine ⟨h.webuis, fun ns name found hfound => ?_⟩
  rw [deployment?_putDeployment] at hfound
  split at hfound
  · next hkey =>
    cases hfound
    exact hkey.symm
  · exact h.deployments ns name found hfound

/-- What is left after a deployment was removed stands where it stood. -/
theorem Keyed.removeDeployment (h : store.Keyed) (ns name : String) :
    (store.removeDeployment ns name).Keyed := by
  refine ⟨h.webuis, fun ns' name' found hfound => ?_⟩
  rw [deployment?_removeDeployment] at hfound
  split at hfound
  · cases hfound
  · exact h.deployments ns' name' found hfound

/-- A deployment with other owners has the key that it had. -/
theorem Keyed.reowned {key : DeploymentKey} {current : Deployment} (h : store.Keyed)
    (hkey : current.key = key) (owners : List OwnerReference) :
    (store.reowned key current owners).Keyed := by
  subst hkey
  -- The key is made of the namespace and the name, which the new owners leave alone.
  exact h.putDeployment { current with owners }

end Store

end ConsoleKeeper
