import ConsoleKeeper.Operator.Ownership
import ConsoleKeeper.Proofs.Operator.Reporting

/-!
# `ConsoleKeeper.Proofs.Operator.Ownership`: the link of a deployment to its resource

A link reads the deployment and looks at its first controlling owner. There are five ways to the end
of a link over a store, and `LinkEnd` has a case for each of them: the deployment cannot be read, it
is the resource's already, it is another's, its owners cannot be written, or they are written.

`link_ends` shows that a link takes one of these ways, whichever calls fail. Three of them refuse
the link. What a refusal leaves is `Declined`: a status was asked for, and nothing else was done.

`link_keeps_contract` reads from the five ways what a link owes. A deployment that it gives is
stored and is the resource's, and a second link finds it so. A refusal leaves every deployment as it
was. It has a code of its own if and only if the deployment is another's, and then no owners were
written.
-/

set_option autoImplicit false

namespace ConsoleKeeper

namespace Deployment

variable {deployment : Deployment}

/-- A deployment that nothing controlled is controlled by the owner that was added. -/
theorem controller?_withOwner (h : deployment.controller? = none) (settings : ClusterSettings)
    (parent : WebUI) :
    (deployment.withOwner settings parent).controller? = some (ownedBy settings parent) := by
  have hothers : (deployment.owners.filter (·.uid ≠ parent.uid)).find? (·.controller) = none := by
    rw [List.find?_eq_none]
    intro owner hmem
    exact List.find?_eq_none.mp h owner (List.mem_filter.mp hmem).1
  rw [controller?, withOwner, List.find?_append, hothers]
  rfl

/-- A resource controls a deployment if the controlling owner has its uid. -/
theorem isControlledBy_iff {uid : String} :
    deployment.isControlledBy uid = true ↔
      ∃ owner, deployment.controller? = some owner ∧ owner.uid = uid := by
  unfold isControlledBy
  cases deployment.controller? <;> simp

/-- A deployment that nothing controls is not controlled by a certain owner. -/
theorem isControlledBy_of_none {uid : String} (h : deployment.controller? = none) :
    deployment.isControlledBy uid = false := by
  rw [isControlledBy, h]

/-- The second deployment is the first with a resource as its owner. It has no other field that is
different, the owners with other uids stand in front in their order, and there is one controlling
owner and one with the uid of the resource. -/
structure Claimed (settings : ClusterSettings) (parent : WebUI) (found deployment : Deployment) :
    Prop where
  eq : deployment = { found with
    owners := found.owners.filter (·.uid ≠ parent.uid) ++ [ownedBy settings parent] }
  controlling : deployment.owners.filter (·.controller) = [ownedBy settings parent]
  sameUid : deployment.owners.filter (·.uid = parent.uid) = [ownedBy settings parent]

/-- A deployment that nothing controlled, with a resource as its owner. -/
theorem claimed_withOwner (h : deployment.controller? = none) (settings : ClusterSettings)
    (parent : WebUI) :
    Claimed settings parent deployment (deployment.withOwner settings parent) := by
  have hfree := List.find?_eq_none.mp h
  refine ⟨rfl, ?_, ?_⟩
  · -- None of the owners that are kept controls the deployment.
    have hkept : (deployment.owners.filter (·.uid ≠ parent.uid)).filter (·.controller) = [] := by
      rw [List.filter_eq_nil_iff]
      exact fun owner hmem => hfree owner (List.mem_filter.mp hmem).1
    rw [withOwner, List.filter_append, hkept]
    rfl
  · have hkept : (deployment.owners.filter (·.uid ≠ parent.uid)).filter (·.uid = parent.uid) =
        [] := by
      rw [List.filter_eq_nil_iff]
      exact fun owner hmem => by simpa using (List.mem_filter.mp hmem).2
    have hadded : (ownedBy settings parent).uid = parent.uid := rfl
    rw [withOwner, List.filter_append, hkept, List.nil_append, List.filter_cons_of_pos]
    · rfl
    · simpa using hadded

end Deployment

namespace Operator

open World (OnlyCluster Later)

variable {ρ : Type} {op : Operator Store ρ} {parent : WebUI} {ns message : String}
  {w w₁ w' : World Store ρ} {id : ResourceId} {store : Store}

/-! ### Refusals -/

/-- The report of a status leaves all deployments. -/
theorem Reported.deployments {phase : Phase} {after : Store}
    (h : Reported store id phase message after) : after.deployments = store.deployments := by
  cases h <;> rfl

/-- The report of a status asks for the resource first, and for no deployment. -/
theorem Reported.calls {phase : Phase} {after : Store}
    (h : Reported store id phase message after) :
    ∃ more, after.calls = store.calls ++ ⟨.getWebUI, id.ns, id.name⟩ :: more ∧
      ∀ call ∈ more, call.operation = .updateWebUI := by
  cases h with
  | unread => exact ⟨[], rfl, fun _ hmem => by cases hmem⟩
  | unwritten _ | written _ =>
    refine ⟨[_], List.append_assoc _ _ _, fun call hmem => ?_⟩
    rw [List.mem_singleton.mp hmem]

/-- A link is refused from a store on: the status is asked for, and nothing else is done. -/
structure Declined (w : World Store ρ) (id : ResourceId) (message : String) (store : Store)
    (w' : World Store ρ) : Prop where
  only : OnlyCluster w w'.cluster w'
  reported : Reported store id .ownerReferenceFailed message w'.cluster
  asked : World.Asked w ⟨id, .ownerReferenceFailed, .text message⟩ w'

/-- Refusing a link reports an event and asks for a status, and ends with the error. -/
theorem refuseLink_declines (hop : op.cluster = Store.cluster) (honly : OnlyCluster w store w₁)
    (hlater : Later w [] w₁) (hscript : w₁.cluster.Scripted) {event : Event}
    (hevent : event.phase? = none) (e : OperatorError) :
    ∃ w', (do
        Act.report event
        op.refuseLink id message e : Act Store ρ Deployment).runOn w₁ = (.error (.operator e), w') ∧
      Declined w id message store w' := by
  have hscript' : { w₁ with journal := w₁.journal.push event }.cluster.Scripted := hscript
  -- The status is written in a world whose journal has the event already, so what is asked there
  -- is asked after `w₁` with it.
  obtain ⟨w', hrun, hreported, honly', hasked⟩ :=
    setStatus_reports hop id .ownerReferenceFailed message hscript'
  rw [Act.runOn_bind_ok _ (Act.runOn_report event w₁), refuseLink, Act.runOn_bind_ok _ hrun]
  refine ⟨w', rfl, (honly.report event).trans honly', ?_, .after ?_ hasked⟩
  · rwa [← honly.cluster]
  · exact hlater.trans (World.Aside.report w₁ hevent).later

/-! ### The ways of a link -/

/-- The call that reads the deployment of a namespace. -/
def readCall (op : Operator Store ρ) (ns : String) : CallNote :=
  ⟨.getDeployment, ns, op.settings.cluster.deploymentName⟩

/-- The call that writes the owners of the deployment of a namespace. -/
def ownersCall (op : Operator Store ρ) (ns : String) : CallNote :=
  ⟨.updateOwners, ns, op.settings.cluster.deploymentName⟩

/-- How the deployment of a namespace reads. -/
def reading (op : Operator Store ρ) (ns : String) (w : World Store ρ) : Except Failure Deployment :=
  ((op.cluster.getDeployment ns op.settings.cluster.deploymentName).runOn w).1

/-- How a link ends, and what it leaves. -/
inductive LinkEnd (op : Operator Store ρ) (parent : WebUI) (ns : String) (w w' : World Store ρ) :
    Except Failure Deployment → Prop where
  /-- The deployment cannot be read. -/
  | unread {e : OperatorError} (hread : op.reading ns w = .error (.operator e))
      (hdeclined : Declined w parent.id ownedUnreadableMessage
        (w.cluster.answered (op.readCall ns)) w') :
      LinkEnd op parent ns w w'
        (.error (.operator (linkError parent.id ownedUnreadableMessage e)))
  /-- The deployment is the resource's. -/
  | present {found : Deployment} {owner : OwnerReference} (hread : op.reading ns w = .ok found)
      (howner : found.controller? = some owner) (huid : owner.uid = parent.uid)
      (honly : OnlyCluster w (w.cluster.answered (op.readCall ns)) w') (hlater : Later w [] w') :
      LinkEnd op parent ns w w' (.ok found)
  /-- The deployment is another's. -/
  | foreign {found : Deployment} {owner : OwnerReference} (hread : op.reading ns w = .ok found)
      (howner : found.controller? = some owner) (huid : owner.uid ≠ parent.uid)
      (hdeclined : Declined w parent.id linkFailedMessage
        (w.cluster.answered (op.readCall ns)) w') :
      LinkEnd op parent ns w w' (.error (.operator (controlledError parent.id owner)))
  /-- The owners cannot be written. -/
  | unwritten {found : Deployment} {e : OperatorError} (hread : op.reading ns w = .ok found)
      (hfree : found.controller? = none)
      (hdeclined : Declined w parent.id linkFailedMessage
        ((w.cluster.answered (op.readCall ns)).answered (op.ownersCall ns)) w') :
      LinkEnd op parent ns w w' (.error (.operator (linkError parent.id linkFailedMessage e)))
  /-- The owners are written. -/
  | written {found : Deployment} (hread : op.reading ns w = .ok found)
      (hfree : found.controller? = none)
      (honly : OnlyCluster w (((w.cluster.answered (op.readCall ns)).answered
        (op.ownersCall ns)).putDeployment (found.withOwner op.settings.cluster parent)) w')
      (hlater : Later w [] w') :
      LinkEnd op parent ns w w' (.ok (found.withOwner op.settings.cluster parent))

/-- A deployment that was read is stored under the key that it was asked for. -/
theorem stored_of_reading {found : Deployment} (hop : op.cluster = Store.cluster)
    (h : op.reading ns w = .ok found) :
    w.cluster.deployment? ns op.settings.cluster.deploymentName = some found := by
  rw [reading, hop] at h
  obtain ⟨outcome, w', hrun, -, hfound⟩ :=
    Store.getDeployment_effect ns op.settings.cluster.deploymentName w
  rw [Store.cluster_getDeployment, hrun] at h
  exact hfound found h

/-- A deployment that reads is not made to fail. -/
theorem failures_of_reading {found : Deployment} (hop : op.cluster = Store.cluster)
    (h : op.reading ns w = .ok found) : w.cluster.failures .getDeployment = [] := by
  rw [reading, hop, Store.cluster_getDeployment, Store.getDeployment] at h
  cases hfailures : w.cluster.failures .getDeployment with
  | nil => rfl
  | cons failure rest =>
    rw [Act.runOn_bind_error _ (Store.answer_run_failing hfailures)] at h
    cases h

/-- A refusal ends a link in a way for which the status has to be asked for. -/
theorem ends_of_refusal {message : String} {e : OperatorError} (hop : op.cluster = Store.cluster)
    (honly : OnlyCluster w store w₁) (hlater : Later w [] w₁) (hscript : w₁.cluster.Scripted)
    {event : Event} (hevent : event.phase? = none)
    (hend : ∀ w', Declined w parent.id message store w' →
      LinkEnd op parent ns w w' (.error (.operator e))) :
    LinkEnd op parent ns w
      ((do
        Act.report event
        op.refuseLink parent.id message e : Act Store ρ Deployment).runOn w₁).2
      ((do
        Act.report event
        op.refuseLink parent.id message e : Act Store ρ Deployment).runOn w₁).1 := by
  obtain ⟨w', hrun, hdeclined⟩ := refuseLink_declines hop honly hlater hscript hevent e
  rw [hrun]
  exact hend w' hdeclined

/-- Writing a resource behind the owners of a deployment that is stored under its key, with cluster
errors handled. -/
theorem catching_updateOwners {name : String} {found : Deployment}
    (hop : op.cluster = Store.cluster) (hscript : w.cluster.Scripted)
    (hstored : w.cluster.deployment? ns name = some found)
    (hkey : found.key = (ns, name)) (settings : ClusterSettings) (parent : WebUI) :
    (∃ w', (Act.catching Failure.cluster?
          (op.cluster.updateOwners (found.withOwner settings parent))).runOn w =
            (.ok (.ok (found.withOwner settings parent)), w') ∧
        OnlyCluster w ((w.cluster.answered ⟨.updateOwners, ns, name⟩).putDeployment
          (found.withOwner settings parent)) w' ∧ Reached Store.Scripted w [] w') ∨
      ∃ e w', (Act.catching Failure.cluster?
          (op.cluster.updateOwners (found.withOwner settings parent))).runOn w =
            (.ok (.error e), w') ∧
        OnlyCluster w (w.cluster.answered ⟨.updateOwners, ns, name⟩) w' ∧
        Reached Store.Scripted w [] w' := by
  obtain ⟨rfl, rfl⟩ := Prod.mk.inj hkey
  have hsound := Store.updateOwners_sound (ρ := ρ) (found.withOwner settings parent)
  rw [hop, Store.cluster_updateOwners]
  -- What the write changes (`updateOwners_effect`) and how the link hears of it
  -- (`catching_cluster`) are two facts about one run; in each case one arm of the second
  -- contradicts the first.
  obtain ⟨_, _, hrun, ⟨honly, failure, rfl⟩ | ⟨current, hcurrent, honly, rfl⟩⟩ :=
    Store.updateOwners_effect (found.withOwner settings parent) w
  · obtain ⟨_, _, hwrite, -⟩ | ⟨e, w', hwrite, -, hcaught, h⟩ := catching_cluster hsound hscript <;>
      rw [hwrite] at hrun <;> cases hrun
    exact .inr ⟨e, _, hcaught, honly, h⟩
  · obtain rfl : found = current := Option.some.inj (hstored.symm.trans hcurrent)
    obtain ⟨_, w', hwrite, hcaught, h⟩ | ⟨_, _, hwrite, -⟩ := catching_cluster hsound hscript <;>
      rw [hwrite] at hrun <;> cases hrun
    exact .inl ⟨_, hcaught, honly, h⟩

/-- A link over a store takes one of these ways, whichever calls fail. -/
theorem link_ends (hop : op.cluster = Store.cluster) (hkeyed : w.cluster.Keyed)
    (hscript : w.cluster.Scripted) (parent : WebUI) (ns : String) :
    LinkEnd op parent ns w ((op.link parent ns).runOn w).2 ((op.link parent ns).runOn w).1 := by
  have hget : (op.cluster.getDeployment ns op.settings.cluster.deploymentName).Sound Store.Scripted
      Failure.IsCluster := by
    rw [hop]
    exact Store.getDeployment_sound _ _
  obtain ⟨_, w₁, hrun, honly, hfound⟩ :=
    Store.getDeployment_effect ns op.settings.cluster.deploymentName w
  rw [← Store.cluster_getDeployment, ← hop] at hrun
  rw [link]
  obtain ⟨found, w₁, hread, hcaught, h₁⟩ | ⟨e, w₁, hread, -, hcaught, h₁⟩ :=
    catching_cluster hget hscript
  · rw [hread] at hrun
    cases hrun
    rw [Act.runOn_bind_ok _ hcaught]
    have hreading : op.reading ns w = .ok found := congrArg Prod.fst hread
    cases howner : found.controller? with
    | some owner =>
      simp only [howner]
      split
      · next huid =>
        exact .present hreading howner huid (honly.report _) (h₁.report _ rfl).later
      · next huid =>
        exact ends_of_refusal hop honly h₁.later h₁.good rfl fun w' h =>
          .foreign hreading howner huid h
    | none =>
      simp only [howner]
      -- The deployment was found under its own key, so that this is where its owners are written.
      have hkey := hkeyed.deployments _ _ found (hfound found rfl)
      have hstored : w₁.cluster.deployment? ns op.settings.cluster.deploymentName = some found := by
        rw [honly.cluster]
        exact hfound found rfl
      obtain ⟨w₂, hcaught, honly', h₂⟩ | ⟨e, w₂, hcaught, honly', h₂⟩ :=
        catching_updateOwners hop h₁.good hstored hkey op.settings.cluster parent
      · rw [honly.cluster] at honly'
        rw [Act.runOn_bind_ok _ hcaught]
        exact .written hreading howner ((honly.trans honly').report _)
          ((h₁.trans h₂).report _ rfl).later
      · rw [honly.cluster] at honly'
        rw [Act.runOn_bind_ok _ hcaught]
        exact ends_of_refusal hop (honly.trans honly') (h₁.trans h₂).later h₂.good rfl
          fun w' h => .unwritten hreading howner h
  · rw [hread] at hrun
    cases hrun
    rw [Act.runOn_bind_ok _ hcaught]
    exact ends_of_refusal hop honly h₁.later h₁.good rfl fun w' h =>
      .unread (congrArg Prod.fst hread) h

/-- A link that finds the deployment to be the resource's reads it, and that is all. -/
theorem link_present {found : Deployment} {owner : OwnerReference}
    (hop : op.cluster = Store.cluster) (hread : op.reading ns w = .ok found)
    (howner : found.controller? = some owner) (huid : owner.uid = parent.uid) :
    ∃ w', (op.link parent ns).runOn w = (.ok found, w') ∧
      OnlyCluster w (w.cluster.noted (op.readCall ns)) w' := by
  have hrun := Store.getDeployment_run (failures_of_reading hop hread) (stored_of_reading hop hread)
  rw [← Store.cluster_getDeployment, ← hop] at hrun
  rw [link, Act.runOn_bind_ok _ (Act.runOn_catching_ok hrun)]
  simp only [howner, huid, if_true]
  exact ⟨_, rfl, rfl, rfl, rfl, rfl⟩

/-! ### The contract of a link -/

/-- A failure is the refusal of a deployment that is another's. -/
def SaysControlled (failure : Failure) : Prop :=
  ∃ e, failure = .operator e ∧ e.kind = .ownerReference ∧ e.code = "DEPLOYMENT_ALREADY_CONTROLLED"

/-- What a link of a resource owes, over a store. -/
structure LinkContract (op : Operator Store ρ) (parent : WebUI) (ns : String) (w w' : World Store ρ)
    (outcome : Except Failure Deployment) : Prop where
  /-- Nothing but the store is changed, apart from the journal. -/
  only : OnlyCluster w w'.cluster w'
  /-- A deployment that is given is stored as it is given, and its controlling owner has the uid of
  the resource. -/
  returned : ∀ deployment, outcome = .ok deployment →
    w'.cluster.deployment? ns op.settings.cluster.deploymentName = some deployment ∧
      ∃ owner, deployment.controller? = some owner ∧ owner.uid = parent.uid
  /-- Either the resource controlled the deployment already, and nothing was written, or the
  deployment is the one that was there with the resource as its owner, and this was the only call
  that followed the reading. -/
  written : ∀ deployment, outcome = .ok deployment →
    ∃ found, w.cluster.deployment? ns op.settings.cluster.deploymentName = some found ∧
      (found.isControlledBy parent.uid = true → deployment = found ∧
        w'.cluster.calls = w.cluster.calls ++ [op.readCall ns]) ∧
      (found.isControlledBy parent.uid = false →
        Deployment.Claimed op.settings.cluster parent found deployment ∧
          w'.cluster.calls = w.cluster.calls ++ [op.readCall ns, op.ownersCall ns])
  /-- Where a deployment is given, no other one is changed, and no resource. -/
  others : ∀ deployment, outcome = .ok deployment →
    (∀ ns' name, (ns', name) ≠ (ns, op.settings.cluster.deploymentName) →
      w'.cluster.deployment? ns' name = w.cluster.deployment? ns' name) ∧
      w'.cluster.webuis = w.cluster.webuis
  /-- A second link, in any world where the deployment is stored as it was given and can be read,
  gives it too, and does nothing but read it. -/
  again : ∀ deployment, outcome = .ok deployment → ∀ v : World Store ρ,
    v.cluster.deployment? ns op.settings.cluster.deploymentName =
        w'.cluster.deployment? ns op.settings.cluster.deploymentName →
      (∃ found, op.reading ns v = .ok found) →
        ∃ v', (op.link parent ns).runOn v = (.ok deployment, v') ∧
          OnlyCluster v (v.cluster.noted (op.readCall ns)) v'
  /-- A failure is an error of the link. All deployments are as they were. The status of the failed
  link was asked for, and the resource that it goes into. -/
  refused : ∀ failure, outcome = .error failure →
    (∃ e, failure = .operator e ∧ e.kind = .ownerReference) ∧
      w'.cluster.deployments = w.cluster.deployments ∧
      (∃ message, World.Asked w ⟨parent.id, .ownerReferenceFailed, .text message⟩ w') ∧
      ∃ made, w'.cluster.calls = w.cluster.calls ++ made ∧
        ⟨.getWebUI, parent.id.ns, parent.id.name⟩ ∈ made
  /-- A link says that the deployment is another's if and only if it was read and its first
  controlling owner has another uid. -/
  controlled : (∃ failure, outcome = .error failure ∧ SaysControlled failure) ↔
    ∃ found owner, op.reading ns w = .ok found ∧ found.controller? = some owner ∧
      owner.uid ≠ parent.uid
  /-- No owners are written then. -/
  spared : ∀ failure, outcome = .error failure → SaysControlled failure →
    ∃ made, w'.cluster.calls = w.cluster.calls ++ made ∧
      ∀ call ∈ made, call.operation ≠ .updateOwners

section Contract

variable {outcome : Except Failure Deployment} (h : LinkEnd op parent ns w w' outcome)
include h

/-- However linking ends, nothing but the cluster is changed. -/
theorem LinkEnd.only : OnlyCluster w w'.cluster w' := by
  cases h with
  | present _ _ _ honly _ | written _ _ honly _ =>
    rw [honly.cluster]
    exact honly
  | unread _ hdeclined | foreign _ _ _ hdeclined | unwritten _ _ hdeclined => exact hdeclined.only

/-- However a link fails, it was refused. -/
theorem LinkEnd.declined {failure : Failure} (he : outcome = .error failure) :
    ∃ e message store, failure = .operator e ∧ e.kind = .ownerReference ∧
      Declined w parent.id message store w' ∧ store.deployments = w.cluster.deployments ∧
      ∃ made, store.calls = w.cluster.calls ++ made := by
  subst he
  cases h with
  | unread _ hdeclined => exact ⟨_, _, _, rfl, rfl, hdeclined, rfl, _, rfl⟩
  | foreign _ _ _ hdeclined => exact ⟨_, _, _, rfl, rfl, hdeclined, rfl, _, rfl⟩
  | unwritten _ _ hdeclined =>
    exact ⟨_, _, _, rfl, rfl, hdeclined, rfl, _, List.append_assoc _ _ _⟩

/-- A link that says that the deployment is another's found it so. -/
theorem LinkEnd.foreign_of_controlled {failure : Failure} (he : outcome = .error failure)
    (hcode : SaysControlled failure) :
    ∃ found owner, op.reading ns w = .ok found ∧ found.controller? = some owner ∧
      owner.uid ≠ parent.uid ∧ Declined w parent.id linkFailedMessage
        (w.cluster.answered (op.readCall ns)) w' := by
  subst he
  obtain ⟨_, he, -, hcode⟩ := hcode
  cases h with
  | foreign hread howner huid hdeclined => exact ⟨_, _, hread, howner, huid, hdeclined⟩
  | unread _ _ | unwritten _ _ _ =>
    -- The other refusals have the code of their kind.
    cases he
    have hother : ErrorKind.code .ownerReference ≠ "DEPLOYMENT_ALREADY_CONTROLLED" := by decide
    exact absurd hcode hother

/-- A link that finds the deployment to be another's says so. -/
theorem LinkEnd.controlled_of_reading {found : Deployment} {owner : OwnerReference}
    (hread : op.reading ns w = .ok found) (howner : found.controller? = some owner)
    (huid : owner.uid ≠ parent.uid) :
    ∃ failure, outcome = .error failure ∧ SaysControlled failure := by
  -- The other ways would have read something else, or found another owner.
  cases h with
  | unread hread' _ =>
    rw [hread] at hread'
    cases hread'
  | present hread' howner' huid' _ _ =>
    cases hread.symm.trans hread'
    cases howner.symm.trans howner'
    exact absurd huid' huid
  | foreign hread' howner' _ _ => exact ⟨_, rfl, _, rfl, rfl, rfl⟩
  | unwritten hread' hfree _ | written hread' hfree _ _ =>
    cases hread.symm.trans hread'
    rw [howner] at hfree
    cases hfree

/-- Where a link gives a deployment, this is the one that the store then has in its place, and the
store differs in nothing else but its calls. -/
theorem LinkEnd.stored (hop : op.cluster = Store.cluster) (hkeyed : w.cluster.Keyed)
    {deployment : Deployment} (he : outcome = .ok deployment) :
    (∀ ns' name, w'.cluster.deployment? ns' name =
      if (ns', name) = (ns, op.settings.cluster.deploymentName) then some deployment
      else w.cluster.deployment? ns' name) ∧
      w'.cluster.webuis = w.cluster.webuis := by
  subst he
  cases h with
  | present hread howner huid honly _ =>
    have hstored := stored_of_reading hop hread
    rw [honly.cluster]
    refine ⟨fun ns' name => ?_, rfl⟩
    split
    · next heq =>
      obtain ⟨rfl, rfl⟩ := Prod.mk.inj heq
      exact hstored
    · rfl
  | @written found hread hfree honly _ =>
    -- `withOwner` keeps the name, so the deployment is put back under the name it was read under.
    have hkey : found.key = (ns, op.settings.cluster.deploymentName) :=
      hkeyed.deployments _ _ found (stored_of_reading hop hread)
    rw [honly.cluster]
    refine ⟨fun ns' name => ?_, rfl⟩
    rw [Store.deployment?_putDeployment, ← hkey]
    rfl

/-- A deployment that a link gives is the resource's. -/
theorem LinkEnd.controller {deployment : Deployment} (he : outcome = .ok deployment) :
    ∃ owner, deployment.controller? = some owner ∧ owner.uid = parent.uid := by
  subst he
  cases h with
  | present _ howner huid _ _ => exact ⟨_, howner, huid⟩
  | written _ hfree _ _ => exact ⟨_, Deployment.controller?_withOwner hfree _ _, rfl⟩

/-- A deployment that a link gives is the one that was there, or that one with the resource as its
owner. -/
theorem LinkEnd.claimed (hop : op.cluster = Store.cluster) {deployment : Deployment}
    (he : outcome = .ok deployment) :
    ∃ found, w.cluster.deployment? ns op.settings.cluster.deploymentName = some found ∧
      (found.isControlledBy parent.uid = true → deployment = found ∧
        w'.cluster.calls = w.cluster.calls ++ [op.readCall ns]) ∧
      (found.isControlledBy parent.uid = false →
        Deployment.Claimed op.settings.cluster parent found deployment ∧
          w'.cluster.calls = w.cluster.calls ++ [op.readCall ns, op.ownersCall ns]) := by
  subst he
  -- A link that gives a deployment found it controlled by the resource, or wrote it. Each way
  -- makes one of the two implications empty.
  cases h with
  | present hread howner huid honly _ =>
    have hcontrolled := Deployment.isControlledBy_iff.mpr ⟨_, howner, huid⟩
    refine ⟨_, stored_of_reading hop hread, fun _ => ⟨rfl, ?_⟩, fun hnot => ?_⟩
    · rw [honly.cluster]
      rfl
    · rw [hcontrolled] at hnot
      cases hnot
  | written hread hfree honly _ =>
    refine ⟨_, stored_of_reading hop hread, fun hcontrolled => ?_, fun _ => ⟨?_, ?_⟩⟩
    · rw [Deployment.isControlledBy_of_none hfree] at hcontrolled
      cases hcontrolled
    · exact Deployment.claimed_withOwner hfree _ _
    · rw [honly.cluster]
      exact List.append_assoc _ _ _

/-- A link over a store keeps its contract. -/
theorem LinkEnd.contract (hop : op.cluster = Store.cluster) (hkeyed : w.cluster.Keyed) :
    LinkContract op parent ns w w' outcome where
  only := h.only
  returned deployment he := by
    obtain ⟨hstored, -⟩ := h.stored hop hkeyed he
    exact ⟨by rw [hstored, if_pos rfl], h.controller he⟩
  written deployment he := h.claimed hop he
  others deployment he := by
    obtain ⟨hstored, hwebuis⟩ := h.stored hop hkeyed he
    exact ⟨fun ns' name hother => by rw [hstored, if_neg hother], hwebuis⟩
  again deployment he v hsame := by
    rintro ⟨found, hread⟩
    obtain ⟨hstored, -⟩ := h.stored hop hkeyed he
    obtain ⟨owner, howner, huid⟩ := h.controller he
    -- What is read is what is stored.
    have hfound := stored_of_reading hop hread
    rw [hsame, hstored, if_pos rfl] at hfound
    cases hfound
    exact link_present hop hread howner huid
  refused failure he := by
    obtain ⟨e, message, store, rfl, hkind, hdeclined, hdeployments, made, hcalls⟩ := h.declined he
    obtain ⟨more, hreport, -⟩ := hdeclined.reported.calls
    refine ⟨⟨e, rfl, hkind⟩, hdeclined.reported.deployments.trans hdeployments,
      ⟨message, hdeclined.asked⟩, made ++ ⟨.getWebUI, parent.id.ns, parent.id.name⟩ :: more, ?_, ?_⟩
    · rw [hreport, hcalls, List.append_assoc]
    · exact List.mem_append_right made List.mem_cons_self
  controlled := by
    constructor
    · rintro ⟨failure, he, hcode⟩
      obtain ⟨found, owner, hread, howner, huid, -⟩ := h.foreign_of_controlled he hcode
      exact ⟨found, owner, hread, howner, huid⟩
    · rintro ⟨found, owner, hread, howner, huid⟩
      exact h.controlled_of_reading hread howner huid
  spared failure he hcode := by
    obtain ⟨_, _, _, _, _, hdeclined⟩ := h.foreign_of_controlled he hcode
    obtain ⟨more, hreport, hmore⟩ := hdeclined.reported.calls
    refine ⟨op.readCall ns :: ⟨.getWebUI, parent.id.ns, parent.id.name⟩ :: more, ?_, ?_⟩
    · rw [hreport]
      exact List.append_assoc _ _ _
    · intro call hmem
      obtain rfl | rfl | hmem := by simpa using hmem
      · exact fun heq => by cases heq
      · exact fun heq => by cases heq
      · rw [hmore call hmem]
        exact fun heq => by cases heq

end Contract

/-- A link over a store in memory keeps its contract. This holds whatever the store contains under
its names, and whichever of its calls are told to fail. -/
theorem link_keeps_contract {ρ : Type} (settings : Settings) (runner : Runner Store ρ)
    (credentials : Act Store ρ Credentials) (parent : WebUI) (ns : String) (w : World Store ρ)
    (hkeyed : w.cluster.Keyed) (hscript : w.cluster.Scripted) :
    let op : Operator Store ρ := { settings, cluster := Store.cluster, runner, credentials }
    LinkContract op parent ns w ((op.link parent ns).runOn w).2 ((op.link parent ns).runOn w).1 :=
  (link_ends rfl hkeyed hscript parent ns).contract rfl hkeyed

/-- A deployment with two owners. The second one is the resource, but it does not control the
deployment. -/
def sharedDeployment : Deployment where
  name := "console"
  ns := "ns"
  owners := [{ apiVersion := "v1", kind := "ConfigMap", name := "branding", uid := "c1" },
    { apiVersion := "v1", kind := "KWebUI", name := "ui", uid := "u1" }]

/-- The resource that is to control it. -/
def sharingParent : WebUI where
  id := ⟨"ns", "ui"⟩
  uid := "u1"

/-- A link of this deployment, which keeps the first owner and replaces the second one. -/
theorem link_keeps_contract_sharedDeployment :
    let store := ({} : Store).putDeployment sharedDeployment
    let op : Operator Store (Recorder Unit) :=
      { settings := {}, cluster := Store.cluster, runner := Recorder.run fun _ => pure (),
        credentials := pure default }
    let run := (op.link sharingParent "ns").runOn (furnished store)
    store.Keyed ∧ store.Scripted ∧
      LinkContract op sharingParent "ns" (furnished store) run.2 run.1 ∧
      run.1 = .ok { sharedDeployment with
        owners := [{ apiVersion := "v1", kind := "ConfigMap", name := "branding", uid := "c1" },
          Deployment.ownedBy {} sharingParent] } := by
  intro store op run
  have hkeyed : store.Keyed := Store.keyed_empty.putDeployment sharedDeployment
  have hscript : store.Scripted := fun _ _ hmem => by cases hmem
  have hcontract := link_keeps_contract {} (Recorder.run fun _ => pure ()) (pure default)
    sharingParent "ns" (furnished store) hkeyed hscript
  exact ⟨hkeyed, hscript, hcontract, rfl⟩

end Operator

end ConsoleKeeper
