import ConsoleKeeper.Cluster.Store
import ConsoleKeeper.Operator.Pass
import ConsoleKeeper.Proofs.Agreement

/-!
# `ConsoleKeeper.Proofs.Operator.Alongside`: two passes side by side

Two operators work alongside each other if their parts agree, each call with its counterpart. Of a
resource that both read, only what a pass makes use of has to be the same (`SameWish`); its status
is not among it. `Alongside.pass_agrees` follows both operators through a pass: their passes agree.

The parts are asked about only as far as a pass goes. `ids` says whose statuses it reports and
`keys` whose owners it writes. Statuses are asked about as a whole, since two reports of a status
can agree where the writes of it do not.

Operators over clusters of different kinds do not fail alike: each has its own words for an object
that is absent. A pass only asks whether an error says that. So it is enough that the operators keep
in step (`InStep`), where a cluster call may fail in two ways that a pass takes for the same. The
walk is made for these, and `InStep.pass_agrees` is what it comes to.
-/

set_option autoImplicit false

namespace ConsoleKeeper.Operator

open Act (Agrees Shared)

variable {κ ρ κ' ρ' : Type} {R : World κ ρ → World κ' ρ' → Prop} {ids : ResourceId → Prop}
  {keys : DeploymentKey → Prop} {op : Operator κ ρ} {op' : Operator κ' ρ'}

/-- Two resources are the same in all that a pass makes use of. -/
structure SameWish (ids : ResourceId → Prop) (resource resource' : WebUI) : Prop where
  named : ids resource.id
  id : resource'.id = resource.id
  uid : resource'.uid = resource.uid
  apiVersion : resource'.apiVersion = resource.apiVersion
  kind : resource'.kind = resource.kind
  spec : resource'.spec = resource.spec

/-- A deployment becomes the same with either of them as its owner. -/
theorem SameWish.withOwner {resource resource' : WebUI} (h : SameWish ids resource resource')
    (deployment : Deployment) (settings : ClusterSettings) :
    deployment.withOwner settings resource' = deployment.withOwner settings resource := by
  simp only [Deployment.withOwner, Deployment.ownedBy, h.id, h.uid, h.apiVersion, h.kind]

/-- Each part of the one operator agrees with that of the other. -/
structure Alongside (R : World κ ρ → World κ' ρ' → Prop) (ids : ResourceId → Prop)
    (keys : DeploymentKey → Prop) (op : Operator κ ρ) (op' : Operator κ' ρ') : Prop where
  shared : Shared R
  settings : op'.settings = op.settings
  getWebUI : ∀ id, ids id →
    Agrees R (SameWish ids) (op.cluster.getWebUI id) (op'.cluster.getWebUI id)
  getDeployment : ∀ id, ids id →
    Agrees R (fun deployment deployment' => deployment' = deployment ∧ keys deployment.key)
      (op.cluster.getDeployment id.ns op.settings.cluster.deploymentName)
      (op'.cluster.getDeployment id.ns op.settings.cluster.deploymentName)
  updateOwners : ∀ deployment, keys deployment.key →
    Agrees R Eq (op.cluster.updateOwners deployment) (op'.cluster.updateOwners deployment)
  setStatus : ∀ id, ids id → ∀ phase message,
    Agrees R Eq (op.setStatus id phase message) (op'.setStatus id phase message)
  runner : ∀ command, Agrees R Eq (op.runner command) (op'.runner command)
  credentials : Agrees R Eq op.credentials op'.credentials

/-! ### Errors that are taken for the same -/

/-- Two outcomes are related values, or related errors. -/
inductive LikeEnd {ε α β : Type} (E : ε → ε → Prop) (V : α → β → Prop) :
    Except ε α → Except ε β → Prop where
  | value {a : α} {b : β} (h : V a b) : LikeEnd E V (.ok a) (.ok b)
  | failure {e e' : ε} (h : E e e') : LikeEnd E V (.error e) (.error e')

/-- Ends with the same failure are alike, if every failure is like itself. -/
theorem LikeEnd.of_sameEnd {ε α β : Type} {E : ε → ε → Prop} {V : α → β → Prop}
    {x : Except ε α} {y : Except ε β} (hE : ∀ e, E e e) (h : SameEnd V x y) : LikeEnd E V x y := by
  cases h with
  | value hv => exact .value hv
  | failure e => exact .failure (hE e)

/-- The errors are the same, or both say that the object of a call is absent. -/
def SameTrouble (e e' : OperatorError) : Prop :=
  e' = e ∨ e.kind = .notFound ∧ e'.kind = .notFound

/-- The errors are the same, or both say in the same words that the object of a call is absent. -/
def SameWords (e e' : OperatorError) : Prop :=
  SameTrouble e e' ∧ e'.message = e.message

/-- An error tells of the same trouble as itself. -/
theorem SameTrouble.refl (e : OperatorError) : SameTrouble e e :=
  .inl rfl

/-- An error has the same words as itself. -/
theorem SameWords.refl (e : OperatorError) : SameWords e e :=
  ⟨.refl e, rfl⟩

/-- Errors about the same trouble are of one kind. -/
theorem SameTrouble.kind {e e' : OperatorError} (h : SameTrouble e e') : e'.kind = e.kind := by
  obtain rfl | ⟨he, he'⟩ := h
  · rfl
  · rw [he, he']

/-- Both errors say that something is absent, or neither does. -/
theorem SameTrouble.saysAbsent {e e' : OperatorError} (h : SameTrouble e e') :
    saysAbsent e' = saysAbsent e := by
  rw [Operator.saysAbsent, Operator.saysAbsent, h.kind]

/-- Errors that do not say that an object is absent are the same. -/
theorem SameTrouble.eq {e e' : OperatorError} (h : SameTrouble e e')
    (habsent : ¬Operator.saysAbsent e = true) : e' = e := by
  obtain rfl | ⟨he, -⟩ := h
  · rfl
  · exact absurd (decide_eq_true he) habsent

/-- A failed link does not tell such errors apart. -/
theorem SameWords.linkError {e e' : OperatorError} (h : SameWords e e') (id : ResourceId)
    (message : String) : linkError id message e' = linkError id message e := by
  rw [Operator.linkError, Operator.linkError, h.1.kind, h.2]

/-- Each part of the one operator agrees with that of the other as far as a pass can tell. -/
structure InStep (R : World κ ρ → World κ' ρ' → Prop) (ids : ResourceId → Prop)
    (keys : DeploymentKey → Prop) (op : Operator κ ρ) (op' : Operator κ' ρ') : Prop where
  shared : Shared R
  settings : op'.settings = op.settings
  getWebUI : ∀ id, ids id →
    Agrees R (LikeEnd SameTrouble (SameWish ids))
      (Act.catching Failure.cluster? (op.cluster.getWebUI id))
      (Act.catching Failure.cluster? (op'.cluster.getWebUI id))
  getDeployment : ∀ id, ids id →
    Agrees R (LikeEnd SameWords fun deployment deployment' =>
        deployment' = deployment ∧ keys deployment.key)
      (Act.catching Failure.cluster?
        (op.cluster.getDeployment id.ns op.settings.cluster.deploymentName))
      (Act.catching Failure.cluster?
        (op'.cluster.getDeployment id.ns op.settings.cluster.deploymentName))
  updateOwners : ∀ deployment, keys deployment.key →
    Agrees R (LikeEnd SameWords Eq)
      (Act.catching Failure.cluster? (op.cluster.updateOwners deployment))
      (Act.catching Failure.cluster? (op'.cluster.updateOwners deployment))
  setStatus : ∀ id, ids id → ∀ phase message,
    Agrees R Eq (op.setStatus id phase message) (op'.setStatus id phase message)
  runner : ∀ command, Agrees R Eq (op.runner command) (op'.runner command)
  credentials : Agrees R Eq op.credentials op'.credentials

/-- Operators that work alongside keep in step. -/
theorem Alongside.inStep (h : Alongside R ids keys op op') : InStep R ids keys op op' where
  shared := h.shared
  settings := h.settings
  getWebUI id hid := ((h.getWebUI id hid).catching _).mono fun _ _ => .of_sameEnd SameTrouble.refl
  getDeployment id hid :=
    ((h.getDeployment id hid).catching _).mono fun _ _ => .of_sameEnd SameWords.refl
  updateOwners deployment hkey :=
    ((h.updateOwners deployment hkey).catching _).mono fun _ _ => .of_sameEnd SameWords.refl
  setStatus := h.setStatus
  runner := h.runner
  credentials := h.credentials

/-! ### Reports of a status -/

/-- A status is reported alike where resources are read and written alike. -/
theorem setStatus_agrees (hR : Shared R) {id : ResourceId}
    (hget : Agrees R Eq (op.cluster.getWebUI id) (op'.cluster.getWebUI id))
    (hupdate : ∀ resource,
      Agrees R Eq (op.cluster.updateWebUI resource) (op'.cluster.updateWebUI resource))
    (phase : Phase) (message : String) :
    Agrees R Eq (op.setStatus id phase message) (op'.setStatus id phase message) := by
  refine Agrees.discard ((hget.catching _).bind ?_ : Agrees R Eq (reportStatus op.cluster _) _)
  -- The same resource on both sides, or the same error; in the end there is one report more or
  -- none.
  rintro _ _ (⟨rfl⟩ | e)
  · refine (Agrees.lift (.refl _)).bind ?_
    rintro text _ rfl
    refine ((hupdate _).catching _).bind ?_
    rintro _ _ (_ | e)
    · exact (hR.report_agrees _).bind fun _ _ _ => .pure rfl
    · exact (hR.report_agrees _).bind fun _ _ _ => .pure rfl
  · exact (hR.report_agrees _).bind fun _ _ _ => .pure rfl

namespace InStep

variable (h : InStep R ids keys op op')
include h

/-! ### The playbook -/

/-- What a run does between its credentials file and its end. -/
theorem playbookSteps_agrees (task : PlaybookAction) (spec : WebUI.Spec) (ns : String)
    (credentials : Credentials) (path : String) :
    Agrees R Eq (op.playbookSteps task spec ns credentials path)
      (op'.playbookSteps task spec ns credentials path) := by
  unfold playbookSteps
  rw [h.settings]
  refine (h.runner _).bind fun _ _ _ => (h.runner _).bind fun _ _ _ => ?_
  exact Artifacts.withInventoryFile_agrees h.shared (fun _ => (h.runner _).discard) _ _

/-- Runs of the playbook agree, since both make the same files and run the same commands. -/
theorem runPlaybook_agrees (task : PlaybookAction) (spec : WebUI.Spec) (ns : String) :
    Agrees R Eq (op.runPlaybook task spec ns) (op'.runPlaybook task spec ns) := by
  unfold runPlaybook
  rw [h.settings]
  refine (h.shared.report_agrees _).bind fun _ _ _ => h.credentials.bind ?_
  rintro credentials _ rfl
  have hsteps := h.playbookSteps_agrees task spec ns credentials
  refine (Artifacts.withCredentialsFile_agrees h.shared hsteps _).bind fun _ _ _ => ?_
  exact h.shared.report_agrees _

/-! ### The owner -/

/-- A refused link is reported and fails in the same way. -/
theorem refuseLink_agrees {α : Type} {V : α → α → Prop} {id : ResourceId} (hid : ids id)
    (message : String) (e : OperatorError) :
    Agrees R V (op.refuseLink id message e) (op'.refuseLink id message e) :=
  (h.setStatus id hid _ message).bind fun _ _ _ => .fail _

/-- Linking the deployment to resources that wish for the same. -/
theorem link_agrees {parent parent' : WebUI} (hparent : SameWish ids parent parent')
    {id : ResourceId} (hid : ids id) :
    Agrees R Eq (op.link parent id.ns) (op'.link parent' id.ns) := by
  unfold link
  rw [h.settings, hparent.id, hparent.uid]
  refine (h.getDeployment id hid).bind ?_
  rintro _ _ (@⟨_, deployment, rfl, hkey⟩ | @⟨e, e', hwords⟩)
  · dsimp only
    split
    · split
      · exact (h.shared.report_agrees _).bind fun _ _ _ => .pure rfl
      · exact (h.shared.report_agrees _).bind fun _ _ _ => h.refuseLink_agrees hparent.named _ _
    · rw [hparent.withOwner]
      -- A deployment keeps its key when it gets another owner.
      have hlinked : keys (deployment.withOwner op.settings.cluster parent).key := hkey
      refine (h.updateOwners _ hlinked).bind ?_
      rintro _ _ (⟨rfl⟩ | @⟨e, e', hwords⟩)
      · exact (h.shared.report_agrees _).bind fun _ _ _ => .pure rfl
      · dsimp only
        rw [hwords.2, hwords.linkError]
        exact (h.shared.report_agrees _).bind fun _ _ _ => h.refuseLink_agrees hparent.named _ _
  · dsimp only
    rw [hwords.2, hwords.linkError]
    exact (h.shared.report_agrees _).bind fun _ _ _ => h.refuseLink_agrees hparent.named _ _

/-! ### The branches of a pass -/

section Branches

variable {id : ResourceId} {resource resource' : WebUI}

/-- The end of a pass, which is a report. -/
theorem conclude_agrees (id : ResourceId) (action : Action) (phase : Phase) (message : String) :
    Agrees R Eq (conclude id action phase message : Act κ ρ PassResult)
      (conclude id action phase message) :=
  (h.shared.report_agrees _).bind fun _ _ _ => .pure rfl

/-- The end of a pass that reports a status first. -/
theorem finish_agrees (hid : ids id) (action : Action) (phase : Phase) (message : String) :
    Agrees R Eq (op.finish id action phase message) (op'.finish id action phase message) :=
  (h.setStatus id hid phase message).bind fun _ _ _ => h.conclude_agrees id action phase message

/-- A run of the playbook for resources that wish for the same. -/
theorem attemptPlaybook_agrees (hwish : SameWish ids resource resource') (task : PlaybookAction) :
    Agrees R Eq (op.attemptPlaybook task resource) (op'.attemptPlaybook task resource') := by
  unfold attemptPlaybook
  rw [hwish.id, hwish.spec]
  refine ((h.runPlaybook_agrees task _ _).catching _).bind ?_
  rintro _ _ (_ | e)
  · exact .pure rfl
  · refine (h.shared.report_agrees _).bind fun _ _ _ => ?_
    exact (h.setStatus _ hwish.named _ _).bind fun _ _ _ => .fail _

/-- Provisioning for resources that wish for the same. -/
theorem provision_agrees (hwish : SameWish ids resource resource') (action : Action) :
    Agrees R Eq (op.provision resource action) (op'.provision resource' action) := by
  unfold provision
  rw [hwish.id, hwish.spec]
  refine (h.setStatus _ hwish.named _ _).bind fun _ _ _ => ?_
  refine (h.attemptPlaybook_agrees hwish _).bind fun _ _ _ => ?_
  refine (h.link_agrees hwish hwish.named).bind fun _ _ _ => ?_
  exact h.finish_agrees hwish.named _ _ _

/-- Deprovisioning for resources that wish for the same. -/
theorem deprovision_agrees (hwish : SameWish ids resource resource') :
    Agrees R Eq (op.deprovision resource) (op'.deprovision resource') := by
  unfold deprovision
  rw [hwish.id]
  refine (h.setStatus _ hwish.named _ _).bind fun _ _ _ => ?_
  refine (h.attemptPlaybook_agrees hwish _).bind fun _ _ _ => ?_
  exact h.setStatus _ hwish.named _ _

/-- A link is repaired on both sides, or is in order on both. -/
theorem repairLink_agrees (hid : ids id) (hwish : SameWish ids resource resource')
    (deployment : Deployment) :
    Agrees R Eq (op.repairLink id resource deployment)
      (op'.repairLink id resource' deployment) := by
  unfold repairLink
  rw [hwish.uid]
  split
  · exact .pure rfl
  · refine ((h.link_agrees hwish hid).catching _).bind ?_
    rintro _ _ (_ | e)
    · exact .pure rfl
    · exact h.shared.report_agrees _

/-- Replacing a deployment for resources that wish for the same. -/
theorem replace_agrees (hwish : SameWish ids resource resource') (id : ResourceId)
    (action : Action) :
    Agrees R Eq (op.replace id resource action) (op'.replace id resource' action) := by
  refine ((h.deprovision_agrees hwish).catching _).bind ?_
  rintro _ _ (_ | e)
  · exact h.provision_agrees hwish action
  · exact (h.shared.report_agrees _).bind fun _ _ _ => .fail _

/-- Carrying out an action, one case for each. -/
theorem carryOut_agrees (hid : ids id) (hwish : SameWish ids resource resource')
    (deployment : Deployment) (actual : String) (action : Action) :
    Agrees R Eq (op.carryOut id resource deployment actual action)
      (op'.carryOut id resource' deployment actual action) := by
  cases action with
  | deprovision =>
    exact (h.deprovision_agrees hwish).bind fun _ _ _ => h.conclude_agrees _ _ _ _
  | deprovisionThenProvision => exact h.replace_agrees hwish id _
  | noop | provision =>
    refine (h.repairLink_agrees hid hwish deployment).bind fun _ _ _ => ?_
    exact h.finish_agrees hid _ _ _

/-- What a pass does about a deployed version. -/
theorem settle_agrees (hid : ids id) (hwish : SameWish ids resource resource')
    (deployment : Deployment) (actual : String) :
    Agrees R Eq (op.settle id resource deployment actual)
      (op'.settle id resource' deployment actual) := by
  unfold settle
  rw [hwish.spec]
  refine (h.shared.report_agrees _).bind fun _ _ _ => ?_
  exact h.carryOut_agrees hid hwish deployment actual _

/-- What a pass does where nothing is deployed. -/
theorem settleAbsent_agrees (hid : ids id) (hwish : SameWish ids resource resource') :
    Agrees R Eq (op.settleAbsent id resource) (op'.settleAbsent id resource') := by
  unfold settleAbsent
  rw [hwish.spec]
  refine (h.shared.report_agrees _).bind fun _ _ _ => ?_
  split
  · exact h.finish_agrees hid _ _ _
  · exact h.provision_agrees hwish _

/-- What a pass does about a deployment. -/
theorem settleDeployed_agrees (hid : ids id) (hwish : SameWish ids resource resource')
    (deployment : Deployment) :
    Agrees R Eq (op.settleDeployed id resource deployment)
      (op'.settleDeployed id resource' deployment) := by
  unfold settleDeployed
  rw [h.settings]
  refine (Agrees.lift (.refl _)).bind ?_
  rintro (_ | actual) _ rfl
  · refine (h.shared.report_agrees _).bind fun _ _ _ => ?_
    exact h.finish_agrees hid _ _ _
  · exact h.settle_agrees hid hwish deployment actual

/-- What a pass does about a resource that was read. -/
theorem settleResource_agrees (hid : ids id) (hwish : SameWish ids resource resource') :
    Agrees R Eq (op.settleResource id resource) (op'.settleResource id resource') := by
  unfold settleResource
  rw [h.settings]
  refine (h.getDeployment id hid).bind ?_
  rintro _ _ (⟨rfl, -⟩ | @⟨e, e', hwords⟩)
  · exact h.settleDeployed_agrees hid hwish _
  · dsimp only
    -- Errors with the same words agree on whether the deployment is absent; any other error is the
    -- same one.
    rw [hwords.1.saysAbsent]
    split
    · exact h.settleAbsent_agrees hid hwish
    · next habsent =>
      rw [hwords.1.eq habsent]
      refine (h.shared.report_agrees _).bind fun _ _ _ => ?_
      exact (h.setStatus id hid _ _).bind fun _ _ _ => .fail _

end Branches

/-- Passes of operators that keep in step agree. -/
theorem pass_agrees {id : ResourceId} (hid : ids id) :
    Agrees R Eq (op.pass id) (op'.pass id) := by
  refine (h.shared.report_agrees _).bind fun _ _ _ => ?_
  refine (h.getWebUI id hid).bind ?_
  rintro _ _ (hwish | @⟨e, e', htrouble⟩)
  · exact h.settleResource_agrees hid hwish
  · dsimp only
    rw [htrouble.saysAbsent]
    split
    · exact (h.shared.report_agrees _).bind fun _ _ _ => .pure rfl
    · next habsent =>
      rw [htrouble.eq habsent]
      refine (h.shared.report_agrees _).bind fun _ _ _ => ?_
      exact (h.setStatus id hid _ _).bind fun _ _ _ => .fail _

end InStep

namespace Alongside

variable (h : Alongside R ids keys op op')
include h

/-- Runs of the playbook agree. -/
theorem runPlaybook_agrees (task : PlaybookAction) (spec : WebUI.Spec) (ns : String) :
    Agrees R Eq (op.runPlaybook task spec ns) (op'.runPlaybook task spec ns) :=
  h.inStep.runPlaybook_agrees task spec ns

/-- Passes of operators that work alongside agree. -/
theorem pass_agrees {id : ResourceId} (hid : ids id) :
    Agrees R Eq (op.pass id) (op'.pass id) :=
  h.inStep.pass_agrees hid

end Alongside

end ConsoleKeeper.Operator
