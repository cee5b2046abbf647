import ConsoleKeeper.Operator.Pass
import ConsoleKeeper.Proofs.Cluster.Store
import ConsoleKeeper.Proofs.Operator.Playbook
import ConsoleKeeper.Proofs.Resource.WebUI

/-!
# `ConsoleKeeper.Proofs.Operator.Course`: the statuses of a pass

A pass asks for statuses on its way, whether or not they can be written. `Course` lists the phases
that a pass can ask for from its start to its end, each with the way in which such a pass ends.

`pass_ends` shows that a pass takes one of these courses if its parts are `Attentive`: cluster calls
end with cluster errors only, everything else with errors of the operator, and statuses can be
reported. `course_of_pass` says the same of `Sound` parts, where every resource can be written, and
`pass_course` of a cluster in memory, whose calls can be told to fail at any point.
-/

set_option autoImplicit false

namespace ConsoleKeeper.Operator

open World (Later)

variable {κ ρ : Type} {op : Operator κ ρ} {good : κ → Prop} {w w' : World κ ρ}

/-- The parts of an operator leave the cluster good, ask for no status, and fail with operator
errors, and the cluster's calls with cluster errors. -/
structure Sound (op : Operator κ ρ) (good : κ → Prop) : Prop where
  cluster : op.cluster.Sound good
  runner : ∀ command, (op.runner command).Sound good Failure.IsOperator
  credentials : op.credentials.Sound good Failure.IsOperator
  artifacts : Artifacts.Usable op.settings.artifacts

/-- The second world is further by the given phases, with a good cluster. -/
structure Reached (good : κ → Prop) (w : World κ ρ) (phases : List Phase) (w' : World κ ρ) :
    Prop where
  good : good w'.cluster
  later : Later w phases w'

/-- What is reached from what was reached. -/
theorem Reached.trans {phases more : List Phase} {w'' : World κ ρ} (h : Reached good w phases w')
    (h' : Reached good w' more w'') : Reached good w (phases ++ more) w'' :=
  ⟨h'.good, h.later.trans h'.later⟩

/-- The parts of an operator as a pass makes use of them. Statuses are asked about as a whole: a
report of one asks for its phase, whatever becomes of it, and does not fail. -/
structure Attentive (op : Operator κ ρ) (good : κ → Prop) : Prop where
  getWebUI : ∀ id, (op.cluster.getWebUI id).Sound good Failure.IsCluster
  getDeployment : ∀ ns name, (op.cluster.getDeployment ns name).Sound good Failure.IsCluster
  updateOwners : ∀ deployment, (op.cluster.updateOwners deployment).Sound good Failure.IsCluster
  setStatus : ∀ (id : ResourceId) (phase : Phase) (message : String) (w : World κ ρ),
    good w.cluster → ∃ w', (op.setStatus id phase message).runOn w = (.ok (), w') ∧
      Reached good w [phase] w'
  runner : ∀ command, (op.runner command).Sound good Failure.IsOperator
  credentials : op.credentials.Sound good Failure.IsOperator
  artifacts : Artifacts.Usable op.settings.artifacts

/-- Where a sound action leads. -/
theorem reached_of_sound {α : Type} {allowed : Failure → Prop} {action : Act κ ρ α}
    {outcome : Except Failure α} (h : action.Sound good allowed)
    (hrun : action.runOn w = (outcome, w')) (hw : good w.cluster) : Reached good w [] w' :=
  ⟨(h hrun hw).1, (h hrun hw).2.1⟩

/-- How a sound action fails. -/
theorem allowed_of_sound {α : Type} {allowed : Failure → Prop} {action : Act κ ρ α}
    {failure : Failure} (h : action.Sound good allowed)
    (hrun : action.runOn w = (.error failure, w')) (hw : good w.cluster) : allowed failure :=
  (h hrun hw).2.2 failure rfl

/-- A report of an event without a phase leads no further. -/
theorem Reached.report {phases : List Phase} (h : Reached good w phases w') (event : Event)
    (he : event.phase? = none) :
    Reached good w phases { w' with journal := w'.journal.push event } := by
  refine ⟨h.good, ?_⟩
  simpa using h.later.trans (World.Aside.report w' he).later

/-! ### Calls whose failures are handled -/

/-- A cluster call under a handler for cluster errors. -/
theorem catching_cluster {α : Type} {action : Act κ ρ α}
    (h : action.Sound good Failure.IsCluster) (hw : good w.cluster) :
    (∃ a w', action.runOn w = (.ok a, w') ∧
        (Act.catching Failure.cluster? action).runOn w = (.ok (.ok a), w') ∧
        Reached good w [] w') ∨
      ∃ e w', action.runOn w = (.error (.operator e), w') ∧ e.kind.isCluster = true ∧
        (Act.catching Failure.cluster? action).runOn w = (.ok (.error e), w') ∧
        Reached good w [] w' := by
  rcases hrun : action.runOn w with ⟨failure | a, w'⟩
  · obtain ⟨hgood, hlater, hfail⟩ := h hrun hw
    obtain ⟨e, rfl, hk⟩ := hfail failure rfl
    have hpick : Failure.cluster? (.operator e) = some e := by simp [Failure.cluster?, hk]
    exact .inr ⟨e, w', rfl, hk, Act.runOn_catching_some hrun hpick, hgood, hlater⟩
  · obtain ⟨hgood, hlater, -⟩ := h hrun hw
    exact .inl ⟨a, w', rfl, Act.runOn_catching_ok hrun, hgood, hlater⟩

/-- An action under a handler for operator errors. -/
theorem catching_operator {α : Type} {action : Act κ ρ α}
    (h : action.Sound good Failure.IsOperator) (hw : good w.cluster) :
    (∃ a w', (Act.catching Failure.operator? action).runOn w = (.ok (.ok a), w') ∧
        Reached good w [] w') ∨
      ∃ e w', action.runOn w = (.error (.operator e), w') ∧
        (Act.catching Failure.operator? action).runOn w = (.ok (.error e), w') ∧
        Reached good w [] w' := by
  rcases hrun : action.runOn w with ⟨failure | a, w'⟩
  · obtain ⟨hgood, hlater, hfail⟩ := h hrun hw
    obtain ⟨e, rfl⟩ := hfail failure rfl
    exact .inr ⟨e, w', rfl, Act.runOn_catching_some hrun rfl, hgood, hlater⟩
  · obtain ⟨hgood, hlater, -⟩ := h hrun hw
    exact .inl ⟨a, w', Act.runOn_catching_ok hrun, hgood, hlater⟩

/-! ### Statuses -/

/-- A message that is a text is taken as it is. -/
theorem readMessage_text (message : String) :
    ((WebUI.Status.readMessage (.text message)).within (.key "message")).orFail = .ok message := by
  rw [WebUI.readMessage_eq]
  rfl

/-- Asking for a status reports its note, whatever becomes of it, and does not fail. Of the writing
of resources this needs only that of one which was read, with another status. -/
theorem setStatus_asks (read : WebUI → Prop) (id : ResourceId) (phase : Phase) (message : String)
    (hget : (op.cluster.getWebUI id).Sound good Failure.IsCluster)
    (hread : ∀ ⦃w resource w'⦄, (op.cluster.getWebUI id).runOn w = (.ok resource, w') →
      good w.cluster → read resource)
    (hupdate : ∀ resource status, read resource →
      (op.cluster.updateWebUI { resource with status }).Sound good Failure.IsCluster)
    (hw : good w.cluster) :
    ∃ w', (op.setStatus id phase message).runOn w = (.ok (), w') ∧ good w'.cluster ∧
      World.Asked w ⟨id, phase, .text message⟩ w' := by
  suffices h : ∃ written w',
      (reportStatus op.cluster ⟨id, phase, .text message⟩).runOn w = (.ok written, w') ∧
        good w'.cluster ∧ World.Asked w ⟨id, phase, .text message⟩ w' by
    obtain ⟨written, w', hrun, hasked⟩ := h
    exact ⟨w', by rw [setStatus, Act.runOn_discard, hrun]; rfl, hasked⟩
  -- Either call may fail, and the note has been reported all the same.
  rw [reportStatus]
  obtain ⟨resource, w₁, hgot, hrun, h₁⟩ | ⟨e, w₁, -, -, hrun, h₁⟩ := catching_cluster hget hw
  · rw [Act.runOn_bind_ok _ hrun]
    simp only [writeStatus, readMessage_text]
    rw [Act.runOn_bind_ok _ (Act.runOn_lift _ w₁)]
    obtain ⟨written, w₂, -, hrun', h₂⟩ | ⟨e, w₂, -, -, hrun', h₂⟩ :=
      catching_cluster (hupdate resource { phase := some phase, message } (hread hgot hw)) h₁.good
    · rw [Act.runOn_bind_ok _ hrun']
      exact ⟨true, _, rfl, (h₁.trans h₂).good, (h₁.trans h₂).later.asked rfl⟩
    · rw [Act.runOn_bind_ok _ hrun']
      exact ⟨false, _, rfl, (h₁.trans h₂).good, (h₁.trans h₂).later.asked rfl⟩
  · rw [Act.runOn_bind_ok _ hrun]
    exact ⟨false, _, rfl, h₁.good, h₁.later.asked rfl⟩

/-- Asking for a status asks for its phase. -/
theorem setStatus_run (read : WebUI → Prop) (id : ResourceId) (phase : Phase) (message : String)
    (hget : (op.cluster.getWebUI id).Sound good Failure.IsCluster)
    (hread : ∀ ⦃w resource w'⦄, (op.cluster.getWebUI id).runOn w = (.ok resource, w') →
      good w.cluster → read resource)
    (hupdate : ∀ resource status, read resource →
      (op.cluster.updateWebUI { resource with status }).Sound good Failure.IsCluster)
    (hw : good w.cluster) :
    ∃ w', (op.setStatus id phase message).runOn w = (.ok (), w') ∧ Reached good w [phase] w' := by
  obtain ⟨w', hrun, hgood, hasked⟩ := setStatus_asks read id phase message hget hread hupdate hw
  exact ⟨w', hrun, hgood, hasked.later⟩

/-- The making of a file of a run is sound. -/
theorem sound_of_opening {settings : ArtifactSettings} {named : String → String}
    {content : List UInt8} {mode : Nat} {action : Act κ ρ String}
    (h : ∀ ⦃w outcome w'⦄, action.runOn w = (outcome, w') →
      Artifacts.Opening settings named content mode w outcome w')
    (hnamed : ∀ source suffix, Artifacts.Drawn settings source suffix →
      Artifacts.NulFree (named suffix)) :
    action.Sound good Failure.IsOperator := by
  intro w outcome w' hrun hw
  have hopening := h hrun
  -- An opening works on files and draws; it never asks the cluster.
  refine ⟨?_, hopening.later, fun failure he => ?_⟩
  · rw [hopening.cluster]
    exact hw
  · subst he
    exact hopening.isOperator (hnamed w.random)

/-- A removal leaves a good cluster good. -/
theorem reached_of_removal {path : String} (h : Artifacts.Removal path w w')
    (hw : good w.cluster) : Reached good w [] w' := by
  refine ⟨?_, h.aside.later⟩
  rw [h.aside.cluster]
  exact hw

section Playbook

variable (hs : op.Attentive good)
include hs

/-- A run up to its credentials file asks for no phase. -/
theorem runToCredentials_sound (task : PlaybookAction) (spec : WebUI.Spec) (ns : String) :
    (op.runToCredentials task spec ns).Sound good Failure.IsOperator := by
  refine (Act.Sound.report rfl).bind fun _ => hs.credentials.bind fun credentials => ?_
  refine Act.Sound.bind (sound_of_opening (fun w outcome w' => Artifacts.openCredentials_opening)
    fun source suffix h => (hs.artifacts source suffix h).1) fun path => ?_
  exact .pure (credentials, path)

/-- A run between its two files asks for no phase. -/
theorem stepsToInventory_sound (task : PlaybookAction) (spec : WebUI.Spec) (ns : String)
    (credentials : Credentials) (path : String) :
    (op.stepsToInventory task spec ns credentials path).Sound good Failure.IsOperator := by
  refine (hs.runner _).bind fun _ => (hs.runner _).bind fun _ => ?_
  exact sound_of_opening (fun w outcome w' => Artifacts.openInventory_opening)
    fun source suffix h => (hs.artifacts source suffix h).2

/-- The command of the playbook asks for no phase. -/
theorem playTask_sound (path inventory : String) :
    (op.playTask path inventory).Sound good Failure.IsOperator :=
  (hs.runner _).discard

/-- A run of the playbook asks for no status and fails with operator errors only. -/
theorem runPlaybook_sound (task : PlaybookAction) (spec : WebUI.Spec) (ns : String) :
    (op.runPlaybook task spec ns).Sound good Failure.IsOperator := by
  intro w outcome w' hrun hw
  have hfirst := runToCredentials_sound hs task spec ns
  have hsecond := stepsToInventory_sound hs task spec ns
  have hthird := playTask_sound hs
  -- It is enough to say where the run leads, and how it fails where it does.
  suffices h : Reached good w [] w' ∧ ∀ failure, outcome = .error failure → failure.IsOperator from
    ⟨h.1.good, h.1.later, h.2⟩
  cases runPlaybook_run hrun with
  | unready h =>
    refine ⟨reached_of_sound hfirst h hw, fun _ he => ?_⟩
    cases he
    exact allowed_of_sound hfirst h hw
  | unlisted h h' hremoval =>
    have h₁ := reached_of_sound hfirst h hw
    have h₂ := h₁.trans (reached_of_sound (hsecond _ _) h' h₁.good)
    refine ⟨h₂.trans (reached_of_removal hremoval h₂.good), fun _ he => ?_⟩
    cases he
    exact allowed_of_sound (hsecond _ _) h' h₁.good
  | failed h h' h'' hremoval hremoval' =>
    have h₁ := reached_of_sound hfirst h hw
    have h₂ := h₁.trans (reached_of_sound (hsecond _ _) h' h₁.good)
    have h₃ := h₂.trans (reached_of_sound (hthird _ _) h'' h₂.good)
    have h₄ := h₃.trans (reached_of_removal hremoval h₃.good)
    refine ⟨h₄.trans (reached_of_removal hremoval' h₄.good), fun _ he => ?_⟩
    cases he
    exact allowed_of_sound (hthird _ _) h'' h₂.good
  | finished h h' h'' hremoval hremoval' =>
    have h₁ := reached_of_sound hfirst h hw
    have h₂ := h₁.trans (reached_of_sound (hsecond _ _) h' h₁.good)
    have h₃ := h₂.trans (reached_of_sound (hthird _ _) h'' h₂.good)
    have h₄ := h₃.trans (reached_of_removal hremoval h₃.good)
    have h₅ := h₄.trans (reached_of_removal hremoval' h₄.good)
    exact ⟨h₅.report _ rfl, fun _ he => by cases he⟩

end Playbook

/-! ### Courses -/

/-- The failure ends an action between the two worlds. Before that the phases of the first list were
asked for, and those of the second list after it. -/
def FailsWithin {α : Type} (action : Act κ ρ α) (failure : Failure) (w : World κ ρ)
    (before after : List Phase) (w' : World κ ρ) : Prop :=
  ∃ w₁ w₂, Later w before w₁ ∧ action.runOn w₁ = (.error failure, w₂) ∧ Later w₂ after w'

/-- What a pass asks for before it provisions. -/
inductive Lead : Action → List Phase → Prop where
  | fresh : Lead .provision []
  | again : Lead .deprovisionThenProvision [.deprovisionStarted, .deprovisioned]

/-- What a pass asks for that changes nothing, with the phase of its result. -/
inductive Idle : List Phase → Phase → Prop where
  | unreadable : Idle [.otherError] .otherError
  | notDeployed : Idle [.notDeployed] .notDeployed
  | conforming : Idle [.provisioned] .provisioned
  | unlinked : Idle [.ownerReferenceFailed, .provisioned] .provisioned

/-- The phases that a pass asks for between two worlds, and how it ends. -/
inductive Course (op : Operator κ ρ) (id : ResourceId) (w w' : World κ ρ) :
    List Phase → Except Failure PassResult → Prop where
  /-- There is no resource. -/
  | absent : Course op id w w' [] (.ok { resource := id, action := .noop })
  /-- The deployed tag names no version. -/
  | emptyTag {image : String} : Course op id w w' [] (.error (.operator (.ofEmptyTag image)))
  /-- The resource cannot be read. -/
  | resourceUnread {e : OperatorError} (hkind : e.kind.isCluster = true)
      (habsent : e.kind ≠ .notFound)
      (h : FailsWithin (op.cluster.getWebUI id) (.operator e) w [] [.otherError] w') :
      Course op id w w' [.otherError] (.error (.operator e))
  /-- The deployment cannot be read. -/
  | deploymentUnread {e : OperatorError} (hkind : e.kind.isCluster = true)
      (habsent : e.kind ≠ .notFound)
      (h : FailsWithin (op.cluster.getDeployment id.ns op.settings.cluster.deploymentName)
        (.operator e) w [] [.otherError] w') :
      Course op id w w' [.otherError] (.error (.operator e))
  /-- Nothing is to be done. -/
  | idle {phases : List Phase} {phase : Phase} {message : String} (h : Idle phases phase) :
      Course op id w w' phases
        (.ok { resource := id, action := .noop, phase := some phase, message })
  /-- The deployed version is taken away. -/
  | deprovisioned {message : String} :
      Course op id w w' [.deprovisionStarted, .deprovisioned]
        (.ok { resource := id, action := .deprovision, phase := some .deprovisioned, message })
  /-- The deployed version cannot be taken away. -/
  | deprovisionFailed {resource : WebUI} {failure : Failure}
      (h : FailsWithin (op.runPlaybook .deprovision resource.spec resource.id.ns) failure w
        [.deprovisionStarted] [.deprovisionFailed] w') :
      Course op id w w' [.deprovisionStarted, .deprovisionFailed] (.error failure)
  /-- The wanted version is deployed. -/
  | provisioned {action : Action} {lead : List Phase} {target : ResourceId} {message : String}
      (hlead : Lead action lead) :
      Course op id w w' (lead ++ [.provisionStarted, .provisioned])
        (.ok { resource := target, action, phase := some .provisioned, message })
  /-- The wanted version cannot be deployed. -/
  | provisionFailed {action : Action} {lead : List Phase} {resource : WebUI} {failure : Failure}
      (hlead : Lead action lead)
      (h : FailsWithin (op.runPlaybook .provision resource.spec resource.id.ns) failure w
        (lead ++ [.provisionStarted]) [.provisionFailed] w') :
      Course op id w w' (lead ++ [.provisionStarted, .provisionFailed]) (.error failure)
  /-- The deployment cannot be linked to the resource. -/
  | unlinked {action : Action} {lead : List Phase} {e : OperatorError} (hlead : Lead action lead)
      (hkind : e.kind = .ownerReference) :
      Course op id w w' (lead ++ [.provisionStarted, .ownerReferenceFailed])
        (.error (.operator e))

/-- From the second world on, the action takes a pass that started in the first to its end. -/
def Takes (op : Operator κ ρ) (id : ResourceId) (w : World κ ρ) (action : Act κ ρ PassResult)
    (w₁ : World κ ρ) : Prop :=
  ∃ phases, Later w phases (action.runOn w₁).2 ∧
    Course op id w (action.runOn w₁).2 phases (action.runOn w₁).1

/-- From the second world on, the action takes a pass that started in the first to its end, which is
a result or an error of the operator. -/
structure Ends (op : Operator κ ρ) (id : ResourceId) (w : World κ ρ) (action : Act κ ρ PassResult)
    (w₁ : World κ ρ) : Prop where
  takes : Takes op id w action w₁
  operator : ∀ failure, (action.runOn w₁).1 = .error failure → failure.IsOperator

/-- An action ends a pass on a course with a result. -/
theorem ends_of_ok {id : ResourceId} {action : Act κ ρ PassResult} {result : PassResult}
    {phases : List Phase} {w₁ : World κ ρ} (hrun : action.runOn w₁ = (.ok result, w'))
    (hlater : Later w phases w') (hcourse : Course op id w w' phases (.ok result)) :
    Ends op id w action w₁ := by
  constructor
  · unfold Takes
    rw [hrun]
    exact ⟨phases, hlater, hcourse⟩
  · rw [hrun]
    rintro _ ⟨⟩

/-- An action ends a pass on a course with an error of the operator. -/
theorem ends_of_error {id : ResourceId} {action : Act κ ρ PassResult} {e : OperatorError}
    {phases : List Phase} {w₁ : World κ ρ}
    (hrun : action.runOn w₁ = (.error (.operator e), w')) (hlater : Later w phases w')
    (hcourse : Course op id w w' phases (.error (.operator e))) : Ends op id w action w₁ := by
  constructor
  · unfold Takes
    rw [hrun]
    exact ⟨phases, hlater, hcourse⟩
  · rw [hrun]
    rintro _ ⟨⟩
    exact ⟨e, rfl⟩

/-- An action takes a pass to its end if its first part leads to where its second part does. -/
theorem ends_bind {α : Type} {id : ResourceId} {m : Act κ ρ α} {f : α → Act κ ρ PassResult}
    {a : α} {w₁ w₂ : World κ ρ} (hrun : m.runOn w₁ = (.ok a, w₂))
    (h : Ends op id w (f a) w₂) : Ends op id w (m >>= f) w₁ := by
  obtain ⟨htakes, hoperator⟩ := h
  constructor
  · unfold Takes
    rw [Act.runOn_bind_ok _ hrun]
    exact htakes
  · rw [Act.runOn_bind_ok _ hrun]
    exact hoperator

/-! ### Links -/

section Course

variable (hs : op.Attentive good) (hw : good w.cluster)
include hs hw

/-- Refusing a link asks for one status and ends with the error. -/
theorem refuseLink_run {α : Type} (id : ResourceId) (message : String) (e : OperatorError) :
    ∃ w', (op.refuseLink id message e : Act κ ρ α).runOn w = (.error (.operator e), w') ∧
      Reached good w [.ownerReferenceFailed] w' := by
  obtain ⟨w', hrun, hreached⟩ := hs.setStatus id .ownerReferenceFailed message _ hw
  exact ⟨w', by rw [refuseLink, Act.runOn_bind_ok _ hrun]; rfl, hreached⟩

/-- A link is made without a status, or refused with one. -/
theorem link_run (parent : WebUI) (ns : String) :
    (∃ deployment w', (op.link parent ns).runOn w = (.ok deployment, w') ∧ Reached good w [] w') ∨
      ∃ e w', (op.link parent ns).runOn w = (.error (.operator e), w') ∧
        e.kind = .ownerReference ∧ Reached good w [.ownerReferenceFailed] w' := by
  -- Every refusal reports something, asks for one status, and ends with the error.
  have refused : ∀ {w₁ : World κ ρ} {event : Event} {message : String} {e : OperatorError},
      Reached good w [] w₁ → event.phase? = none → e.kind = .ownerReference →
        ∃ e' w', (do
          Act.report event
          op.refuseLink parent.id message e : Act κ ρ Deployment).runOn w₁ =
            (.error (.operator e'), w') ∧
          e'.kind = .ownerReference ∧ Reached good w [.ownerReferenceFailed] w' := by
    intro w₁ event message e h₁ he hkind
    have h₂ := h₁.report event he
    obtain ⟨w₃, hrun, h₃⟩ := refuseLink_run hs h₂.good parent.id message e
    exact ⟨e, w₃, hrun, hkind, h₂.trans h₃⟩
  rw [link]
  obtain ⟨deployment, w₁, -, hrun, h₁⟩ | ⟨e, w₁, -, -, hrun, h₁⟩ :=
    catching_cluster (hs.getDeployment ns op.settings.cluster.deploymentName) hw
  · rw [Act.runOn_bind_ok _ hrun]
    cases hcontroller : deployment.controller? with
    | some owner =>
      simp only [hcontroller]
      split
      · exact .inl ⟨deployment, _, rfl, h₁.report _ rfl⟩
      · exact .inr (refused h₁ rfl rfl)
    | none =>
      simp only [hcontroller]
      obtain ⟨written, w₂, -, hrun', h₂⟩ | ⟨e, w₂, -, -, hrun', h₂⟩ :=
        catching_cluster (hs.updateOwners
          (deployment.withOwner op.settings.cluster parent)) h₁.good
      · rw [Act.runOn_bind_ok _ hrun']
        have h₂ := h₁.trans h₂
        exact .inl ⟨written, _, rfl, h₂.report _ rfl⟩
      · rw [Act.runOn_bind_ok _ hrun']
        exact .inr (refused (h₁.trans h₂) rfl rfl)
  · rw [Act.runOn_bind_ok _ hrun]
    exact .inr (refused h₁ rfl rfl)

/-- The playbook's task is done without a status, or it fails and one status says so. -/
theorem attemptPlaybook_run (task : PlaybookAction) (resource : WebUI) :
    (∃ w', (op.attemptPlaybook task resource).runOn w = (.ok (), w') ∧ Reached good w [] w') ∨
      ∃ e w', (op.attemptPlaybook task resource).runOn w = (.error (.operator e), w') ∧
        Reached good w [failedPhase task] w' ∧
        FailsWithin (op.runPlaybook task resource.spec resource.id.ns) (.operator e) w []
          [failedPhase task] w' := by
  rw [attemptPlaybook]
  obtain ⟨_, w', hrun, h₁⟩ | ⟨e, w', hfail, hrun, h₁⟩ :=
    catching_operator (runPlaybook_sound hs task resource.spec resource.id.ns) hw
  · rw [Act.runOn_bind_ok _ hrun]
    exact .inl ⟨w', rfl, h₁⟩
  · rw [Act.runOn_bind_ok _ hrun]
    -- The status that reports the failure is counted from the world where the playbook ended.
    have hstart : Reached good w' [] w' := ⟨h₁.good, .refl w'⟩
    have h₂ := hstart.report (.playbookFailed task resource.id e.message e.code) rfl
    obtain ⟨w₃, hrun', h₃⟩ :=
      hs.setStatus resource.id (failedPhase task) (failedMessage task) _ h₂.good
    have h₃ := h₂.trans h₃
    refine .inr ⟨e, w₃, ?_, h₁.trans h₃, w, w', .refl w, hfail, h₃.later⟩
    exact Act.runOn_bind_ok _ hrun'

/-- The deployed version is taken away between two statuses. -/
theorem deprovision_run (resource : WebUI) :
    (∃ w', (op.deprovision resource).runOn w = (.ok (), w') ∧
        Reached good w [.deprovisionStarted, .deprovisioned] w') ∨
      ∃ e w', (op.deprovision resource).runOn w = (.error (.operator e), w') ∧
        Reached good w [.deprovisionStarted, .deprovisionFailed] w' ∧
        FailsWithin (op.runPlaybook .deprovision resource.spec resource.id.ns) (.operator e) w
          [.deprovisionStarted] [.deprovisionFailed] w' := by
  -- Three steps, each from the world that the one before has reached: announce, run the
  -- playbook, say how it went.
  obtain ⟨w₁, hstart, h₁⟩ := hs.setStatus resource.id .deprovisionStarted "" _ hw
  rw [deprovision, Act.runOn_bind_ok _ hstart]
  obtain ⟨w₂, hplay, h₂⟩ | ⟨e, w₂, hplay, h₂, w₃, w₄, hbefore, hfail, hafter⟩ :=
    attemptPlaybook_run hs h₁.good .deprovision resource
  · rw [Act.runOn_bind_ok _ hplay]
    obtain ⟨w₃, hend, h₃⟩ :=
      hs.setStatus resource.id .deprovisioned (finishedMessage .deprovision) _ h₂.good
    exact .inl ⟨w₃, hend, h₁.trans (h₂.trans h₃)⟩
  · rw [Act.runOn_bind_error _ hplay]
    exact .inr ⟨e, w₂, rfl, h₁.trans h₂, w₃, w₄, h₁.later.trans hbefore, hfail, hafter⟩

/-- A failed link of a deployment in its wanted version is only reported. -/
theorem repairLink_run (id : ResourceId) (resource : WebUI) (deployment : Deployment) :
    ∃ w', (op.repairLink id resource deployment).runOn w = (.ok (), w') ∧
      (Reached good w [] w' ∨ Reached good w [.ownerReferenceFailed] w') := by
  rw [repairLink]
  split
  · exact ⟨w, rfl, .inl ⟨hw, .refl w⟩⟩
  · obtain ⟨written, w₁, hrun, h₁⟩ | ⟨e, w₁, hrun, hkind, h₁⟩ := link_run hs hw resource id.ns
    · rw [Act.runOn_bind_ok _ (Act.runOn_catching_ok hrun)]
      exact ⟨w₁, rfl, .inl h₁⟩
    · have hpick : linkError? (.operator e) = some e := by
        simp [linkError?, Failure.operator?, hkind]
      rw [Act.runOn_bind_ok _ (Act.runOn_catching_some hrun hpick)]
      exact ⟨_, rfl, .inr (h₁.report _ rfl)⟩

end Course

/-! ### The branches of a pass -/

/-- A version is missing from a tag that is there only because the tag names none. -/
theorem deployedVersion_error {deployment : Deployment} {name : String} {failure : Failure}
    (h : deployment.deployedVersion name = .error failure) :
    ∃ image, failure = .operator (.ofEmptyTag image) := by
  unfold Deployment.deployedVersion at h
  split at h
  · cases h
  · next container _ =>
    split at h
    · cases h
    · dsimp only at h
      split at h
      · cases h
        exact ⟨container.image, rfl⟩
      · cases h

/-- Nothing is provisioned over a deployment without taking it away first. -/
theorem choose_some_ne_provision (desired actual : String) :
    Action.choose desired (some actual) ≠ .provision := by
  simp only [Action.choose]
  split
  · simp
  · split <;> simp

section Branches

variable {id : ResourceId} {resource : WebUI} {deployment : Deployment} {w₁ : World κ ρ}
  (hs : op.Attentive good)
include hs

/-- A pass that changes nothing ends with one more status. -/
theorem finish_ends {lead : List Phase} {phase : Phase} (message : String)
    (h : Reached good w lead w₁) (hidle : Idle (lead ++ [phase]) phase) :
    Ends op id w (op.finish id .noop phase message) w₁ := by
  obtain ⟨w₂, hrun, h₂⟩ := hs.setStatus id phase message _ h.good
  have h₃ := (h.trans h₂).report (.passFinished id .noop phase) rfl
  exact ends_bind hrun (ends_of_ok rfl h₃.later (.idle hidle))

/-- A pass that has done what comes before it deploys the wanted version. -/
theorem provision_ends {action : Action} {lead : List Phase} (hlead : Lead action lead)
    (h : Reached good w lead w₁) : Ends op id w (op.provision resource action) w₁ := by
  obtain ⟨w₂, hstart, h₂⟩ := hs.setStatus resource.id .provisionStarted
    ("Target version: " ++ resource.spec.version) _ h.good
  -- From here on `hᵢ` is about the whole way from `w`, so that its phases are those of the
  -- course.
  have h₂ := h.trans h₂
  refine ends_bind hstart ?_
  obtain ⟨w₃, hplay, h₃⟩ | ⟨e, w₃, hplay, h₃, w₄, w₅, hbefore, hfail, hafter⟩ :=
    attemptPlaybook_run hs h₂.good .provision resource
  · have h₃ := h₂.trans h₃
    refine ends_bind hplay ?_
    obtain ⟨written, w₄, hlink, h₄⟩ | ⟨e, w₄, hlink, hkind, h₄⟩ :=
      link_run hs h₃.good resource resource.id.ns
    · have h₄ := h₃.trans h₄
      refine ends_bind hlink ?_
      obtain ⟨w₅, hend, h₅⟩ :=
        hs.setStatus resource.id .provisioned (finishedMessage .provision) _ h₄.good
      have h₅ := (h₄.trans h₅).report
        (.passFinished resource.id action .provisioned) rfl
      refine ends_bind hend (ends_of_ok rfl ?_ (.provisioned hlead))
      simpa using h₅.later
    · refine ends_of_error (Act.runOn_bind_error _ hlink) ?_ (.unlinked hlead hkind)
      simpa using (h₃.trans h₄).later
  · have hbefore : Later w (lead ++ [.provisionStarted]) w₄ := by
      simpa using h₂.later.trans hbefore
    refine ends_of_error (Act.runOn_bind_error _ hplay) ?_
      (.provisionFailed hlead ⟨w₄, w₅, hbefore, hfail, hafter⟩)
    simpa [failedPhase] using (h₂.trans h₃).later

/-- A pass takes a version away and deploys another, or stops after the first half. -/
theorem replace_ends (h : Reached good w [] w₁) :
    Ends op id w (op.replace id resource .deprovisionThenProvision) w₁ := by
  obtain ⟨w₂, hrun, h₂⟩ | ⟨e, w₂, hrun, h₂, w₃, w₄, hbefore, hfail, hafter⟩ :=
    deprovision_run hs h.good resource
  · exact ends_bind (Act.runOn_catching_ok hrun) (provision_ends hs .again (h.trans h₂))
  · refine ends_bind (Act.runOn_catching_some hrun rfl) ?_
    have h₃ := (h.trans h₂).report (.firstHalfFailed id) rfl
    -- The failure lies within the first half, and one more report follows it.
    have hafter := hafter.trans (.report w₂ (.firstHalfFailed id))
    exact ends_of_error rfl h₃.later
      (.deprovisionFailed ⟨w₃, w₄, h.later.trans hbefore, hfail, hafter⟩)

/-- A pass that chose what to do about a deployment does it. -/
theorem carryOut_ends {actual : String} {action : Action} (haction : action ≠ .provision)
    (h : Reached good w [] w₁) :
    Ends op id w (op.carryOut id resource deployment actual action) w₁ := by
  -- No phase has been reported yet; which phases follow is decided by the action alone.
  cases action with
  | provision => exact absurd rfl haction
  | deprovisionThenProvision => exact replace_ends hs h
  | deprovision =>
    obtain ⟨w₂, hrun, h₂⟩ | ⟨e, w₂, hrun, h₂, w₃, w₄, hbefore, hfail, hafter⟩ :=
      deprovision_run hs h.good resource
    · have h₃ := (h.trans h₂).report (.passFinished id .deprovision .deprovisioned) rfl
      exact ends_bind hrun (ends_of_ok rfl h₃.later .deprovisioned)
    · exact ends_of_error (Act.runOn_bind_error _ hrun) (h.trans h₂).later
        (.deprovisionFailed ⟨w₃, w₄, h.later.trans hbefore, hfail, hafter⟩)
  | noop =>
    obtain ⟨w₂, hrun, h₂ | h₂⟩ := repairLink_run hs h.good id resource deployment
    · exact ends_bind hrun (finish_ends hs _ (h.trans h₂) .conforming)
    · exact ends_bind hrun (finish_ends hs _ (h.trans h₂) .unlinked)

/-- A pass goes on with a deployment. -/
theorem settleDeployed_ends (h : Reached good w [] w₁) :
    Ends op id w (op.settleDeployed id resource deployment) w₁ := by
  rw [settleDeployed]
  cases hversion : deployment.deployedVersion op.settings.cluster.containerName with
  | error failure =>
    obtain ⟨image, rfl⟩ := deployedVersion_error hversion
    exact ends_of_error (Act.runOn_bind_error _ (Act.runOn_lift _ w₁)) h.later .emptyTag
  | ok version =>
    refine ends_bind (Act.runOn_lift _ w₁) ?_
    cases version with
    | some actual =>
      have h₂ := h.report (.actionDecided id
        (Action.choose resource.spec.version (some actual)) resource.spec.version
        (some actual)) rfl
      -- A deployed version is known, so the choice cannot be to provision.
      exact ends_bind (Act.runOn_report _ w₁)
        (carryOut_ends hs (choose_some_ne_provision _ _) h₂)
    | none =>
      exact ends_bind (Act.runOn_report _ w₁) (finish_ends hs _ (h.report _ rfl) .unreadable)

/-- A pass goes on where nothing is deployed. -/
theorem settleAbsent_ends (h : Reached good w [] w₁) :
    Ends op id w (op.settleAbsent id resource) w₁ := by
  have h₂ := h.report (.actionDecided id
    (Action.choose resource.spec.version none) resource.spec.version none) rfl
  refine ends_bind (Act.runOn_report _ w₁) ?_
  cases hempty : resource.spec.version.isEmpty with
  | true =>
    simp only [Action.choose, hempty, if_true] at h₂ ⊢
    exact finish_ends hs _ h₂ .notDeployed
  | false =>
    simp only [Action.choose, hempty, Bool.false_eq_true, if_false] at h₂ ⊢
    exact provision_ends hs .fresh h₂

/-- A pass goes on with a resource. -/
theorem settleResource_ends (h : Reached good w [] w₁) :
    Ends op id w (op.settleResource id resource) w₁ := by
  rw [settleResource]
  obtain ⟨deployment, w₂, -, hrun, h₂⟩ | ⟨e, w₂, hfail, hkind, hrun, h₂⟩ :=
    catching_cluster (hs.getDeployment id.ns op.settings.cluster.deploymentName) h.good
  · exact ends_bind hrun (settleDeployed_ends hs (h.trans h₂))
  · refine ends_bind hrun ?_
    by_cases habsent : e.kind = .notFound
    · simp only [saysAbsent, habsent, decide_true, if_true]
      exact settleAbsent_ends hs (h.trans h₂)
    · simp only [saysAbsent, habsent, decide_false, Bool.false_eq_true, if_false]
      -- What is asked for after the failure is counted from the world that it left.
      have hstart : Reached good w₂ [] w₂ := ⟨h₂.good, .refl w₂⟩
      have h₃ := hstart.report (.deploymentUnreadable id e.message) rfl
      obtain ⟨w₄, hstatus, h₄⟩ :=
        hs.setStatus id .otherError deploymentUnreadableMessage _ h₃.good
      have h₄ := h₃.trans h₄
      refine ends_bind (Act.runOn_report _ w₂) (ends_bind hstatus ?_)
      exact ends_of_error rfl ((h.trans h₂).trans h₄).later
        (.deploymentUnread hkind habsent ⟨w₁, w₂, h.later, hfail, h₄.later⟩)

/-- A pass of an attentive operator takes one of the courses. -/
theorem pass_ends (hw : good w.cluster) : Ends op id w (op.pass id) w := by
  have h : Reached good w [] w := ⟨hw, .refl w⟩
  have h₁ := h.report (.passStarted id) rfl
  rw [pass]
  refine ends_bind (Act.runOn_report _ w) ?_
  obtain ⟨resource, w₂, -, hrun, h₂⟩ | ⟨e, w₂, hfail, hkind, hrun, h₂⟩ :=
    catching_cluster (hs.getWebUI id) h₁.good
  · exact ends_bind hrun (settleResource_ends hs (h₁.trans h₂))
  · refine ends_bind hrun ?_
    -- That the resource is not there is no failure of the pass. Any other failure to read it is.
    by_cases habsent : e.kind = .notFound
    · simp only [saysAbsent, habsent, decide_true, if_true]
      have h₃ := (h₁.trans h₂).report (.resourceAbsent id) rfl
      exact ends_bind (Act.runOn_report _ w₂) (ends_of_ok rfl h₃.later .absent)
    · simp only [saysAbsent, habsent, decide_false, Bool.false_eq_true, if_false]
      have hstart : Reached good w₂ [] w₂ := ⟨h₂.good, .refl w₂⟩
      have h₃ := hstart.report (.resourceUnreadable id e.message) rfl
      obtain ⟨w₄, hstatus, h₄⟩ := hs.setStatus id .otherError resourceUnreadableMessage _ h₃.good
      have h₄ := h₃.trans h₄
      refine ends_bind (Act.runOn_report _ w₂) (ends_bind hstatus ?_)
      exact ends_of_error rfl ((h₁.trans h₂).trans h₄).later
        (.resourceUnread hkind habsent ⟨_, w₂, h₁.later, hfail, h₄.later⟩)

end Branches

/-- A store with a resource whose first status cannot be written. -/
def troubledStore : Store :=
  (({} : Store).putWebUI
    { id := ⟨"ns", "ui"⟩, uid := "u1", spec := { version := "v1.4" } }).failNext
    .updateWebUI (.operator (.plain .cluster "The cluster is down." [])) 1

/-- The failures of this store are those of a cluster. -/
theorem scripted_troubledStore : troubledStore.Scripted := by
  intro operation failure hmem
  cases operation with
  | updateWebUI =>
    rw [List.mem_singleton.mp hmem]
    exact ⟨_, rfl, rfl⟩
  | getWebUI | getDeployment | updateOwners => cases hmem

end ConsoleKeeper.Operator
