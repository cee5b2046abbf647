import ConsoleKeeper.Cluster.Interface
import ConsoleKeeper.Proofs.Cluster.Effect
import ConsoleKeeper.Proofs.Resource.Deployment

/-!
# `ConsoleKeeper.Proofs.Cluster.Interface`: the contract of the calls

A cluster's interface replies to a call with a document, or it turns the call down (`Refusal`). The
contract of the operator's calls says what is made of a reply: a value, the error of an absent
object exactly if the reply says so, or another cluster error. `Kept` states this of one call.

Refusals are turned into these errors, so the contract is kept for each of them
(`read_run_refused`). A document is read only after that. Where it does not fit, the call ends with
a failure that is no error of the operator at all (`IsMisfit`). So a call keeps the contract exactly
if the document that it was given can be read; `contract` says this for each of the four calls, of
every interface and in every world.
-/

set_option autoImplicit false

namespace ConsoleKeeper

/-! ### Documents that do not fit -/

/-- A document does not fit a record. -/
inductive Failure.IsMisfit : Failure → Prop where
  | noMember : IsMisfit .noMember
  | wrongKind : IsMisfit .wrongKind
  | faults (faults : List Fault) : IsMisfit (.faults faults)

/-- A misfit is no error of the operator, so no handler of the operator knows it. -/
theorem Failure.IsMisfit.operator? {failure : Failure} (h : failure.IsMisfit) :
    failure.operator? = none := by
  cases h <;> rfl

/-- A document that does not fit is no failure of the cluster. -/
theorem Failure.IsMisfit.cluster? {failure : Failure} (h : failure.IsMisfit) :
    failure.cluster? = none := by
  cases h <;> rfl

/-- What is computed fails only where a document does not fit. -/
def OnlyMisfits {α : Type} (x : Except Failure α) : Prop :=
  ∀ failure, x = .error failure → failure.IsMisfit

namespace OnlyMisfits

variable {α β : Type}

/-- A value is no failure at all. -/
theorem ok (a : α) : OnlyMisfits (.ok a) := by
  rintro _ ⟨⟩

/-- A failure that is a misfit is one. -/
theorem error {failure : Failure} (h : failure.IsMisfit) :
    OnlyMisfits (.error failure : Except Failure α) := by
  rintro _ ⟨⟩
  exact h

/-- Two steps in a row fail only by misfits if each of them does. -/
theorem bind {x : Except Failure α} {f : α → Except Failure β} (hx : OnlyMisfits x)
    (hf : ∀ a, OnlyMisfits (f a)) : OnlyMisfits (x >>= f) := by
  cases x with
  | ok a => exact hf a
  | error failure => exact .error (hx failure rfl)

/-- Faults that a reading finds are misfits. -/
theorem orFail (x : Checked α) : OnlyMisfits x.orFail := by
  cases x with
  | ok a => exact .ok a
  | faulty faults =>
    rw [Checked.orFail]
    split
    · exact .error .wrongKind
    · exact .error (.faults faults)

/-- A part of a document can be missing or be none. -/
theorem part (document : Data) (key : String) : OnlyMisfits (document.part key) := by
  unfold Data.part
  split
  · exact .ok _
  · exact .error .noMember

/-- The items of a document can be none. -/
theorem itemsOrNone (document : Data) : OnlyMisfits document.itemsOrNone := by
  unfold Data.itemsOrNone
  split
  · exact .ok _
  · split
    · exact .ok _
    · exact .error .noMember
  · split
    · exact .ok _
    · exact .error .wrongKind

/-- A list fails only by misfits if each of its items does. -/
theorem mapM {f : α → Except Failure β} (hf : ∀ a, OnlyMisfits (f a)) (items : List α) :
    OnlyMisfits (items.mapM f) := by
  induction items with
  | nil => exact .ok []
  | cons a items ih =>
    rw [List.mapM_cons]
    exact (hf a).bind fun _ => ih.bind fun _ => .ok _

end OnlyMisfits

/-- An object that is no resource is a misfit. -/
theorem WebUI.ofObject_onlyMisfits (document : Data) : OnlyMisfits (ofObject document) := by
  unfold ofObject
  split
  · split
    · exact (OnlyMisfits.orFail _).bind fun _ => (OnlyMisfits.orFail _).bind fun _ =>
        (OnlyMisfits.orFail _).bind fun _ => .orFail _
    · exact .error .noMember
  · exact .error .noMember

/-- A resource whose object has no place for the status is a misfit. -/
theorem WebUI.toObject_onlyMisfits (resource : WebUI) : OnlyMisfits resource.toObject := by
  unfold toObject
  dsimp only
  split
  · split
    · exact .ok _
    · exact .error .wrongKind
  · exact .error .noMember

/-- Containers that cannot be read are a misfit. -/
theorem containersOf_onlyMisfits (document : Data) : OnlyMisfits (containersOf document) := by
  have hcontainer : ∀ item, OnlyMisfits (Container.ofInterface item) := fun item =>
    (OnlyMisfits.part _ _).bind fun _ => (OnlyMisfits.part _ _).bind fun _ => .orFail _
  -- At each level a part that is missing means that there are no containers.
  refine (OnlyMisfits.part _ _).bind fun spec => ?_
  split
  · exact .ok []
  · refine (OnlyMisfits.part _ _).bind fun template => ?_
    split
    · exact .ok []
    · refine (OnlyMisfits.part _ _).bind fun pod => ?_
      split
      · exact .ok []
      · exact (OnlyMisfits.part _ _).bind fun _ => (OnlyMisfits.itemsOrNone _).bind fun _ =>
          .mapM hcontainer _

/-- An owner that cannot be read is a misfit. -/
theorem OwnerReference.ofInterface_onlyMisfits (document : Data) :
    OnlyMisfits (ofInterface document) :=
  (OnlyMisfits.part _ _).bind fun _ => (OnlyMisfits.part _ _).bind fun _ =>
    (OnlyMisfits.part _ _).bind fun _ => (OnlyMisfits.part _ _).bind fun _ =>
      (OnlyMisfits.part _ _).bind fun _ => (OnlyMisfits.part _ _).bind fun _ => .orFail _

/-- A deployment that cannot be read is a misfit. -/
theorem Deployment.ofInterface_onlyMisfits (document : Data) :
    OnlyMisfits (ofInterface document) := by
  refine (OnlyMisfits.part _ _).bind fun metadata => ?_
  refine (containersOf_onlyMisfits _).bind fun containers => ?_
  refine (OnlyMisfits.part _ _).bind fun references => ?_
  refine (OnlyMisfits.itemsOrNone _).bind fun items => ?_
  refine (OnlyMisfits.mapM OwnerReference.ofInterface_onlyMisfits items).bind fun owners => ?_
  exact (OnlyMisfits.part _ _).bind fun _ => (OnlyMisfits.part _ _).bind fun _ =>
    (OnlyMisfits.part _ _).bind fun _ => .orFail _

/-! ### Replies -/

/-- Nothing but an event that reports no status lies between the two worlds. -/
inductive World.Told {κ ρ : Type} (w : World κ ρ) : World κ ρ → Prop where
  | nothing : Told w w
  | event {event : Event} (h : event.status? = none) :
      Told w { w with journal := w.journal.push event }

namespace Interface

variable {κ ρ α : Type}

/-- How an interface turns a call down. -/
inductive Refusal where
  | status (code reason : Data)
  | connection (said : String)
  deriving Repr

namespace Refusal

/-- The failure with which the interface's call ends. -/
def failure : Refusal → Failure
  | status code reason => .api code reason
  | connection said => .connection said

/-- Whether the object of the call is absent. -/
def isAbsence : Refusal → Bool
  | status code _ => saysAbsent code
  | connection _ => false

/-- The cluster error that is made of a refusal. -/
def error (object : ObjectName) : Refusal → OperatorError
  | status code reason =>
    if saysAbsent code then
      (OperatorError.absent object.kind object.ns object.name).causedBy .api
    else refusal object code reason
  | connection said => disconnection object said

/-- A refusal becomes the error of an absent object exactly if it says that the object is absent,
and another cluster error otherwise. -/
theorem kind_error (object : ObjectName) (refusal : Refusal) :
    (refusal.error object).kind = if refusal.isAbsence then .notFound else .cluster := by
  cases refusal with
  | status code reason =>
    rw [error, isAbsence]
    cases saysAbsent code <;> rfl
  | connection said => rfl

/-- Every refusal becomes an error of the cluster. -/
theorem isCluster_error (object : ObjectName) (refusal : Refusal) :
    (refusal.error object).kind.isCluster = true := by
  rw [kind_error]
  split <;> rfl

/-- The error says that something is absent exactly if the refusal does. -/
theorem kind_error_iff (object : ObjectName) (refusal : Refusal) :
    (refusal.error object).kind = .notFound ↔ refusal.isAbsence = true := by
  rw [kind_error]
  split <;> simp_all

end Refusal

/-- How an interface's call ends with a reply. -/
def outcomeOf (reply : Except Refusal Data) : Except Failure Data :=
  reply.mapError Refusal.failure

variable {object : ObjectName} {ask : Act κ ρ Data} {w w' : World κ ρ}

/-- An answer is passed on. -/
theorem call_run_ok {answer : Data} (h : ask.runOn w = (.ok answer, w')) :
    (call object ask).runOn w = (.ok answer, w') := by
  rw [call, Act.runOn_bind_ok _ (Act.runOn_catching_ok h)]
  rfl

/-- A refusal becomes its cluster error. -/
theorem call_run_refused (object : ObjectName) {refusal : Refusal}
    (h : ask.runOn w = (.error refusal.failure, w')) :
    ∃ w'', (call object ask).runOn w = (.error (.operator (refusal.error object)), w'') ∧
      w'.Told w'' := by
  rw [call, Act.runOn_bind_ok _ (Act.runOn_catching_some h rfl)]
  cases refusal with
  | status code reason =>
    simp only [Refusal.failure, Refusal.error]
    split
    · exact ⟨_, rfl, .nothing⟩
    · exact ⟨_, rfl, .event rfl⟩
  | connection said => exact ⟨_, rfl, .event rfl⟩

/-- The answer to a call is read. -/
theorem read_run_ok {document : Data} (object : ObjectName) (read : Data → Except Failure α)
    (h : ask.runOn w = (.ok document, w')) :
    (do
      let answer ← call object ask
      Act.lift (read answer) : Act κ ρ α).runOn w = (read document, w') := by
  rw [Act.runOn_bind_ok _ (call_run_ok h), Act.runOn_lift]

/-- There is nothing to read after a refusal. -/
theorem read_run_refused {refusal : Refusal} (object : ObjectName) (read : Data → Except Failure α)
    (h : ask.runOn w = (.error refusal.failure, w')) :
    ∃ w'', (do
        let answer ← call object ask
        Act.lift (read answer) : Act κ ρ α).runOn w =
          (.error (.operator (refusal.error object)), w'') ∧ w'.Told w'' := by
  obtain ⟨w'', hrun, htold⟩ := call_run_refused object h
  exact ⟨w'', Act.runOn_bind_error _ hrun, htold⟩

/-! ### The contract -/

/-- A reply says that the object of the call is absent. -/
def Absence (reply : Except Refusal Data) : Prop :=
  ∃ refusal, reply = .error refusal ∧ refusal.isAbsence = true

/-- The contract of a call that got a reply: it gives a value, or it ends with a cluster error. It
is the error of an absent object exactly if the reply says that the object is absent. -/
def Kept (reply : Except Refusal Data) (outcome : Except Failure α) : Prop :=
  (∃ a, outcome = .ok a ∧ ¬Absence reply) ∨
    ∃ e, outcome = .error (.operator e) ∧ e.kind.isCluster = true ∧
      (e.kind = .notFound ↔ Absence reply)

/-- A misfit is against the contract. -/
theorem not_kept_of_misfit {reply : Except Refusal Data} {failure : Failure}
    (h : failure.IsMisfit) : ¬Kept reply (.error failure : Except Failure α) := by
  rintro (⟨_, he, -⟩ | ⟨e, he, -⟩)
  · cases he
  · cases he
    cases h

/-- A reply can be read: it is a refusal, or a document that fits. -/
def Readable (read : Data → Except Failure α) (reply : Except Refusal Data) : Prop :=
  ∀ document, reply = .ok document → ∃ a, read document = .ok a

/-- A call whose answer is read keeps the contract exactly if the reply can be read. -/
theorem kept_iff_readable {read : Data → Except Failure α} (hread : ∀ d, OnlyMisfits (read d))
    {reply : Except Refusal Data} (hask : ask.runOn w = (outcomeOf reply, w')) :
    Kept reply ((do
        let answer ← call object ask
        Act.lift (read answer)).runOn w).1 ↔ Readable read reply := by
  cases reply with
  | ok document =>
    have habsence : ¬Absence (.ok document) := by
      rintro ⟨_, h, -⟩
      cases h
    rw [read_run_ok object read hask]
    -- A document that cannot be read is a misfit, which the contract knows no place for.
    cases hd : read document with
    | ok a =>
      refine iff_of_true (.inl ⟨a, rfl, habsence⟩) ?_
      rintro _ ⟨⟩
      exact ⟨a, hd⟩
    | error failure =>
      refine iff_of_false (not_kept_of_misfit (hread document failure hd)) fun h => ?_
      obtain ⟨a, ha⟩ := h document rfl
      rw [hd] at ha
      cases ha
  | error refusal =>
    obtain ⟨w'', hrun, -⟩ := read_run_refused object read hask
    rw [hrun]
    have habsence : Absence (.error refusal) ↔ refusal.isAbsence = true := by
      simp [Absence]
    refine iff_of_true (.inr ⟨_, rfl, refusal.isCluster_error object, ?_⟩) ?_
    · rw [habsence, Refusal.kind_error_iff]
    · rintro _ ⟨⟩

/-- Of the calls over an interface, each keeps the contract exactly as far as the reply can be read.
A resource that cannot be written back is not written at all, which is against the contract. -/
structure Contract (calls : Interface κ ρ) (settings : ClusterSettings) (w : World κ ρ) :
    Prop where
  getWebUI : ∀ (id : ResourceId) (reply : Except Refusal Data) (w' : World κ ρ),
    (calls.getObject settings.group settings.version id.ns settings.plural id.name).runOn w =
        (outcomeOf reply, w') →
      (Kept reply ((calls.getWebUI settings id).runOn w).1 ↔ Readable WebUI.ofObject reply)
  updateWebUI : ∀ (resource : WebUI) (body : Fields) (reply : Except Refusal Data) (w' : World κ ρ),
    resource.toObject = .ok body →
    (calls.replaceObject settings.group settings.version resource.id.ns settings.plural
        resource.id.name (.object body)).runOn w = (outcomeOf reply, w') →
      (Kept reply ((calls.updateWebUI settings resource).runOn w).1 ↔
        Readable WebUI.ofObject reply)
  unwritable : ∀ (resource : WebUI) (failure : Failure), resource.toObject = .error failure →
    failure.IsMisfit ∧ (calls.updateWebUI settings resource).runOn w = (.error failure, w)
  getDeployment : ∀ (ns name : String) (reply : Except Refusal Data) (w' : World κ ρ),
    (calls.readDeployment name ns).runOn w = (outcomeOf reply, w') →
      (Kept reply ((calls.getDeployment ns name).runOn w).1 ↔
        Readable Deployment.ofInterface reply)
  updateOwners : ∀ (deployment : Deployment) (reply : Except Refusal Data) (w' : World κ ρ),
    (calls.patchDeployment deployment.name deployment.ns deployment.ownersPatch).runOn w =
        (outcomeOf reply, w') →
      (Kept reply ((calls.updateOwners deployment).runOn w).1 ↔
        Readable Deployment.ofInterface reply)

/-- The calls keep the contract whatever stands behind the interface. -/
theorem contract (calls : Interface κ ρ) (settings : ClusterSettings) (w : World κ ρ) :
    calls.Contract settings w where
  getWebUI _ _ _ h := kept_iff_readable WebUI.ofObject_onlyMisfits h
  updateWebUI resource body _ _ hbody h := by
    rw [updateWebUI, hbody, Act.runOn_bind_ok _ (Act.runOn_lift _ w)]
    exact kept_iff_readable WebUI.ofObject_onlyMisfits h
  unwritable resource failure h := by
    refine ⟨resource.toObject_onlyMisfits failure h, ?_⟩
    rw [updateWebUI, h, Act.runOn_bind_error _ (Act.runOn_lift _ w)]
  getDeployment _ _ _ _ h := kept_iff_readable Deployment.ofInterface_onlyMisfits h
  updateOwners _ _ _ h := kept_iff_readable Deployment.ofInterface_onlyMisfits h

end Interface

end ConsoleKeeper
