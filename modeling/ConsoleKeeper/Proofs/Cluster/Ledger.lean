import Mathlib.Data.List.Induction
import ConsoleKeeper.Proofs.Cluster.Effect

/-!
# `ConsoleKeeper.Proofs.Cluster.Ledger`: a store over many steps

Those who use a store prepare it, tell its calls to fail, and make calls, in any order. Each such
step is a `Move`, and a `ledger` has an entry for each step of a run: the store before it, how it
ended, and the store after it.

`Turn` says all that one step can do. A `Run` is a sequence of turns, each of which begins with the
store that the one before it left. What holds of the stores in a ledger is shown for one turn and
then for runs, by induction on the last turn.

`ledger_lawful` puts this together. Each entry is `Lawful`: how its step ended and what it left is
determined by what the steps before it did.
-/

set_option autoImplicit false

namespace ConsoleKeeper

/-! ### Calls and other steps -/

/-- A call with its arguments. -/
inductive Request where
  | getWebUI (id : ResourceId)
  | updateWebUI (resource : WebUI)
  | getDeployment (ns name : String)
  | updateOwners (deployment : Deployment)

/-- What a call gives. -/
inductive Reply where
  | webui (resource : WebUI)
  | deployment (deployment : Deployment)

variable {ρ : Type}

namespace Request

/-- What a store notes of a call. -/
def note : Request → CallNote
  | getWebUI id => ⟨.getWebUI, id.ns, id.name⟩
  | updateWebUI resource => ⟨.updateWebUI, resource.id.ns, resource.id.name⟩
  | getDeployment ns name => ⟨.getDeployment, ns, name⟩
  | updateOwners deployment => ⟨.updateOwners, deployment.ns, deployment.name⟩

/-- Makes a call. -/
def act : Request → Act Store ρ Reply
  | getWebUI id => do return .webui (← Store.getWebUI id)
  | updateWebUI resource => do return .webui (← Store.updateWebUI resource)
  | getDeployment ns name => do return .deployment (← Store.getDeployment ns name)
  | updateOwners deployment => do return .deployment (← Store.updateOwners deployment)

/-- What a call gives if the entry that it is about is there: that entry, or what takes its
place. -/
def reply? (store : Store) : Request → Option Reply
  | getWebUI id => (store.webui? id).map .webui
  | updateWebUI resource => (store.webui? resource.id).map fun _ => .webui resource
  | getDeployment ns name => (store.deployment? ns name).map .deployment
  | updateOwners deployment =>
    (store.deployment? deployment.ns deployment.name).map fun current =>
      .deployment { current with owners := deployment.owners }

/-- The kind of the entry that a call is about. -/
def kind : Request → String
  | getWebUI _ | updateWebUI _ => Store.webuiKind
  | getDeployment _ _ | updateOwners _ => Store.deploymentKind

/-- The failure of a call about an entry that is not there. -/
def absence (request : Request) : Failure :=
  .operator (.absent request.kind request.note.ns request.note.name)

/-- How a call ends for which no failure waits. -/
def due (request : Request) (store : Store) : Except Failure (Option Reply) :=
  match request.reply? store with
  | some reply => .ok (some reply)
  | none => .error request.absence

/-- The store in which a call has left what it gives. -/
def leave (request : Request) (reply : Reply) (store : Store) : Store :=
  match request, reply with
  | updateWebUI _, .webui resource => store.putWebUI resource
  | updateOwners _, .deployment deployment => store.putDeployment deployment
  | _, _ => store

end Request

/-- A step of those who use a store. All but calls work on the store directly. -/
inductive Move where
  | putWebUI (resource : WebUI)
  | removeWebUI (id : ResourceId)
  | putDeployment (deployment : Deployment)
  | removeDeployment (ns name : String)
  | failNext (operation : Operation) (failure : Failure) (times : Nat)
  | call (request : Request)

namespace Move

/-- Makes a step. Only calls give something. -/
def act : Move → Act Store ρ (Option Reply)
  | putWebUI resource => do
    Act.changeCluster fun store => store.enroll resource
    return none
  | removeWebUI id => do
    Act.changeCluster fun store => store.removeWebUI id
    return none
  | putDeployment deployment => do
    Act.changeCluster fun store => store.putDeployment deployment
    return none
  | removeDeployment ns name => do
    Act.changeCluster fun store => store.removeDeployment ns name
    return none
  | failNext operation failure times => do
    Act.changeCluster fun store => store.failNext operation failure times
    return none
  | call request => do return some (← request.act)

/-- What a store notes of a step. -/
def note? : Move → Option CallNote
  | call request => some request.note
  | _ => none

end Move

/-! ### One step -/

/-- A step, how it ended, and the store before and after it. -/
inductive Turn (store : Store) : Move → Except Failure (Option Reply) → Store → Prop
  | putWebUI (resource : WebUI) : Turn store (.putWebUI resource) (.ok none) (store.enroll resource)
  | removeWebUI (id : ResourceId) :
      Turn store (.removeWebUI id) (.ok none) (store.removeWebUI id)
  | putDeployment (deployment : Deployment) :
      Turn store (.putDeployment deployment) (.ok none) (store.putDeployment deployment)
  | removeDeployment (ns name : String) :
      Turn store (.removeDeployment ns name) (.ok none) (store.removeDeployment ns name)
  | failNext (operation : Operation) (failure : Failure) (times : Nat) :
      Turn store (.failNext operation failure times) (.ok none)
        (store.failNext operation failure times)
  /-- A failure waits for the call. -/
  | scripted {request : Request} {failure : Failure} {rest : List Failure}
      (hqueue : store.failures request.note.operation = failure :: rest) :
      Turn store (.call request) (.error failure) (store.answered request.note)
  /-- No failure waits, but the entry is not there. -/
  | absent {request : Request} (hqueue : store.failures request.note.operation = [])
      (hreply : request.reply? store = none) :
      Turn store (.call request) (.error request.absence) (store.answered request.note)
  | served {request : Request} {reply : Reply}
      (hqueue : store.failures request.note.operation = [])
      (hreply : request.reply? store = some reply) :
      Turn store (.call request) (.ok (some reply))
        (request.leave reply (store.answered request.note))

namespace Request

variable {request : Request} {w : World Store ρ}

/-- A call ends with the failure that waits for it. -/
theorem act_run_scripted {failure : Failure} {rest : List Failure}
    (hqueue : w.cluster.failures request.note.operation = failure :: rest) :
    ∃ w', request.act.runOn w = (.error failure, w') ∧
      w'.cluster = w.cluster.answered request.note := by
  have hfails :
      (Store.answer request.note.operation request.note.ns request.note.name).runOn w =
        (.error failure, _) :=
    Store.answer_run_failing hqueue
  cases request with
  | getWebUI id | updateWebUI resource | getDeployment ns name | updateOwners deployment =>
    exact ⟨_, Act.runOn_bind_error _ (Act.runOn_bind_error _ hfails), rfl⟩

/-- A call about an entry that is not there. -/
theorem act_run_absent (hqueue : w.cluster.failures request.note.operation = [])
    (hreply : request.reply? w.cluster = none) :
    ∃ w', request.act.runOn w = (.error request.absence, w') ∧
      w'.cluster = w.cluster.answered request.note := by
  -- No failure waits, so taking the first one off its queue changes nothing and only the note is
  -- left.
  have hnoted := (Store.answered_eq_noted request.note hqueue).symm
  cases request with
  | getWebUI id =>
    have hnone := Option.map_eq_none_iff.mp hreply
    exact ⟨_, Act.runOn_bind_error _ (Store.getWebUI_run_absent hqueue hnone), hnoted⟩
  | updateWebUI resource =>
    have hnone := Option.map_eq_none_iff.mp hreply
    exact ⟨_, Act.runOn_bind_error _ (Store.updateWebUI_run_absent hqueue hnone), hnoted⟩
  | getDeployment ns name =>
    have hnone := Option.map_eq_none_iff.mp hreply
    exact ⟨_, Act.runOn_bind_error _ (Store.getDeployment_run_absent hqueue hnone), hnoted⟩
  | updateOwners deployment =>
    have hnone := Option.map_eq_none_iff.mp hreply
    exact ⟨_, Act.runOn_bind_error _ (Store.updateOwners_run_absent hqueue hnone), hnoted⟩

/-- A call about an entry that is there. -/
theorem act_run_served {reply : Reply} (hkeyed : w.cluster.Keyed)
    (hqueue : w.cluster.failures request.note.operation = [])
    (hreply : request.reply? w.cluster = some reply) :
    ∃ w', request.act.runOn w = (.ok reply, w') ∧
      w'.cluster = request.leave reply (w.cluster.answered request.note) := by
  rw [Store.answered_eq_noted request.note hqueue]
  cases request with
  | getWebUI id =>
    obtain ⟨resource, hfound, rfl⟩ := Option.map_eq_some_iff.mp hreply
    exact ⟨_, Act.runOn_bind_ok _ (Store.getWebUI_run hqueue hfound), rfl⟩
  | updateWebUI resource =>
    obtain ⟨old, hfound, rfl⟩ := Option.map_eq_some_iff.mp hreply
    exact ⟨_, Act.runOn_bind_ok _ (Store.updateWebUI_run hqueue hfound), rfl⟩
  | getDeployment ns name =>
    obtain ⟨deployment, hfound, rfl⟩ := Option.map_eq_some_iff.mp hreply
    exact ⟨_, Act.runOn_bind_ok _ (Store.getDeployment_run hqueue hfound), rfl⟩
  | updateOwners deployment =>
    obtain ⟨current, hfound, rfl⟩ := Option.map_eq_some_iff.mp hreply
    -- The owners are stored under the name that the deployment itself has, and `Keyed` says that
    -- this is the name it was found under.
    have hkey := hkeyed.deployments _ _ current hfound
    exact ⟨_, Act.runOn_bind_ok _ (Store.updateOwners_run hqueue hfound hkey), rfl⟩

end Request

/-- Each step ends, and it is a turn of the store. -/
theorem Move.act_run (move : Move) {w : World Store ρ} (hkeyed : w.cluster.Keyed) :
    ∃ outcome w', move.act.runOn w = (outcome, w') ∧
      Turn w.cluster move outcome w'.cluster := by
  cases move with
  | putWebUI resource => exact ⟨_, _, rfl, .putWebUI resource⟩
  | removeWebUI id => exact ⟨_, _, rfl, .removeWebUI id⟩
  | putDeployment deployment => exact ⟨_, _, rfl, .putDeployment deployment⟩
  | removeDeployment ns name => exact ⟨_, _, rfl, .removeDeployment ns name⟩
  | failNext operation failure times => exact ⟨_, _, rfl, .failNext operation failure times⟩
  | call request =>
    -- A call asks two things, in this order: does a failure wait, and is there an entry?
    cases hqueue : w.cluster.failures request.note.operation with
    | cons failure rest =>
      obtain ⟨w', hrun, hcluster⟩ := request.act_run_scripted hqueue
      refine ⟨_, w', Act.runOn_bind_error _ hrun, ?_⟩
      rw [hcluster]
      exact .scripted hqueue
    | nil =>
      cases hreply : request.reply? w.cluster with
      | none =>
        obtain ⟨w', hrun, hcluster⟩ := request.act_run_absent hqueue hreply
        refine ⟨_, w', Act.runOn_bind_error _ hrun, ?_⟩
        rw [hcluster]
        exact .absent hqueue hreply
      | some reply =>
        obtain ⟨w', hrun, hcluster⟩ := request.act_run_served hkeyed hqueue hreply
        refine ⟨_, w', Act.runOn_bind_ok _ hrun, ?_⟩
        rw [hcluster]
        exact .served hqueue hreply

/-! ### Resources that get a uid -/

namespace Store

variable {store : Store}

/-- The resource as it is stored: with a uid of its own if it had none. -/
def enrolled (store : Store) (resource : WebUI) : WebUI :=
  if resource.uid.isEmpty then { resource with uid := uidOf (store.issued + 1) } else resource

/-- Enrolling a resource leaves its id. -/
theorem enrolled_id (store : Store) (resource : WebUI) :
    (store.enrolled resource).id = resource.id := by
  unfold enrolled
  split <;> rfl

/-- But for the number of uids, a resource is put as it is stored. -/
theorem enroll_eq (store : Store) (resource : WebUI) :
    store.enroll resource =
      { store.putWebUI (store.enrolled resource) with
        issued := (store.enroll resource).issued } := by
  unfold enroll enrolled
  split <;> rfl

/-- The resource with an id after one was enrolled. -/
theorem webui?_enroll (store : Store) (resource : WebUI) (id : ResourceId) :
    (store.enroll resource).webui? id =
      if id = resource.id then some (store.enrolled resource) else store.webui? id := by
  rw [enroll_eq, ← store.enrolled_id resource]
  exact webui?_putWebUI store (store.enrolled resource) id

/-- A resource is enrolled under its own id. -/
theorem Keyed.enroll (h : store.Keyed) (resource : WebUI) : (store.enroll resource).Keyed := by
  have hput := h.putWebUI (store.enrolled resource)
  rw [enroll_eq]
  exact ⟨hput.webuis, hput.deployments⟩

end Store

/-! ### Entries and what they tell -/

/-- What a ledger has of a step. -/
structure Entry where
  move : Move
  before : Store
  outcome : Except Failure (Option Reply)
  after : Store

/-- The entries of steps that are made in order. -/
def ledger (w : World Store ρ) : List Move → List Entry
  | [] => []
  | move :: moves =>
    let (outcome, w') := (move.act : Act Store ρ _).runOn w
    ⟨move, w.cluster, outcome, w'.cluster⟩ :: ledger w' moves

namespace Entry

/-- The failures that a step told an operation to end with. -/
def queued (operation : Operation) (entry : Entry) : List Failure :=
  match entry.move with
  | .failNext told failure times => if told = operation then List.replicate times failure else []
  | _ => []

/-- The failure that waited for an operation and that a call of it ended with, if any did. -/
def raised (operation : Operation) (entry : Entry) : List Failure :=
  match entry.move, entry.outcome with
  | .call request, .error failure =>
    if request.note.operation = operation ∧ entry.before.failures operation ≠ [] then [failure]
    else []
  | _, _ => []

/-- What a step left under an id, or `none` if it did not touch it. -/
def leftWebUI? (id : ResourceId) (entry : Entry) : Option (Option WebUI) :=
  match entry.move, entry.outcome with
  | .putWebUI resource, _ =>
    if id = resource.id then some (some (entry.before.enrolled resource)) else none
  | .removeWebUI gone, _ => if id = gone then some none else none
  | .call (.updateWebUI resource), .ok _ => if id = resource.id then some (some resource) else none
  | _, _ => none

/-- What a step left under a key, or `none` if it put nothing there and took nothing away. -/
def leftDeployment? (ns name : String) (entry : Entry) : Option (Option Deployment) :=
  match entry.move with
  | .putDeployment deployment =>
    if (ns, name) = deployment.key then some (some deployment) else none
  | .removeDeployment ns' name' => if (ns, name) = (ns', name') then some none else none
  | _ => none

/-- The owners that a step gave to the deployment with a key, if it gave any. -/
def leftOwners? (ns name : String) (entry : Entry) : Option (List OwnerReference) :=
  match entry.move, entry.outcome with
  | .putDeployment deployment, _ =>
    if (ns, name) = deployment.key then some deployment.owners else none
  | .call (.updateOwners deployment), .ok _ =>
    if (ns, name) = deployment.key then some deployment.owners else none
  | _, _ => none

end Entry

/-- The resource that steps left under an id: the one that the last of them left that touched it. -/
def webuiLeft (start : Store) (entries : List Entry) (id : ResourceId) : Option WebUI :=
  (entries.filterMap (Entry.leftWebUI? id)).getLast?.getD (start.webui? id)

/-- The deployment that steps left under a key: the one that was put there last, with the owners
that it was given last. -/
def deploymentLeft (start : Store) (entries : List Entry) (ns name : String) : Option Deployment :=
  let put := (entries.filterMap (Entry.leftDeployment? ns name)).getLast?
  let owners := (entries.filterMap (Entry.leftOwners? ns name)).getLast?
  (put.getD (start.deployment? ns name)).map fun deployment =>
    { deployment with owners := owners.getD deployment.owners }

/-- A deployment that is put brings its own owners. -/
theorem Entry.leftOwners?_of_put {ns name : String} {entry : Entry} {deployment : Deployment}
    (h : entry.leftDeployment? ns name = some (some deployment)) :
    entry.leftOwners? ns name = some deployment.owners := by
  unfold leftDeployment? at h
  unfold leftOwners?
  split at h
  · next put hmove =>
    simp only [hmove]
    split at h
    · next hkey =>
      cases h
      exact if_pos hkey
    · cases h
  · split at h <;> cases h
  · cases h

/-- What holds of a step, given the store that the run began with and the steps before this one. -/
structure Entry.Lawful (start : Store) (earlier : List Entry) (entry : Entry) : Prop where
  /-- Everything stands under its own name. -/
  keyed : entry.after.Keyed
  prepared : (∀ request, entry.move ≠ .call request) → entry.outcome = .ok none
  /-- A call is noted, however it ends, and nothing else is. -/
  noted : entry.after.calls = entry.before.calls ++ entry.move.note?.toList
  history : entry.before.calls = start.calls ++ earlier.filterMap (·.move.note?)
  /-- A failure that waits ends the next call of its operation, and then it does not wait any
  more. -/
  scripted : ∀ request failure rest, entry.move = .call request →
    entry.before.failures request.note.operation = failure :: rest →
      entry.outcome = .error failure ∧
        ∀ operation, entry.after.failures operation =
          if operation = request.note.operation then rest else entry.before.failures operation
  /-- If none waits, the call does its work, or there is no entry for it. -/
  served : ∀ request, entry.move = .call request →
    entry.before.failures request.note.operation = [] →
      entry.outcome = request.due entry.before ∧ entry.after.failures = entry.before.failures
  /-- Of the failures that calls of an operation were told to end with, the first were raised, and
  the others wait. -/
  queues : ∀ operation, start.failures operation ++ earlier.flatMap (Entry.queued operation) =
    earlier.flatMap (Entry.raised operation) ++ entry.before.failures operation
  /-- A step that fails changes no entry. -/
  unchanged : ∀ failure, entry.outcome = .error failure →
    entry.after.webuis = entry.before.webuis ∧ entry.after.deployments = entry.before.deployments
  webuis : ∀ id, entry.before.webui? id = webuiLeft start earlier id
  deployments : ∀ ns name, entry.before.deployment? ns name = deploymentLeft start earlier ns name

/-! ### What a turn keeps -/

namespace Request

variable {store : Store}

/-- A call leaves nothing but what stands under its own name. -/
theorem keyed_leave (request : Request) (h : store.Keyed) (reply : Reply) :
    (request.leave reply store).Keyed := by
  unfold leave
  split
  · next resource => exact h.putWebUI resource
  · next deployment => exact h.putDeployment deployment
  · exact h

/-- What a request leaves behind is noted nowhere but where the call is. -/
theorem leave_calls (request : Request) (reply : Reply) (store : Store) :
    (request.leave reply store).calls = store.calls := by
  unfold leave
  split <;> rfl

/-- What a request leaves behind takes away no failure that waits. -/
theorem leave_failures (request : Request) (reply : Reply) (store : Store) :
    (request.leave reply store).failures = store.failures := by
  unfold leave
  split <;> rfl

end Request

namespace Turn

variable {store after : Store} {move : Move} {outcome : Except Failure (Option Reply)}

/-- A turn keeps every entry under its name. -/
theorem keyed (h : Turn store move outcome after) (hkeyed : store.Keyed) : after.Keyed := by
  cases h with
  | putWebUI resource => exact hkeyed.enroll resource
  | removeWebUI id => exact hkeyed.removeWebUI id
  | putDeployment deployment => exact hkeyed.putDeployment deployment
  | removeDeployment ns name => exact hkeyed.removeDeployment ns name
  | failNext operation failure times => exact ⟨hkeyed.webuis, hkeyed.deployments⟩
  | scripted | absent => exact hkeyed.answered _
  | @served request reply => exact request.keyed_leave (hkeyed.answered request.note) reply

/-- A turn adds its own note to the calls, if it makes one. -/
theorem calls (h : Turn store move outcome after) :
    after.calls = store.calls ++ move.note?.toList := by
  cases h with
  | putWebUI resource =>
    rw [Store.enroll_eq]
    exact (List.append_nil _).symm
  | removeWebUI | putDeployment | removeDeployment | failNext => exact (List.append_nil _).symm
  | scripted | absent => rfl
  | @served request reply =>
    rw [Request.leave_calls]
    rfl

/-- A failure is told once and raised once, and those in front of it are raised before it. -/
theorem failures (h : Turn store move outcome after) (operation : Operation) :
    store.failures operation ++ Entry.queued operation ⟨move, store, outcome, after⟩ =
      Entry.raised operation ⟨move, store, outcome, after⟩ ++ after.failures operation := by
  -- A failure moves at two places only: `failNext` puts it at the end of a queue, and a
  -- `scripted` call takes the first one.
  cases h with
  | putWebUI resource =>
    rw [Store.enroll_eq]
    exact List.append_nil _
  | removeWebUI | putDeployment | removeDeployment => exact List.append_nil _
  | failNext told failure times =>
    simp only [Entry.queued, Entry.raised, Store.failNext, List.nil_append]
    by_cases htold : told = operation
    · rw [if_pos htold, if_pos htold.symm]
    · rw [if_neg htold, if_neg (Ne.symm htold), List.append_nil]
  | @scripted request failure rest hqueue =>
    simp only [Entry.queued, Entry.raised, Store.answered, List.append_nil]
    by_cases hown : request.note.operation = operation
    · subst hown
      simp [hqueue]
    · simp [hown, Ne.symm hown]
  | @absent request hqueue =>
    rw [Store.answered_eq_noted request.note hqueue]
    by_cases hown : request.note.operation = operation
    · subst hown
      simp [Entry.queued, Entry.raised, Store.noted, hqueue]
    · simp [Entry.queued, Entry.raised, Store.noted, hown]
  | @served request reply hqueue =>
    rw [Request.leave_failures, Store.answered_eq_noted request.note hqueue]
    exact List.append_nil _

/-- What a turn leaves under an id. -/
theorem webui? (h : Turn store move outcome after) (id : ResourceId) :
    after.webui? id =
      (Entry.leftWebUI? id ⟨move, store, outcome, after⟩).getD (store.webui? id) := by
  cases h with
  | putWebUI resource =>
    simp only [Store.webui?_enroll, Entry.leftWebUI?]
    split <;> rfl
  | removeWebUI gone =>
    simp only [Store.webui?_removeWebUI, Entry.leftWebUI?]
    split <;> rfl
  | putDeployment | removeDeployment | failNext => rfl
  -- A call that fails leaves no resource behind, whatever it asked for.
  | @scripted request | @absent request => cases request <;> rfl
  | @served request reply hqueue hreply =>
    cases request with
    | updateWebUI resource =>
      obtain ⟨old, -, rfl⟩ := Option.map_eq_some_iff.mp hreply
      simp only [Request.leave, Store.webui?_putWebUI, Store.answered_webui?, Entry.leftWebUI?]
      split <;> rfl
    | getWebUI | getDeployment => rfl
    | updateOwners => cases reply <;> rfl

/-- What a turn leaves under a key. -/
theorem deployment? (h : Turn store move outcome after) (hkeyed : store.Keyed) (ns name : String) :
    after.deployment? ns name =
      ((Entry.leftDeployment? ns name ⟨move, store, outcome, after⟩).getD
        (store.deployment? ns name)).map fun deployment =>
          { deployment with
            owners := (Entry.leftOwners? ns name ⟨move, store, outcome, after⟩).getD
              deployment.owners } := by
  -- A turn that gives a deployment no owners leaves it those that it has.
  have hsame (found : Option Deployment) :
      found = found.map fun deployment => { deployment with owners := deployment.owners } :=
    Option.map_id_apply.symm
  cases h with
  | putWebUI resource =>
    rw [Store.enroll_eq]
    exact hsame _
  | removeWebUI | failNext => exact hsame _
  | putDeployment deployment =>
    simp only [Store.deployment?_putDeployment, Entry.leftDeployment?, Entry.leftOwners?]
    split
    · rfl
    · exact hsame _
  | removeDeployment ns' name' =>
    simp only [Store.deployment?_removeDeployment, Entry.leftDeployment?, Entry.leftOwners?]
    split
    · rfl
    · exact hsame _
  | @scripted request | @absent request => cases request <;> exact hsame _
  | @served request reply hqueue hreply =>
    cases request with
    | updateOwners deployment =>
      obtain ⟨current, hfound, rfl⟩ := Option.map_eq_some_iff.mp hreply
      have hkey : current.key = deployment.key := hkeyed.deployments _ _ current hfound
      have hput : ({ current with owners := deployment.owners } : Deployment).key =
          deployment.key := hkey
      simp only [Request.leave, Store.deployment?_putDeployment, hput,
        Store.answered_deployment?, Entry.leftDeployment?, Entry.leftOwners?, Option.getD_none]
      split
      · next hown =>
        obtain ⟨rfl, rfl⟩ := Prod.mk.inj hown
        rw [hfound]
        rfl
      · exact hsame _
    | getWebUI | getDeployment => exact hsame _
    | updateWebUI => cases reply <;> exact hsame _

/-- A turn that fails changes no entry. -/
theorem unchanged {failure : Failure} (h : Turn store move (.error failure) after) :
    after.webuis = store.webuis ∧ after.deployments = store.deployments := by
  cases h with
  | scripted | absent => exact ⟨rfl, rfl⟩

/-- Only calls fail, and only they give something. -/
theorem prepared (h : Turn store move outcome after) (hmove : ∀ request, move ≠ .call request) :
    outcome = .ok none := by
  cases h with
  | putWebUI | removeWebUI | putDeployment | removeDeployment | failNext => rfl
  | @scripted request | @absent request | @served request => cases hmove request rfl

/-- A call for which a failure waits. -/
theorem scripted_inv {request : Request} {failure : Failure} {rest : List Failure}
    (h : Turn store (.call request) outcome after)
    (hqueue : store.failures request.note.operation = failure :: rest) :
    outcome = .error failure ∧ ∀ operation, after.failures operation =
      if operation = request.note.operation then rest else store.failures operation := by
  cases h with
  | scripted hqueue' =>
    obtain ⟨rfl, rfl⟩ := List.cons.inj (hqueue'.symm.trans hqueue)
    refine ⟨rfl, fun operation => ?_⟩
    simp only [Store.answered]
    split
    · next hown => rw [hown, hqueue, List.tail_cons]
    · rfl
  | absent hqueue' | served hqueue' => cases hqueue'.symm.trans hqueue

/-- A call for which none waits. -/
theorem served_inv {request : Request} (h : Turn store (.call request) outcome after)
    (hqueue : store.failures request.note.operation = []) :
    outcome = request.due store ∧ after.failures = store.failures := by
  have hkept : (store.answered request.note).failures = store.failures := by
    rw [Store.answered_eq_noted request.note hqueue]
    rfl
  cases h with
  | scripted hqueue' => cases hqueue'.symm.trans hqueue
  | absent _ hreply => exact ⟨by rw [Request.due, hreply], hkept⟩
  | served _ hreply =>
    rw [Request.due, hreply, Request.leave_failures]
    exact ⟨rfl, hkept⟩

end Turn

/-! ### Runs -/

/-- Steps in order, from one store to another. -/
inductive Run (start : Store) : List Entry → Store → Prop
  | nil : Run start [] start
  | snoc {entries : List Entry} {before after : Store} {move : Move}
      {outcome : Except Failure (Option Reply)} (hrun : Run start entries before)
      (hturn : Turn before move outcome after) :
      Run start (entries ++ [⟨move, before, outcome, after⟩]) after

/-- One more entry adds what is picked from it. -/
theorem filterMap_concat {α β : Type} (f : α → Option β) (entries : List α) (entry : α) :
    (entries ++ [entry]).filterMap f = entries.filterMap f ++ (f entry).toList := by
  cases h : f entry <;> simp [h]

/-- What was picked last is from the last entry, or from those before it. -/
theorem getLast?_filterMap_concat {α β : Type} (f : α → Option β) (entries : List α) (entry : α) :
    ((entries ++ [entry]).filterMap f).getLast? =
      (f entry).or (entries.filterMap f).getLast? := by
  rw [filterMap_concat, List.getLast?_append]
  cases f entry <;> rfl

namespace Run

variable {start final : Store} {entries later : List Entry} {entry : Entry}

/-- The last step of a run. -/
theorem last (h : Run start (entries ++ [entry]) final) :
    Run start entries entry.before ∧ Turn entry.before entry.move entry.outcome entry.after := by
  generalize hwhole : entries ++ [entry] = whole at h
  cases h with
  | nil => cases List.append_ne_nil_of_right_ne_nil entries (List.cons_ne_nil entry []) hwhole
  | snoc hrun hturn =>
    obtain ⟨rfl, hentry⟩ := List.append_inj' hwhole rfl
    obtain rfl := List.singleton_inj.mp hentry
    exact ⟨hrun, hturn⟩

/-- The first steps of a run. -/
theorem front (h : Run start (entries ++ later) final) : ∃ middle, Run start entries middle := by
  induction later using List.reverseRecOn generalizing final with
  | nil =>
    rw [List.append_nil] at h
    exact ⟨final, h⟩
  | append_singleton later entry ih =>
    rw [← List.append_assoc] at h
    exact ih h.last.1

/-- A run keeps every entry under its name. -/
theorem keyed (h : Run start entries final) (hkeyed : start.Keyed) : final.Keyed := by
  induction h with
  | nil => exact hkeyed
  | snoc _ hturn ih => exact hturn.keyed ih

/-- A store has noted the calls of a run, in order. -/
theorem calls (h : Run start entries final) :
    final.calls = start.calls ++ entries.filterMap (·.move.note?) := by
  induction h with
  | nil => exact (List.append_nil _).symm
  | @snoc entries before after move outcome _ hturn ih =>
    rw [hturn.calls, ih, filterMap_concat, List.append_assoc]

/-- The failures of an operation are raised in the order in which they were told, each once. -/
theorem failures (h : Run start entries final) (operation : Operation) :
    start.failures operation ++ entries.flatMap (Entry.queued operation) =
      entries.flatMap (Entry.raised operation) ++ final.failures operation := by
  induction h with
  | nil => exact List.append_nil _
  | @snoc entries before after move outcome _ hturn ih =>
    simp only [List.flatMap_append, List.flatMap_singleton]
    rw [← List.append_assoc, ih, List.append_assoc, hturn.failures, List.append_assoc]

/-- What stands under an id was left there by the last step that touched it. -/
theorem webui? (h : Run start entries final) (id : ResourceId) :
    final.webui? id = webuiLeft start entries id := by
  induction h with
  | nil => rfl
  | @snoc entries before after move outcome _ hturn ih =>
    rw [hturn.webui?, ih, webuiLeft, webuiLeft, getLast?_filterMap_concat, Option.getD_or]

/-- What stands under a key was put there last, and has the owners that it was given last. -/
theorem deployment? (h : Run start entries final) (hkeyed : start.Keyed) (ns name : String) :
    final.deployment? ns name = deploymentLeft start entries ns name := by
  induction h with
  | nil => exact Option.map_id_apply.symm
  | @snoc entries before after move outcome hrun hturn ih =>
    rw [hturn.deployment? (hrun.keyed hkeyed), ih]
    simp only [deploymentLeft, getLast?_filterMap_concat, Option.getD_or]
    cases hput : Entry.leftDeployment? ns name ⟨move, before, outcome, after⟩ with
    | none => rw [Option.getD_none, Option.getD_none, Option.map_map]; rfl
    | some left =>
      -- What is put brings its own owners, whichever were given before.
      cases left with
      | none => rfl
      | some deployment =>
        rw [Entry.leftOwners?_of_put hput]
        rfl

end Run

/-- The ledger of steps is a run. -/
theorem exists_run_ledger {start : Store} {entries : List Entry} {w : World Store ρ}
    (hkeyed : start.Keyed) (hrun : Run start entries w.cluster) (moves : List Move) :
    ∃ final, Run start (entries ++ ledger w moves) final := by
  induction moves generalizing entries w with
  | nil => exact ⟨w.cluster, by rwa [ledger, List.append_nil]⟩
  | cons move moves ih =>
    obtain ⟨outcome, w', hact, hturn⟩ := move.act_run (hrun.keyed hkeyed)
    obtain ⟨final, hfinal⟩ := ih (hrun.snoc hturn)
    refine ⟨final, ?_⟩
    rw [ledger, hact]
    rwa [List.append_assoc] at hfinal

/-- The ledger has an entry for each step. -/
theorem map_move_ledger (w : World Store ρ) (moves : List Move) :
    (ledger w moves).map Entry.move = moves := by
  induction moves generalizing w with
  | nil => rfl
  | cons move moves ih => rw [ledger, List.map_cons, ih]

/-- A store in memory is a store by name with a queue of failures for each operation. From a store
with everything under its own name, make any steps in any order: put and take away entries, tell
calls to fail, and make calls. Then each step is lawful. Everything still stands under its own name.
A call is noted, and it ends with the failure that waits for it first or does its work. The failures
of an operation are raised in the order in which they were told, as often as they were told, and by
calls of that operation only. A step that fails changes no entry. What calls find is what the last
step left that put it there, took it away or wrote it, where writing owners only changes the owners
of a deployment that is there. -/
theorem ledger_lawful (w : World Store ρ) (moves : List Move) (hkeyed : w.cluster.Keyed) :
    (ledger w moves).map Entry.move = moves ∧
      ∀ earlier entry later, ledger w moves = earlier ++ entry :: later →
        entry.Lawful w.cluster earlier := by
  refine ⟨map_move_ledger w moves, fun earlier entry later hledger => ?_⟩
  -- Cut the run behind `entry`: what comes before is a run of its own, and `entry` is its last
  -- turn.
  obtain ⟨final, hrun⟩ := exists_run_ledger hkeyed .nil moves
  rw [List.nil_append, hledger, List.append_cons] at hrun
  obtain ⟨middle, hfront⟩ := hrun.front
  obtain ⟨hearlier, hturn⟩ := hfront.last
  exact {
    keyed := hturn.keyed (hearlier.keyed hkeyed)
    prepared := hturn.prepared
    noted := hturn.calls
    history := hearlier.calls
    scripted := fun request failure rest hmove hqueue => (hmove ▸ hturn).scripted_inv hqueue
    served := fun request hmove hqueue => (hmove ▸ hturn).served_inv hqueue
    queues := hearlier.failures
    unchanged := fun failure hfailed => (hfailed ▸ hturn).unchanged
    webuis := hearlier.webui?
    deployments := hearlier.deployment? hkeyed }

/-- A store without entries. -/
def freshWorld : World Store Unit where
  cluster := {}
  runner := ()
  files := ⟨[], []⟩

/-- A deployment of that store, without owners. -/
def bareDeployment : Deployment where
  name := "console"
  ns := "ns"
  uid := "d1"

/-- Steps that put entries, and calls that fail because they are told to or because there is nothing
to find. -/
def sundryMoves : List Move :=
  [.putWebUI { id := ⟨"ns", "ui"⟩ }, .putDeployment bareDeployment,
    .failNext .updateOwners (.unexpected "no answer") 1, .call (.getWebUI ⟨"ns", "ui"⟩),
    .call (.updateOwners { bareDeployment with uid := "d2" }),
    .call (.updateOwners { bareDeployment with uid := "d2" }), .removeWebUI ⟨"ns", "ui"⟩,
    .call (.updateWebUI { id := ⟨"ns", "ui"⟩ })]

/-- How these steps end. The resource got a uid, and the deployment kept its own. -/
theorem ledger_lawful_freshWorld :
    freshWorld.cluster.Keyed ∧
      (ledger freshWorld sundryMoves).map Entry.outcome =
        [.ok none, .ok none, .ok none, .ok (some (.webui { id := ⟨"ns", "ui"⟩, uid := "uid-1" })),
          .error (.unexpected "no answer"), .ok (some (.deployment bareDeployment)), .ok none,
          .error (.operator (.absent "KWebUI" "ns" "ui"))] ∧
      ∀ earlier entry later, ledger freshWorld sundryMoves = earlier ++ entry :: later →
        entry.Lawful {} earlier :=
  ⟨Store.keyed_empty, rfl, (ledger_lawful freshWorld sundryMoves Store.keyed_empty).2⟩

end ConsoleKeeper
