import ConsoleKeeper.Proofs.Cluster.Effect

/-!
# `ConsoleKeeper.Proofs.Cluster.Edit`: changes behind the operator's back

While a pass runs, others change the cluster. Each change of theirs is an `Edit`: a resource or a
deployment is put or taken away. `edited` makes a list of them in order.

A store is `Framed` by another if it has all the entries of the other, and only these, but for the
status of one resource and the owners of one deployment. Edits made to both keep it so. This is what
carries the work of others through a pass that holds a resource it read before them.
-/

set_option autoImplicit false

namespace ConsoleKeeper

/-- A change of the entries of a store. -/
inductive Edit where
  | putWebUI (resource : WebUI)
  | removeWebUI (id : ResourceId)
  | putDeployment (deployment : Deployment)
  | removeDeployment (ns name : String)

/-- The store after a change. -/
def Edit.apply : Edit → Store → Store
  | putWebUI resource, store => store.putWebUI resource
  | removeWebUI id, store => store.removeWebUI id
  | putDeployment deployment, store => store.putDeployment deployment
  | removeDeployment ns name, store => store.removeDeployment ns name

namespace Store

variable {store store' expected actual : Store} {id : ResourceId} {key : DeploymentKey}

/-- The store after changes in order. -/
def edited (store : Store) (edits : List Edit) : Store :=
  edits.foldl (fun store edit => edit.apply store) store

/-- Edits in two goes are edits in one. -/
theorem edited_append (store : Store) (edits more : List Edit) :
    store.edited (edits ++ more) = (store.edited edits).edited more :=
  List.foldl_append

/-- Edits put each entry under its own name. -/
theorem Keyed.edited (h : store.Keyed) (edits : List Edit) : (store.edited edits).Keyed := by
  induction edits generalizing store with
  | nil => exact h
  | cons edit rest ih =>
    -- The changes are made from the left, so the first one is made before all others.
    refine ih ?_
    cases edit with
    | putWebUI resource => exact h.putWebUI resource
    | removeWebUI id => exact h.removeWebUI id
    | putDeployment deployment => exact h.putDeployment deployment
    | removeDeployment ns name => exact h.removeDeployment ns name

/-! ### The same entries -/

/-- The second store has the entries of the first. -/
structure SameEntries (store store' : Store) : Prop where
  webuis : ∀ id, store'.webui? id = store.webui? id
  deployments : ∀ ns name, store'.deployment? ns name = store.deployment? ns name

/-- A store has its own entries. -/
theorem SameEntries.refl (store : Store) : SameEntries store store :=
  ⟨fun _ => rfl, fun _ _ => rfl⟩

/-- Answering a call touches no entry. -/
theorem sameEntries_answered (store : Store) (call : CallNote) :
    SameEntries store (store.answered call) :=
  ⟨fun _ => rfl, fun _ _ => rfl⟩

/-- Whether entries stand under their names is a matter of the entries. -/
theorem Keyed.sameEntries (h : store.Keyed) (hsame : SameEntries store store') : store'.Keyed where
  webuis id resource hfound := h.webuis id resource (by rwa [← hsame.webuis])
  deployments ns name deployment hfound :=
    h.deployments ns name deployment (by rwa [← hsame.deployments])

/-! ### The same entries but for a status and an owner -/

/-- The second store has the entries of the first, but for the status of the resource with an id and
the owners of the deployment with a key. -/
structure Framed (id : ResourceId) (key : DeploymentKey) (expected actual : Store) : Prop where
  webuis : ∀ other, other ≠ id → actual.webui? other = expected.webui? other
  target : (actual.webui? id).map WebUI.unreported = (expected.webui? id).map WebUI.unreported
  deployments : ∀ ns name, (ns, name) ≠ key →
    actual.deployment? ns name = expected.deployment? ns name
  owned : (actual.deployment? key.1 key.2).map Deployment.unowned =
    (expected.deployment? key.1 key.2).map Deployment.unowned

namespace Framed

/-- A store is framed by itself. -/
theorem refl (id : ResourceId) (key : DeploymentKey) (store : Store) : Framed id key store store :=
  ⟨fun _ _ => rfl, rfl, fun _ _ _ => rfl, rfl⟩

/-- A store with the same entries is framed as well. -/
theorem sameEntries (h : Framed id key expected actual) (hsame : SameEntries actual store) :
    Framed id key expected store where
  webuis other hne := (hsame.webuis other).trans (h.webuis other hne)
  target := by rw [hsame.webuis, h.target]
  deployments ns name hne := (hsame.deployments ns name).trans (h.deployments ns name hne)
  owned := by rw [hsame.deployments, h.owned]

/-- A change that is made to both stores. -/
theorem apply (h : Framed id key expected actual) (edit : Edit) :
    Framed id key (edit.apply expected) (edit.apply actual) := by
  -- A change of the one table leaves the other as it is.
  cases edit with
  | putWebUI resource =>
    refine ⟨fun other hne => ?_, ?_, h.deployments, h.owned⟩
    · simp only [Edit.apply, webui?_putWebUI, h.webuis other hne]
    · -- Put under the id itself, the resource brings its own status to both stores.
      simp only [Edit.apply, webui?_putWebUI]
      split
      · rfl
      · exact h.target
  | removeWebUI gone =>
    refine ⟨fun other hne => ?_, ?_, h.deployments, h.owned⟩
    · simp only [Edit.apply, webui?_removeWebUI, h.webuis other hne]
    · simp only [Edit.apply, webui?_removeWebUI]
      split
      · rfl
      · exact h.target
  | putDeployment deployment =>
    refine ⟨h.webuis, h.target, fun ns name hne => ?_, ?_⟩
    · simp only [Edit.apply, deployment?_putDeployment, h.deployments ns name hne]
    · simp only [Edit.apply, deployment?_putDeployment]
      split
      · rfl
      · exact h.owned
  | removeDeployment ns name =>
    refine ⟨h.webuis, h.target, fun ns' name' hne => ?_, ?_⟩
    · simp only [Edit.apply, deployment?_removeDeployment, h.deployments ns' name' hne]
    · simp only [Edit.apply, deployment?_removeDeployment]
      split
      · rfl
      · exact h.owned

/-- Changes that are made to both stores. -/
theorem edited (h : Framed id key expected actual) (edits : List Edit) :
    Framed id key (expected.edited edits) (actual.edited edits) := by
  induction edits generalizing expected actual with
  | nil => exact h
  | cons edit rest ih => exact ih (h.apply edit)

/-- A new status of the resource with the id. -/
theorem putWebUI (h : Framed id key expected actual) {resource old : WebUI}
    (hid : resource.id = id) (hold : actual.webui? id = some old)
    (hsame : resource.unreported = old.unreported) :
    Framed id key expected (actual.putWebUI resource) where
  webuis other hne := by rw [webui?_putWebUI, hid, if_neg hne, h.webuis other hne]
  target := by
    rw [webui?_putWebUI, hid, if_pos rfl, ← h.target, hold, Option.map_some, Option.map_some, hsame]
  deployments := h.deployments
  owned := h.owned

/-- New owners of the deployment with the key. -/
theorem reowned (h : Framed id key expected actual) {current : Deployment}
    (hcurrent : actual.deployment? key.1 key.2 = some current) (owners : List OwnerReference) :
    Framed id key expected (actual.reowned key current owners) where
  webuis := h.webuis
  target := h.target
  deployments ns name hne := by rw [deployment?_reowned, if_neg hne, h.deployments ns name hne]
  owned := by
    rw [deployment?_reowned, if_pos rfl, ← h.owned, hcurrent]
    rfl

end Framed

end Store

end ConsoleKeeper
