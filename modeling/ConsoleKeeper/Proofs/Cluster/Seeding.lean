import ConsoleKeeper.Cluster.Seeding
import ConsoleKeeper.Proofs.Cluster.Ledger

/-!
# `ConsoleKeeper.Proofs.Cluster.Seeding`: what a prepared store is like

The steps that prepare a store put entries under their own names and are no calls. So a store that
was prepared from nothing, in whatever steps, is one of those that the theorems about passes and
links ask for: it is `Keyed`, and no call was made to it.

Each step is shown to be `Sound` for this, and so is a row of them.
-/

set_option autoImplicit false

namespace ConsoleKeeper.Seeding

variable {ρ : Type} {calls : List CallNote} {step : Fields}

/-- A store whose entries stand under their own names, and which noted the given calls. -/
def Seeded (calls : List CallNote) (store : Store) : Prop :=
  store.Keyed ∧ store.calls = calls

/-- A step that keeps a store so. It may end with any failure. -/
abbrev Safe {α : Type} (calls : List CallNote) (action : Act Store ρ α) : Prop :=
  action.Sound (Seeded calls) fun _ => True

/-- What is read from a document before an action does not matter. -/
theorem Safe.after_lift {α β : Type} {outcome : Except Failure α} {f : α → Act Store ρ β}
    (hf : ∀ a, Safe calls (f a)) : Safe calls (Act.lift outcome >>= f) :=
  (Act.Sound.lift fun _ _ => trivial).bind hf

/-! ### Changes of a store -/

/-- A resource is enrolled under its own id, and no call is noted. -/
theorem safe_enroll (resource : WebUI) :
    Safe calls (Act.changeCluster (·.enroll resource) : Act Store ρ Unit) := by
  refine .changeCluster fun store h => ⟨h.1.enroll resource, ?_⟩
  rw [Store.enroll_eq]
  exact h.2

/-- A deployment is put under its own key, and no call is noted. -/
theorem safe_putDeployment (deployment : Deployment) :
    Safe calls (Act.changeCluster (·.putDeployment deployment) : Act Store ρ Unit) :=
  .changeCluster fun _ h => ⟨h.1.putDeployment deployment, h.2⟩

/-- A uid is issued without a call. -/
theorem safe_issueUid : Safe calls (Act.changeCluster (·.issueUid.2) : Act Store ρ Unit) :=
  .changeCluster fun _ h => ⟨⟨h.1.webuis, h.1.deployments⟩, h.2⟩

/-! ### The steps -/

/-- The step that puts a resource is safe, whatever the resource is read from. -/
theorem safe_putWebUI : Safe calls (putWebUI step : Act Store ρ Unit) :=
  Safe.after_lift fun _ => Safe.after_lift fun resource => safe_enroll resource

/-- The step that changes the spec of a resource is safe. -/
theorem safe_setSpec : Safe calls (setSpec step : Act Store ρ Unit) := by
  refine Safe.after_lift fun id => Act.Sound.cluster.bind fun store => ?_
  cases store.webui? id with
  | none => exact .fail trivial
  | some resource => exact Safe.after_lift fun spec => safe_enroll { resource with spec }

/-- The step that puts a deployment is safe, whatever the deployment is read from. -/
theorem safe_placeDeployment : Safe calls (Seeding.putDeployment step : Act Store ρ Unit) :=
  Safe.after_lift fun _ => Safe.after_lift fun deployment => safe_putDeployment deployment

/-- The step that makes a deployment is safe. -/
theorem safe_makeDeployment : Safe calls (makeDeployment step : Act Store ρ Unit) := by
  refine Safe.after_lift fun ns => Safe.after_lift fun image => Act.Sound.cluster.bind fun _ => ?_
  refine safe_issueUid.bind fun _ => Safe.after_lift fun container => ?_
  exact Safe.after_lift fun deployment => safe_putDeployment deployment

/-- The step that removes a deployment is safe, also where there is none. -/
theorem safe_deleteDeployment : Safe calls (deleteDeployment step : Act Store ρ Unit) := by
  refine Safe.after_lift fun ns => ?_
  split
  · exact .changeCluster fun _ h => ⟨h.1.removeDeployment _ _, h.2⟩
  · exact .pure ()

/-- The step that lets later calls fail is safe. -/
theorem safe_failNext : Safe calls (failNext step : Act Store ρ Unit) := by
  refine Safe.after_lift fun operation => Safe.after_lift fun failure => ?_
  split
  · -- A call that is to fail later was not made yet.
    exact .changeCluster fun _ h => ⟨⟨h.1.webuis, h.1.deployments⟩, h.2⟩
  · exact .pure ()

/-- The step that removes files is safe, since the store is not asked. -/
theorem safe_removeTree : Safe calls (removeTree step : Act Store ρ Unit) := by
  refine Safe.after_lift fun path => ?_
  split
  · exact .changeFiles fun _ => trivial
  · exact .fail trivial

/-- Each of the steps that prepare a store keeps its entries under their own names, and is no
call. -/
theorem safe_of_mem_steps :
    ∀ entry ∈ steps, ∀ step, Safe calls (entry.2 step : Act Store ρ Unit) := by
  simp only [steps, List.forall_mem_cons, List.not_mem_nil, false_implies, implies_true, and_true]
  refine ⟨fun _ => safe_putWebUI, fun _ => safe_setSpec, fun _ => Safe.after_lift fun id => ?_,
    fun _ => safe_placeDeployment, fun _ => safe_makeDeployment, fun _ => safe_deleteDeployment,
    fun _ => safe_failNext, fun _ => Safe.after_lift fun _ => .fail trivial,
    fun _ => safe_removeTree⟩
  exact .changeCluster fun _ h => ⟨h.1.removeWebUI id, h.2⟩

/-- So is what a document asks for. -/
theorem safe_of_perform? {scene : Act Store ρ Unit} (h : perform? step = some scene) :
    Safe calls scene := by
  obtain ⟨run, hrun, rfl⟩ := Option.map_eq_some_iff.mp h
  obtain ⟨before, after, hsteps, -⟩ := List.lookup_eq_some_iff.mp hrun
  have hmem : (wordOf step, run) ∈ steps := by
    rw [hsteps]
    exact List.mem_append_right before List.mem_cons_self
  exact Safe.after_lift fun _ => safe_of_mem_steps _ hmem step

/-- A store that was prepared from nothing has its entries under their own names and noted no call,
whether or not the steps came to their end. -/
theorem keyed_of_prepared {scenes : List (Act Store ρ Unit)}
    (h : ∀ scene ∈ scenes, ∃ step, perform? step = some scene) {w : World Store ρ}
    (hw : w.cluster = {}) :
    ((scenes.forM id).runOn w).2.cluster.Keyed ∧
      ((scenes.forM id).runOn w).2.cluster.calls = [] := by
  have hsafe : Safe [] (scenes.forM id) := Act.Sound.forM fun scene hscene => by
    obtain ⟨step, hstep⟩ := h scene hscene
    exact safe_of_perform? hstep
  exact (hsafe rfl (hw ▸ ⟨Store.keyed_empty, rfl⟩)).1

end ConsoleKeeper.Seeding
