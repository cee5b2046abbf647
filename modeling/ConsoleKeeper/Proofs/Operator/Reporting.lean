import ConsoleKeeper.Command.Recorder
import ConsoleKeeper.Proofs.Cluster.Effect
import ConsoleKeeper.Proofs.Operator.Course

/-!
# `ConsoleKeeper.Proofs.Operator.Reporting`: what a status report leaves of a store

A status is written into a resource that was just read, so it is the only part of that resource
which the write can change. `writeStatus_effect` says so for one write and `setStatus_effect` for a
whole report: whatever fails, the store has been asked, and at most the status under the id is
another one.
-/

set_option autoImplicit false

namespace ConsoleKeeper.Operator

open World (OnlyCluster)

variable {ρ : Type}

/-- The resource with a status. -/
def reported (resource : WebUI) (phase : Phase) (message : String) : WebUI :=
  { resource with status := { phase := some phase, message } }

/-- A status is written into the resource or not. Where only cluster errors wait for the write, it
does not fail. -/
theorem writeStatus_effect (id : ResourceId) (phase : Phase) (message : String) (resource : WebUI)
    (w : World Store ρ) :
    ∃ outcome store w',
      (writeStatus Store.cluster ⟨id, phase, .text message⟩ resource).runOn w = (outcome, w') ∧
      OnlyCluster w store w' ∧
      (store = w.cluster.answered ⟨.updateWebUI, resource.id.ns, resource.id.name⟩ ∨
        store = (w.cluster.answered
          ⟨.updateWebUI, resource.id.ns, resource.id.name⟩).putWebUI
            (reported resource phase message)) ∧
      ((∀ failure ∈ w.cluster.failures .updateWebUI, failure.IsCluster) →
        ∃ written, outcome = .ok written) := by
  simp only [writeStatus, readMessage_text, Store.cluster_updateWebUI]
  rw [Act.runOn_bind_ok _ (Act.runOn_lift _ w)]
  obtain ⟨_, w₁, hrun, ⟨honly, failure, rfl, hfailure⟩ | ⟨honly, rfl⟩⟩ :=
    Store.updateWebUI_effect (reported resource phase message) w
  · cases hpick : failure.cluster? with
    | some e =>
      have hcaught := Act.runOn_catching_some hrun hpick
      exact ⟨_, _, _, Act.runOn_bind_ok _ hcaught, honly.report _, .inl rfl, fun _ => ⟨false, rfl⟩⟩
    | none =>
      have hfailed := Act.runOn_catching_none hrun hpick
      refine ⟨_, _, _, Act.runOn_bind_error _ hfailed, honly, .inl rfl, fun hscript => ?_⟩
      -- A cluster error would have been caught.
      obtain ⟨e, rfl, hkind⟩ := hfailure.elim (hscript failure) fun h => h
      simp [Failure.cluster?, hkind] at hpick
  · have hcaught : (Act.catching Failure.cluster?
        (Store.updateWebUI (reported resource phase message))).runOn w = (.ok (.ok _), w₁) :=
      Act.runOn_catching_ok hrun
    exact ⟨_, _, _, Act.runOn_bind_ok _ hcaught, honly.report _, .inr rfl, fun _ => ⟨true, rfl⟩⟩

/-- How the report of a status can leave a store. -/
inductive Reported (store : Store) (id : ResourceId) (phase : Phase) (message : String) :
    Store → Prop where
  /-- There is no resource to be had. -/
  | unread : Reported store id phase message (store.answered ⟨.getWebUI, id.ns, id.name⟩)
  /-- The status cannot be written. -/
  | unwritten {resource : WebUI} (hfound : store.webui? id = some resource) :
      Reported store id phase message
        ((store.answered ⟨.getWebUI, id.ns, id.name⟩).answered
          ⟨.updateWebUI, resource.id.ns, resource.id.name⟩)
  /-- The status is written into the resource. -/
  | written {resource : WebUI} (hfound : store.webui? id = some resource) :
      Reported store id phase message
        (((store.answered ⟨.getWebUI, id.ns, id.name⟩).answered
          ⟨.updateWebUI, resource.id.ns, resource.id.name⟩).putWebUI
            (reported resource phase message))

/-- A report of a status leaves the store in one of these ways, however it ends. -/
theorem setStatus_effect {op : Operator Store ρ} (hop : op.cluster = Store.cluster)
    (id : ResourceId) (phase : Phase) (message : String) (w : World Store ρ) :
    ∃ store, Reported w.cluster id phase message store ∧
      OnlyCluster w store ((op.setStatus id phase message).runOn w).2 := by
  rw [setStatus, Act.runOn_discard, hop]
  simp only [reportStatus, Store.cluster_getWebUI]
  obtain ⟨failure | resource, w₁, hrun, honly, hfound⟩ := Store.getWebUI_effect id w
  · cases hpick : failure.cluster? with
    | some e =>
      rw [Act.runOn_bind_ok _ (Act.runOn_catching_some hrun hpick)]
      exact ⟨_, .unread, honly.report _⟩
    | none =>
      -- Some failures are not caught, and the report ends with them.
      rw [Act.runOn_bind_error _ (Act.runOn_catching_none hrun hpick)]
      exact ⟨_, .unread, honly⟩
  · rw [Act.runOn_bind_ok _ (Act.runOn_catching_ok hrun)]
    obtain ⟨outcome, store, w₂, hrun', honly', hstore, -⟩ :=
      writeStatus_effect id phase message resource w₁
    dsimp only
    rw [hrun']
    rw [honly.cluster] at hstore
    obtain rfl | rfl := hstore
    · exact ⟨_, .unwritten (hfound resource rfl), honly.trans honly'⟩
    · exact ⟨_, .written (hfound resource rfl), honly.trans honly'⟩

/-- Where only cluster errors wait for calls, the report of a status does not fail, and it reports
its note. -/
theorem setStatus_reports {op : Operator Store ρ} (hop : op.cluster = Store.cluster)
    (id : ResourceId) (phase : Phase) (message : String) {w : World Store ρ}
    (hscript : w.cluster.Scripted) :
    ∃ w', (op.setStatus id phase message).runOn w = (.ok (), w') ∧
      Reported w.cluster id phase message w'.cluster ∧ OnlyCluster w w'.cluster w' ∧
      World.Asked w ⟨id, phase, .text message⟩ w' := by
  have hget : (op.cluster.getWebUI id).Sound Store.Scripted Failure.IsCluster := by
    rw [hop]
    exact Store.getWebUI_sound id
  have hupdate : ∀ resource, (op.cluster.updateWebUI resource).Sound Store.Scripted
      Failure.IsCluster := by
    rw [hop]
    exact Store.updateWebUI_sound
  obtain ⟨w', hrun, -, hasked⟩ := setStatus_asks (fun _ => True) id phase message hget
    (fun _ _ _ _ _ => trivial) (fun _ _ _ => hupdate _) hscript
  obtain ⟨store, hreported, honly⟩ := setStatus_effect hop id phase message w
  -- Both lemmas are about the same run; its store is the one that `Reported` describes.
  rw [hrun] at honly
  obtain rfl := honly.cluster
  exact ⟨w', hrun, hreported, honly, hasked⟩

/-- A world with a store, a recorder, and a directory for the files of a run. -/
def furnished (store : Store) : World Store (Recorder Unit) :=
  { cluster := store, runner := { memory := () }, files := ⟨[(["tmp"], .directory)], []⟩ }

/-- The resource of the troubled store stands under its id. -/
theorem keyed_troubledStore : troubledStore.Keyed := by
  obtain ⟨hwebuis, hdeployments⟩ := Store.keyed_empty.putWebUI
    { id := ⟨"ns", "ui"⟩, uid := "u1", spec := { version := "v1.4" } }
  exact ⟨hwebuis, hdeployments⟩

end ConsoleKeeper.Operator
