import ConsoleKeeper.Proofs.Keeper
import ConsoleKeeper.Proofs.Operator.Course
import ConsoleKeeper.Proofs.Operator.Decision
import ConsoleKeeper.Proofs.Operator.Ownership

/-!
# `ConsoleKeeper.Proofs.Stage`: the console and its world

A `Stage` is a world in which every part of a pass can do its work: it says what the store has of
the console, and that no call and no command is to fail. Each part of a pass takes one stage to
another. Calls that read leave it as it is, `setStatus_gives` changes the status, `link_gives` the
owners of the deployment, and `attemptPlaybook_gives` what is deployed.
-/

set_option autoImplicit false

namespace ConsoleKeeper

namespace DryRun

open Version (Plain)

variable {settings : Settings} {resource : WebUI} {status : WebUI.Status}
  {deployment : Deployment} {deployed : Option Deployment} {tag : String}
  {w w' : World Store (Recorder Unit)}

/-! ### Deployments -/

/-- The tag of the console's container. -/
def tagOf? (deployment : Deployment) : Option String :=
  (deployment.container? consoleName).bind fun container => Image.tag? container.image

/-- The console's deployment, with a plain tag that names a version, and controlled by nothing but
the resource with a uid. -/
structure Tended (uid : String) (deployment : Deployment) (tag : String) : Prop where
  key : deployment.key = (ns, consoleName)
  tagged : tagOf? deployment = some tag
  plain : Plain tag
  said : tag ≠ ""
  owner : ∀ owner, deployment.controller? = some owner → owner.uid = uid

/-- The version of a tended deployment is the normal form of its tag. -/
theorem Tended.deployedVersion {uid : String} (h : Tended uid deployment tag) :
    deployment.deployedVersion consoleName = .ok (some (Version.normalize tag)) := by
  obtain ⟨container, hcontainer, htag⟩ := Option.bind_eq_some_iff.mp h.tagged
  exact Deployment.deployedVersion_of_tag hcontainer htag (h.plain.bare_normalize h.said).said

/-- A deployment is tended under the owner that controls it. -/
theorem Tended.relinked {uid : String} {owners : List OwnerReference}
    (h : Tended uid deployment tag)
    (hcontrolled : ({ deployment with owners } : Deployment).isControlledBy uid = true) :
    Tended uid { deployment with owners } tag where
  key := h.key
  tagged := h.tagged
  plain := h.plain
  said := h.said
  owner owner hcontroller := by
    obtain ⟨owner', hcontroller', huid⟩ := Deployment.isControlledBy_iff.mp hcontrolled
    cases hcontroller.symm.trans hcontroller'
    exact huid

/-- A plain version is neat. -/
theorem neat_of_plain {version : String} (h : Plain version) : Neat version := by
  have hc : ∀ c, Version.IsOrdinary c → c ≠ '=' ∧ c ≠ ' ' ∧ c ≠ '@' := by
    rintro c ⟨hc, -⟩
    simp only [List.mem_cons, not_or] at hc
    exact ⟨hc.2.2.2.1, hc.2.2.2.2.1, hc.2.2.1⟩
  refine ⟨fun c hmem => ?_, fun hmem => (hc _ (h.ordinary _ hmem)).2.2 rfl⟩
  have hordinary := h.ordinary c hmem
  exact ⟨(hc c hordinary).1, (hc c hordinary).2.1, hordinary.2⟩

/-- The image that a run asks for has the version as its tag. -/
theorem tag?_imageFor {spec : WebUI.Spec} (hs : Usual settings) (hspec : Modest spec)
    (hplain : Plain spec.version) (hne : spec.version ≠ "") :
    Image.tag? (imageFor spec settings.inventory) = some spec.version := by
  have hversion : Inventory.orDefault spec.version settings.inventory.version = spec.version := by
    rw [Inventory.orDefault, if_neg (by simpa [String.isEmpty_iff] using hne)]
  have hname : ("/kubevirt-web-ui" : String) = "/" ++ "kubevirt-web-ui" := by decide +kernel
  -- No character of a plain version means anything in a reference.
  have hslash : '/' ∉ spec.version.toList := fun h => (hplain.ordinary _ h).1 (by decide)
  have hcolon : ':' ∉ spec.version.toList := fun h => (hplain.ordinary _ h).1 (by decide)
  have hdigest : '@' ∉ spec.version.toList := fun h => (hplain.ordinary _ h).1 (by decide)
  have hurl := (neat_orDefault hspec.registryUrl hs.registryUrl).2
  have hspace := (neat_orDefault hspec.registryNamespace hs.registryNamespace).2
  rw [imageFor, hversion, hname, ← String.append_assoc]
  have hpart := Image.isPart_iff.mpr ⟨hslash, hcolon, hdigest⟩
  refine Image.tag?_write_some (Image.isRepository_append ?_ (by decide +kernel)) hpart none
  simp [String.toList_append, hurl, hspace]

/-- The deployment that a run makes. -/
theorem tended_deploymentOf {spec : WebUI.Spec} (hs : Usual settings) (hspec : Modest spec)
    (hplain : Plain spec.version) (hne : spec.version ≠ "") (uid : String) (store : Store) :
    Tended uid (deploymentOf store (imageFor spec settings.inventory)) spec.version where
  key := rfl
  tagged := by
    have hcontainer : (deploymentOf store (imageFor spec settings.inventory)).container?
        consoleName = some ⟨consoleName, imageFor spec settings.inventory⟩ := by
      simp [deploymentOf, Store.newDeployment, Deployment.container?]
    rw [tagOf?, hcontainer, Option.bind_some]
    exact tag?_imageFor hs hspec hplain hne
  plain := hplain
  said := hne
  owner _ h := by cases h

/-- What is deployed after a task. -/
def deployedBy (task : PlaybookAction) (store : Store) (image : String) : Option Deployment :=
  match task with
  | .provision => some (deploymentOf store image)
  | .deprovision => none

/-! ### The console and its world -/

/-- A world that is ready for a pass, with the given resource, its present status, and what is
deployed. -/
structure Stage (settings : Settings) (resource : WebUI) (status : WebUI.Status)
    (deployed : Option Deployment) (w : World Store (Recorder Unit)) : Prop extends
    Ready settings w where
  id : resource.id = resourceId
  stored : w.cluster.webui? resource.id = some { resource with status }
  present : w.cluster.deployment? ns consoleName = deployed
  reliable : ∀ operation, w.cluster.failures operation = []

namespace Stage

/-- The resource is in the namespace of the console. -/
theorem ns_eq (h : Stage settings resource status deployed w) : resource.id.ns = ns := by
  rw [h.id]
  rfl

/-- The store has the resource, with its present status. -/
theorem webui? (h : Stage settings resource status deployed w) :
    w.cluster.webui? resourceId = some { resource with status } := by
  rw [← h.id]
  exact h.stored

/-- The resource can be taken with its present status. -/
theorem current (h : Stage settings resource status deployed w) :
    Stage settings { resource with status } status deployed w :=
  ⟨h.toReady, h.id, h.stored, h.present, h.reliable⟩

/-- A report leaves the stage as it is. -/
theorem report (h : Stage settings resource status deployed w) (event : Event) :
    Stage settings resource status deployed { w with journal := w.journal.push event } :=
  ⟨h.toReady.report event, h.id, h.stored, h.present, h.reliable⟩

/-- Another store with the same contents. -/
theorem store (h : Stage settings resource status deployed w) {store : Store}
    {status' : WebUI.Status} {deployed' : Option Deployment}
    (hstored : store.webui? resource.id = some { resource with status := status' })
    (hpresent : store.deployment? ns consoleName = deployed')
    (hreliable : store.failures = w.cluster.failures) :
    Stage settings resource status' deployed' { w with cluster := store } :=
  ⟨⟨h.unruled, h.workshop, h.playbook⟩, h.id, hstored, hpresent,
    fun operation => by rw [hreliable]; exact h.reliable operation⟩

/-- Noting a call leaves the stage as it is. -/
theorem noted (h : Stage settings resource status deployed w) (call : CallNote) :
    Stage settings resource status deployed { w with cluster := w.cluster.noted call } :=
  h.store h.stored h.present rfl

/-- The resource is read as it is. -/
theorem getWebUI_gives (h : Stage settings resource status deployed w) :
    (Store.getWebUI resource.id : Scene WebUI).Gives w fun read w' =>
      read = { resource with status } ∧ Stage settings resource status deployed w' :=
  ⟨_, _, Store.getWebUI_run (h.reliable _) h.stored, rfl, h.noted _⟩

/-- A status is stored. -/
theorem updateWebUI_gives (h : Stage settings resource status deployed w)
    (status' : WebUI.Status) :
    (Store.updateWebUI { resource with status := status' } : Scene WebUI).Gives w fun _ w' =>
      Stage settings resource status' deployed w' := by
  have hrun : (Store.updateWebUI { resource with status := status' } : Scene WebUI).runOn w = _ :=
    Store.updateWebUI_run (h.reliable _) h.stored
  have hstored : ((w.cluster.noted ⟨.updateWebUI, resource.id.ns, resource.id.name⟩).putWebUI
      { resource with status := status' }).webui? resource.id =
        some { resource with status := status' } := by
    rw [Store.webui?_putWebUI, if_pos rfl]
  exact ⟨_, _, hrun, (h.store hstored h.present rfl).report _⟩

/-- A status is reported. -/
theorem setStatus_gives (h : Stage settings resource status deployed w) (phase : Phase)
    (message : String) :
    ((keeper settings).setStatus resource.id phase message).Gives w fun _ w' =>
      Stage settings resource ⟨some phase, message⟩ deployed w' := by
  have hreport : (Operator.reportStatus (keeper settings).cluster
      ⟨resource.id, phase, .text message⟩).Gives w fun _ w' =>
        Stage settings resource ⟨some phase, message⟩ deployed w' := by
    rw [Operator.reportStatus]
    -- The resource is read again before the write, and it is still the same one.
    refine h.getWebUI_gives.catching.bind ?_
    rintro _ w₁ ⟨_, rfl, rfl, h₁⟩
    simp only [Operator.writeStatus, Operator.readMessage_text]
    refine .after (Act.runOn_lift _ _) ?_
    refine (h₁.updateWebUI_gives ⟨some phase, message⟩).catching.bind ?_
    rintro _ w₂ ⟨_, rfl, h₂⟩
    exact .after (Act.runOn_report _ w₂) (.pure (h₂.report _))
  refine hreport.discard.mono ?_
  rintro _ w' ⟨_, h⟩
  exact h

/-- The deployment is read as it is. -/
theorem getDeployment_gives (h : Stage settings resource status (some deployment) w) :
    (Store.getDeployment ns consoleName : Scene Deployment).Gives w fun read w' =>
      read = deployment ∧ Stage settings resource status (some deployment) w' :=
  ⟨_, _, Store.getDeployment_run (h.reliable _) h.present, rfl, h.noted _⟩

/-- Owners are stored. -/
theorem updateOwners_gives (h : Stage settings resource status (some deployment) w)
    (hkey : deployment.key = (ns, consoleName)) (owners : List OwnerReference) :
    (Store.updateOwners { deployment with owners } : Scene Deployment).Gives w fun written w' =>
      written = { deployment with owners } ∧
        Stage settings resource status (some { deployment with owners }) w' := by
  obtain ⟨hns, hname⟩ := Prod.mk.inj hkey
  have hpresent : w.cluster.deployment? deployment.ns deployment.name = some deployment := by
    rw [hns, hname, h.present]
  have hrun : (Store.updateOwners { deployment with owners } : Scene Deployment).runOn w = _ :=
    Store.updateOwners_run (h.reliable _) hpresent rfl
  have hkey' : (ns, consoleName) = ({ deployment with owners } : Deployment).key := hkey.symm
  refine ⟨_, _, hrun, rfl, h.store h.stored ?_ rfl⟩
  rw [Store.deployment?_putDeployment, if_pos hkey']

/-- The deployment is linked to the resource. Only its owners change. -/
theorem link_gives (hs : Usual settings)
    (h : Stage settings resource status (some deployment) w)
    (hd : Tended resource.uid deployment tag) :
    ((keeper settings).link resource ns).Gives w fun linked w' =>
      linked.isControlledBy resource.uid = true ∧
        (∃ owners, linked = { deployment with owners }) ∧
          Stage settings resource status (some linked) w' := by
  have hname : (keeper settings).settings.cluster.deploymentName = consoleName :=
    hs.deploymentName
  rw [Operator.link]
  simp only [hname]
  refine h.getDeployment_gives.catching.bind ?_
  rintro _ w₁ ⟨deployment, rfl, rfl, h₁⟩
  dsimp only
  cases hcontroller : deployment.controller? with
  | some owner =>
    -- Whatever controls a tended deployment is the resource.
    have huid : owner.uid = resource.uid := hd.owner owner hcontroller
    dsimp only
    rw [if_pos huid]
    refine .after (Act.runOn_report _ w₁) (.pure ⟨?_, ⟨deployment.owners, rfl⟩, h₁.report _⟩)
    exact Deployment.isControlledBy_iff.mpr ⟨owner, hcontroller, huid⟩
  | none =>
    dsimp only
    refine (h₁.updateOwners_gives hd.key _).catching.bind ?_
    rintro _ w₂ ⟨_, rfl, rfl, h₂⟩
    refine .after (Act.runOn_report _ w₂) (.pure ⟨?_, ⟨_, rfl⟩, h₂.report _⟩)
    exact Deployment.isControlledBy_iff.mpr
      ⟨_, Deployment.controller?_withOwner hcontroller settings.cluster resource, rfl⟩

/-- A task of the playbook is done. -/
theorem attemptPlaybook_gives (hs : Usual settings) (hspec : Modest resource.spec)
    (hplain : Plain resource.spec.version) (h : Stage settings resource status deployed w)
    (task : PlaybookAction) :
    ((keeper settings).attemptPlaybook task resource).Gives w fun _ w' =>
      Stage settings resource status
        (deployedBy task w.cluster (imageFor resource.spec settings.inventory)) w' := by
  rw [Operator.attemptPlaybook, h.ns_eq]
  refine (runPlaybook_gives hs hspec (neat_of_plain hplain) h.toReady task).catching.bind ?_
  rintro _ w' ⟨_, rfl, hleft⟩
  -- The simulated command changes deployments only, and the failures that wait stay as they are.
  refine .pure ⟨hleft.toReady, h.id, ?_, ?_, ?_⟩ <;> rw [hleft.cluster]
  · cases task <;> exact h.stored
  · cases task with
    | provision => exact (Store.deployment?_putDeployment _ _ _ _).trans (if_pos rfl)
    | deprovision => exact (Store.deployment?_removeDeployment _ _ _ _ _).trans (if_pos rfl)
  · cases task <;> exact h.reliable

end Stage

end DryRun
end ConsoleKeeper
