import ConsoleKeeper.Proofs.Stage

/-!
# `ConsoleKeeper.Proofs.Lifecycle`: one version after another

A `visit` asks for a version, makes a pass, and looks at what the store has then. `Converges` says
what should be seen: the deployment is there exactly if a version is asked for, it has that version
and belongs to the resource, and the result and the status say which way led there.

`Stage.pass_gives` proves that for one pass, case by case of what is deployed.
`visits_form_lifecycle` puts the visits one behind the other: for every list of plain versions,
every pass ends with a result, and each visit converges from what the visit before it left.
-/

set_option autoImplicit false

namespace ConsoleKeeper.DryRun

open Version (Plain normalize)

variable {settings : Settings} {resource : WebUI} {status : WebUI.Status}
  {deployment : Deployment} {deployed : Option Deployment} {tag : String}
  {w w' : World Store (Recorder Unit)}

/-! ### What a pass is for -/

/-- The action that leads from a deployed tag to a version. -/
def actionFor (deployed : Option String) (version : String) : Action :=
  match deployed with
  | none => if version = "" then .noop else .provision
  | some tag => Action.lawful version tag

/-- The phase in which that ends. -/
def phaseFor (deployed : Option String) (version : String) : Phase :=
  if version ≠ "" then .provisioned
  else
    match deployed with
    | none => .notDeployed
    | some _ => .deprovisioned

/-- What a pass for a version leaves of what was deployed. -/
structure Reconciled (uid : String) (before : Option Deployment) (version : String)
    (after : Option Deployment) : Prop where
  /-- Nothing is deployed where nothing is asked for. -/
  absent : version = "" → after = none
  /-- Otherwise the version is deployed, and the resource controls the deployment. -/
  present : version ≠ "" → ∃ deployment tag, after = some deployment ∧ Tended uid deployment tag ∧
    normalize tag = normalize version ∧ deployment.isControlledBy uid = true
  /-- A deployment of that version is kept. At most its owners change, and they do not if the
  resource controls it already. -/
  kept : ∀ tag, before.bind tagOf? = some tag → normalize version = normalize tag →
    ∃ old owners, before = some old ∧ after = some { old with owners } ∧
      (old.isControlledBy uid = true → owners = old.owners)
  /-- In place of any other the version is deployed under the tag that is asked for. -/
  renewed : version ≠ "" →
    (∀ tag, before.bind tagOf? = some tag → normalize version ≠ normalize tag) →
      after.bind tagOf? = some version

/-- How a pass ended. -/
structure Concluded (settings : Settings) (resource : WebUI) (action : Action) (phase : Phase)
    (deployed : Option Deployment) (result : PassResult) (w : World Store (Recorder Unit)) :
    Prop where
  acted : result.action = action
  reached : result.phase = some phase
  stage : ∃ message, Stage settings resource ⟨some phase, message⟩ deployed w

/-- A pass ended as it should, given what was deployed before. -/
def EndsWell (settings : Settings) (resource : WebUI) (before : Option Deployment)
    (result : PassResult) (w : World Store (Recorder Unit)) : Prop :=
  ∃ after, Reconciled resource.uid before resource.spec.version after ∧
    Concluded settings resource (actionFor (before.bind tagOf?) resource.spec.version)
      (phaseFor (before.bind tagOf?) resource.spec.version) after result w

/-- The choice about a plain tag is lawful. -/
theorem choose_eq_lawful {version : String} (hplain : Plain tag) (hne : tag ≠ "") :
    Action.choose version (some (normalize tag)) = Action.lawful version tag :=
  (Action.choose_normalize_iff version tag).mpr (.inl (hplain.bare_normalize hne).normalize)

/-- A plain version in the normal form of a tag asks for something. -/
theorem ne_empty_of_normalize_eq {version : String} (hplain : Plain tag) (hne : tag ≠ "")
    (h : normalize version = normalize tag) : version ≠ "" := by
  rintro rfl
  exact (hplain.bare_normalize hne).said h.symm

/-- A version that the tag does not have is none that is deployed. -/
theorem Tended.differs {uid version : String} (hd : Tended uid deployment tag)
    (h : normalize version ≠ normalize tag) (other : String)
    (hother : (some deployment).bind tagOf? = some other) :
    normalize version ≠ normalize other := by
  cases hd.tagged.symm.trans hother
  exact h

namespace Reconciled

variable {uid version : String} {before : Option Deployment}

/-- Where nothing is asked for, and what was there is another version, nothing is left. -/
theorem gone (hversion : version = "")
    (hother : ∀ tag, before.bind tagOf? = some tag → normalize version ≠ normalize tag) :
    Reconciled uid before version none where
  absent _ := rfl
  present hne := absurd hversion hne
  kept tag htag hsame := absurd hsame (hother tag htag)
  renewed hne := absurd hversion hne

/-- A new deployment of the version in place of any other. -/
theorem made (hne : version ≠ "")
    (hother : ∀ tag, before.bind tagOf? = some tag → normalize version ≠ normalize tag)
    (hd : Tended uid deployment version) (hcontrolled : deployment.isControlledBy uid = true) :
    Reconciled uid before version (some deployment) where
  absent hversion := absurd hversion hne
  present _ := ⟨deployment, version, rfl, hd, rfl, hcontrolled⟩
  kept tag htag hsame := absurd hsame (hother tag htag)
  renewed _ _ := hd.tagged

/-- A deployment of the version, with other owners at most. -/
theorem same {owners : List OwnerReference} (hd : Tended uid deployment tag)
    (hsame : normalize version = normalize tag)
    (hcontrolled : ({ deployment with owners } : Deployment).isControlledBy uid = true)
    (howners : deployment.isControlledBy uid = true → owners = deployment.owners) :
    Reconciled uid (some deployment) version (some { deployment with owners }) where
  absent hversion := absurd hversion (ne_empty_of_normalize_eq hd.plain hd.said hsame)
  present _ := ⟨_, tag, rfl, hd.relinked hcontrolled, hsame.symm, hcontrolled⟩
  kept _ _ _ := ⟨deployment, owners, rfl, rfl, howners⟩
  renewed _ hother := absurd hsame (hother tag hd.tagged)

end Reconciled

namespace Stage

/-- A pass whose status is stored already is concluded with a report. -/
theorem conclude_gives {phase : Phase} {message : String}
    (h : Stage settings resource ⟨some phase, message⟩ deployed w) (action : Action)
    (said : String) :
    (Operator.conclude resource.id action phase said : Scene PassResult).Gives w
      (Concluded settings resource action phase deployed) :=
  .after (Act.runOn_report _ w) (.pure ⟨rfl, rfl, message, h.report _⟩)

/-- A pass is finished by storing its status and concluding it. -/
theorem finish_gives (h : Stage settings resource status deployed w) (action : Action)
    (phase : Phase) (message : String) :
    ((keeper settings).finish resource.id action phase message).Gives w
      (Concluded settings resource action phase deployed) :=
  (h.setStatus_gives phase message).bind fun _ _ h₁ => h₁.conclude_gives action message

variable (hs : Usual settings)
include hs

/-- The deployment is linked unless it is linked already. -/
theorem repairLink_gives (h : Stage settings resource status (some deployment) w)
    (hd : Tended resource.uid deployment tag) :
    ((keeper settings).repairLink resource.id resource deployment).Gives w fun _ w' =>
      ∃ owners, (deployment.isControlledBy resource.uid = true → owners = deployment.owners) ∧
        ({ deployment with owners } : Deployment).isControlledBy resource.uid = true ∧
          Stage settings resource status (some { deployment with owners }) w' := by
  rw [Operator.repairLink, h.ns_eq]
  by_cases hcontrolled : deployment.isControlledBy resource.uid = true
  · rw [if_pos hcontrolled]
    exact .pure ⟨deployment.owners, fun _ => rfl, hcontrolled, h⟩
  · rw [if_neg hcontrolled]
    -- A link that fails is caught, but here it does not fail.
    refine (h.link_gives hs hd).catching.bind ?_
    rintro _ w' ⟨_, rfl, hcontrolled', ⟨owners, rfl⟩, h'⟩
    exact .pure ⟨owners, fun hc => absurd hc hcontrolled, hcontrolled', h'⟩

/-- A deployment of the wanted version is kept. -/
theorem keep_gives (h : Stage settings resource status (some deployment) w)
    (hd : Tended resource.uid deployment tag)
    (hsame : normalize resource.spec.version = normalize tag) (actual : String) :
    ((keeper settings).carryOut resource.id resource deployment actual .noop).Gives w
      (EndsWell settings resource (some deployment)) := by
  have haction : actionFor (some tag) resource.spec.version = .noop :=
    Action.lawful_eq_noop.mpr hsame
  have hphase : phaseFor (some tag) resource.spec.version = .provisioned :=
    if_pos (ne_empty_of_normalize_eq hd.plain hd.said hsame)
  refine (h.repairLink_gives hs hd).bind fun _ w₁ ⟨owners, howners, hcontrolled, h₁⟩ => ?_
  refine (h₁.finish_gives .noop .provisioned _).mono fun result w₂ hconcluded => ?_
  refine ⟨_, .same hd hsame hcontrolled howners, ?_⟩
  rwa [Option.bind_some, hd.tagged, haction, hphase]

variable (hspec : Modest resource.spec) (hplain : Plain resource.spec.version)
include hspec hplain

/-- The wanted version is deployed. -/
theorem provision_gives (hne : resource.spec.version ≠ "")
    (h : Stage settings resource status deployed w) (action : Action) :
    ((keeper settings).provision resource action).Gives w fun result w' =>
      ∃ deployment, Tended resource.uid deployment resource.spec.version ∧
        deployment.isControlledBy resource.uid = true ∧
          Concluded settings resource action .provisioned (some deployment) result w' := by
  rw [Operator.provision, h.ns_eq]
  refine (h.setStatus_gives .provisionStarted _).bind fun _ w₁ h₁ => ?_
  refine (h₁.attemptPlaybook_gives hs hspec hplain .provision).bind fun _ w₂ h₂ => ?_
  -- The playbook leaves the simulated deployment, which is the one that is linked.
  have hmade := tended_deploymentOf hs hspec hplain hne resource.uid w₁.cluster
  refine (h₂.link_gives hs hmade).bind ?_
  rintro _ w₃ ⟨hcontrolled, ⟨owners, rfl⟩, h₃⟩
  refine (h₃.finish_gives action .provisioned _).mono fun result w₄ hconcluded => ?_
  exact ⟨_, hmade.relinked hcontrolled, hcontrolled, hconcluded⟩

/-- The deployment is taken away. -/
theorem deprovision_gives (h : Stage settings resource status deployed w) :
    ((keeper settings).deprovision resource).Gives w fun _ w' =>
      Stage settings resource
        ⟨some .deprovisioned, Operator.finishedMessage .deprovision⟩ none w' := by
  rw [Operator.deprovision]
  refine (h.setStatus_gives .deprovisionStarted _).bind fun _ w₁ h₁ => ?_
  refine (h₁.attemptPlaybook_gives hs hspec hplain .deprovision).bind fun _ w₂ h₂ => ?_
  exact h₂.setStatus_gives .deprovisioned _

/-- Where nothing is wanted, a deployment is taken away. -/
theorem remove_gives (h : Stage settings resource status (some deployment) w)
    (hd : Tended resource.uid deployment tag)
    (hdiffers : normalize resource.spec.version ≠ normalize tag)
    (hempty : resource.spec.version = "") (actual : String) :
    ((keeper settings).carryOut resource.id resource deployment actual .deprovision).Gives w
      (EndsWell settings resource (some deployment)) := by
  -- What is due is said by `actionFor` and `phaseFor`; here both come down to taking the
  -- deployment away.
  have haction : actionFor (some tag) resource.spec.version = .deprovision :=
    (if_neg hdiffers).trans (if_pos (String.isEmpty_iff.mpr hempty))
  have hphase : phaseFor (some tag) resource.spec.version = .deprovisioned := by
    simp [phaseFor, hempty]
  refine (h.deprovision_gives hs hspec hplain).bind fun _ w₁ h₁ => ?_
  refine (h₁.conclude_gives .deprovision _).mono fun result w₂ hconcluded => ?_
  refine ⟨none, .gone hempty (hd.differs hdiffers), ?_⟩
  rwa [Option.bind_some, hd.tagged, haction, hphase]

/-- A deployment of another version is replaced. -/
theorem replace_gives (h : Stage settings resource status (some deployment) w)
    (hd : Tended resource.uid deployment tag)
    (hdiffers : normalize resource.spec.version ≠ normalize tag)
    (hne : resource.spec.version ≠ "") (actual : String) :
    ((keeper settings).carryOut resource.id resource deployment actual
      .deprovisionThenProvision).Gives w (EndsWell settings resource (some deployment)) := by
  have haction : actionFor (some tag) resource.spec.version = .deprovisionThenProvision :=
    (if_neg hdiffers).trans (if_neg (mt String.isEmpty_iff.mp hne))
  have hphase : phaseFor (some tag) resource.spec.version = .provisioned := if_pos hne
  rw [Operator.carryOut, Operator.replace]
  refine (h.deprovision_gives hs hspec hplain).catching.bind ?_
  rintro _ w₁ ⟨_, rfl, h₁⟩
  -- The deployment is gone by now, so what the second half makes is new.
  refine (h₁.provision_gives hs hspec hplain hne .deprovisionThenProvision).mono ?_
  rintro result w₂ ⟨made, hmade, hcontrolled, hconcluded⟩
  refine ⟨_, .made hne (hd.differs hdiffers) hmade hcontrolled, ?_⟩
  rwa [Option.bind_some, hd.tagged, haction, hphase]

/-- A pass over a deployment. -/
theorem settle_gives (h : Stage settings resource status (some deployment) w)
    (hd : Tended resource.uid deployment tag) :
    ((keeper settings).settle resource.id resource deployment (normalize tag)).Gives w
      (EndsWell settings resource (some deployment)) := by
  rw [Operator.settle]
  refine .after (Act.runOn_report _ w) ?_
  have h₁ := h.report
    (.actionDecided resource.id
      (Action.choose resource.spec.version (some (normalize tag))) resource.spec.version
      (some (normalize tag)))
  -- The three cases are those of the lawful action, which is the chosen one for a plain tag.
  rw [choose_eq_lawful hd.plain hd.said, Action.lawful] at h₁ ⊢
  by_cases hsame : normalize resource.spec.version = normalize tag
  · rw [if_pos hsame] at h₁ ⊢
    exact h₁.keep_gives hs hd hsame _
  · rw [if_neg hsame] at h₁ ⊢
    by_cases hempty : resource.spec.version = ""
    · rw [if_pos (String.isEmpty_iff.mpr hempty)] at h₁ ⊢
      exact h₁.remove_gives hs hspec hplain hd hsame hempty _
    · rw [if_neg (mt String.isEmpty_iff.mp hempty)] at h₁ ⊢
      exact h₁.replace_gives hs hspec hplain hd hsame hempty _

/-- A pass where nothing is deployed. -/
theorem settleAbsent_gives (h : Stage settings resource status none w) :
    ((keeper settings).settleAbsent resource.id resource).Gives w
      (EndsWell settings resource none) := by
  have hother : ∀ tag, (none : Option Deployment).bind tagOf? = some tag →
      normalize resource.spec.version ≠ normalize tag := by
    intro tag htag
    cases htag
  rw [Operator.settleAbsent]
  -- Without a deployment only the requested version decides.
  refine .after (Act.runOn_report _ w) ?_
  have h₁ := h.report
    (.actionDecided resource.id (Action.choose resource.spec.version none) resource.spec.version
      none)
  by_cases hempty : resource.spec.version = ""
  · have hchoice : Action.choose resource.spec.version none = .noop := by
      simp [Action.choose, hempty]
    rw [hchoice] at h₁ ⊢
    refine (h₁.finish_gives .noop .notDeployed _).mono fun result w₂ hconcluded => ?_
    refine ⟨none, .gone hempty hother, ?_⟩
    simpa [actionFor, phaseFor, hempty] using hconcluded
  · have hchoice : Action.choose resource.spec.version none = .provision := by
      simp [Action.choose, String.isEmpty_iff, hempty]
    rw [hchoice] at h₁ ⊢
    refine (h₁.provision_gives hs hspec hplain hempty .provision).mono ?_
    rintro result w₂ ⟨deployment, hd, hcontrolled, hconcluded⟩
    refine ⟨_, .made hempty hother hd hcontrolled, ?_⟩
    simpa [actionFor, phaseFor, hempty] using hconcluded

/-- A pass ends as it should. -/
theorem pass_gives (h : Stage settings resource resource.status deployed w)
    (hd : ∀ deployment, deployed = some deployment →
      ∃ tag, Tended resource.uid deployment tag) :
    ((keeper settings).pass resource.id).Gives w (EndsWell settings resource deployed) := by
  have hname : (keeper settings).settings.cluster.deploymentName = consoleName :=
    hs.deploymentName
  obtain ⟨_, w₁, hread, rfl, h₁⟩ := (h.report (.passStarted resource.id)).getWebUI_gives
  refine .of_eq (Operator.pass_of_resource hread) ?_
  cases deployed with
  | some deployment =>
    obtain ⟨tag, htended⟩ := hd deployment rfl
    obtain ⟨_, w₂, hread', rfl, h₂⟩ := h₁.getDeployment_gives
    have hversion := htended.deployedVersion
    -- The reads are about the console; the pass names it by its settings.
    rw [← h.ns_eq, ← hname] at hread'
    rw [← hs.containerName] at hversion
    refine .of_eq (Operator.settleResource_of_deployment hread') ?_
    refine .of_eq (Operator.settleDeployed_of_version hversion) ?_
    exact h₂.settle_gives hs hspec hplain htended
  | none =>
    have hread' : (Store.getDeployment ns consoleName : Scene Deployment).runOn w₁ = _ :=
      Store.getDeployment_run_absent (h₁.reliable _) h₁.present
    rw [Operator.settleResource, h.ns_eq, hname]
    refine .after (Act.runOn_catching_some hread' rfl) ?_
    exact (h₁.noted _).settleAbsent_gives hs hspec hplain

end Stage

/-! ### Asking for one version after another -/

/-- What is seen of a console after a pass. -/
structure Sight where
  result : PassResult
  resource : WebUI
  deployment : Option Deployment

/-- A resource with another version. -/
def asking (resource : WebUI) (version : String) : WebUI :=
  { resource with spec := { resource.spec with version } }

/-- Asks for a version, makes a pass, and looks at what the store has then. -/
def visit (op : Operator Store (Recorder Unit)) (version : String) : Scene Sight := do
  let store ← Act.cluster
  match store.webui? resourceId with
  | none => Act.fail .noMember
  | some resource =>
    Act.changeCluster fun store => store.enroll (asking resource version)
    let result ← op.pass resourceId
    let store ← Act.cluster
    match store.webui? resourceId with
    | none => Act.fail .noMember
    | some resource => pure ⟨result, resource, store.deployment? ns consoleName⟩

/-- After a pass for a version the console is as it was asked for, and the result and the status say
how it came to be. -/
structure Converges (uid : String) (before : Option Deployment) (version : String) (sight : Sight) :
    Prop extends Reconciled uid before version sight.deployment where
  uid : sight.resource.uid = uid
  asked : sight.resource.spec.version = version
  acted : sight.result.action = actionFor (before.bind tagOf?) version
  reached : sight.result.phase = some (phaseFor (before.bind tagOf?) version)
  stored : sight.resource.status.phase = some (phaseFor (before.bind tagOf?) version)

/-- Each of some visits converges, from what the visit before it left. -/
inductive Lifecycle (uid : String) : Option Deployment → List String → List Sight → Prop where
  | nil {before : Option Deployment} : Lifecycle uid before [] []
  | cons {before : Option Deployment} {version : String} {versions : List String} {sight : Sight}
      {sights : List Sight} (h : Converges uid before version sight)
      (hrest : Lifecycle uid sight.deployment versions sights) :
      Lifecycle uid before (version :: versions) (sight :: sights)

/-- What was left by a pass is tended. -/
theorem Reconciled.tended {uid version : String} {before after : Option Deployment}
    (h : Reconciled uid before version after) :
    ∀ deployment, after = some deployment → ∃ tag, Tended uid deployment tag := by
  rintro deployment rfl
  by_cases hempty : version = ""
  · cases h.absent hempty
  · obtain ⟨_, tag, ⟨⟩, hd, -, -⟩ := h.present hempty
    exact ⟨tag, hd⟩

/-- The resource is changed to ask for something else. -/
theorem Stage.enroll (h : Stage settings resource resource.status deployed w)
    (huid : resource.uid ≠ "") (spec : WebUI.Spec) :
    Stage settings { resource with spec } resource.status deployed
      { w with cluster := w.cluster.enroll { resource with spec } } := by
  have henroll : w.cluster.enroll { resource with spec } =
      w.cluster.putWebUI { resource with spec } := by
    rw [Store.enroll, if_neg]
    simpa [String.isEmpty_iff] using huid
  rw [henroll]
  refine ⟨⟨h.unruled, h.workshop, h.playbook⟩, h.id, ?_, h.present, h.reliable⟩
  exact (Store.webui?_putWebUI _ _ _).trans (if_pos rfl)

/-- A visit converges, and leaves a stage for the next one. -/
theorem visit_gives (hs : Usual settings) (hspec : Modest resource.spec) (huid : resource.uid ≠ "")
    (h : Stage settings resource resource.status deployed w)
    (hd : ∀ deployment, deployed = some deployment → ∃ tag, Tended resource.uid deployment tag)
    {version : String} (hplain : Plain version) :
    (visit (keeper settings) version).Gives w fun sight w' =>
      Converges resource.uid deployed version sight ∧ Modest sight.resource.spec ∧
        Stage settings sight.resource sight.resource.status sight.deployment w' := by
  have hspec' : Modest (asking resource version).spec :=
    ⟨hspec.registryUrl, hspec.registryNamespace, hspec.defaultSubdomain, hspec.masterHostname⟩
  have hpass := (h.enroll huid (asking resource version).spec).pass_gives hs hspec' hplain hd
  have hid : (asking resource version).id = resourceId := h.id
  have hstored : w.cluster.webui? resourceId = some resource := h.webui?
  rw [hid] at hpass
  rw [visit]
  refine .after (Act.runOn_cluster w) ?_
  simp only [hstored]
  refine .after (Act.runOn_changeCluster _ w) (hpass.bind ?_)
  rintro result w' ⟨after, hreconciled, hacted, hreached, message, hstage⟩
  -- What is looked at after the pass is what the pass left in the store.
  have hstored' := hstage.webui?
  refine .after (Act.runOn_cluster w') ?_
  simp only [hstored', hstage.present]
  exact .pure ⟨⟨hreconciled, rfl, rfl, hacted, hreached, rfl⟩, hspec', hstage.current⟩

/-- From any world that is ready, with a console that is tended or absent, the visits for plain
versions form a lifecycle: every pass ends, and each converges. -/
theorem visits_form_lifecycle (hs : Usual settings) (hspec : Modest resource.spec)
    (huid : resource.uid ≠ "") (h : Stage settings resource resource.status deployed w)
    (hd : ∀ deployment, deployed = some deployment → ∃ tag, Tended resource.uid deployment tag)
    (versions : List String) (hplain : ∀ version ∈ versions, Plain version) :
    ∃ sights w', (versions.mapM (visit (keeper settings))).runOn w = (.ok sights, w') ∧
      Lifecycle resource.uid deployed versions sights := by
  suffices hgives : (versions.mapM (visit (keeper settings))).Gives w fun sights _ =>
      Lifecycle resource.uid deployed versions sights from hgives
  -- The world, the resource and what is deployed are general: the next visit starts from what
  -- this one left.
  induction versions generalizing resource deployed w with
  | nil => exact .pure .nil
  | cons version rest ih =>
    rw [List.mapM_cons]
    refine (visit_gives hs hspec huid h hd (hplain version List.mem_cons_self)).bind ?_
    rintro sight w₁ ⟨hconverges, hspec₁, h₁⟩
    have huid₁ : sight.resource.uid = resource.uid := hconverges.uid
    have hd₁ := hconverges.tended
    rw [← huid₁] at hd₁
    refine (ih hspec₁ (huid₁ ▸ huid) h₁ hd₁ fun v hv =>
      hplain v (List.mem_cons_of_mem version hv)).bind fun sights w₂ hrest => .pure ?_
    rw [huid₁] at hrest
    exact .cons hconverges hrest

/-- A directory for files, and nothing else. -/
def bareFiles : Tree :=
  ⟨[(["tmp"], .directory)], []⟩

/-- Settings that are usual. -/
def usualSettings : Settings :=
  { artifacts := Artifacts.inDirectory "/tmp" }

/-- These settings are usual. -/
theorem usual_usualSettings : Usual usualSettings :=
  ⟨rfl, rfl, rfl, by decide +kernel, by decide +kernel, by decide +kernel, by decide +kernel⟩

/-- A deployment that nothing controls. -/
def foundDeployment : Deployment where
  name := consoleName
  ns := ns
  uid := "d1"
  containers := [⟨consoleName, "quay.io/kubevirt/kubevirt-web-ui:v1.3"⟩]

/-- Files of a run can be made in the directory. -/
theorem workshop_bareFiles : Artifacts.Workshop usualSettings.artifacts bareFiles {} := by
  have hdir : bareFiles.locate "/tmp" = .ok ["tmp"] := by decide +kernel
  refine Artifacts.workshop_of_directory hdir rfl (by decide) (fun name hname hbytes => ?_)
    (fun name => ?_) rfl
  · have htmp : Path.ofText "/tmp" = ⟨"/", ["tmp"]⟩ := by decide +kernel
    have hpath : Artifacts.pathOf (Artifacts.inDirectory "/tmp") name =
        "/" ++ ("tmp/" ++ name) := by
      rw [Artifacts.pathOf, Artifacts.inDirectory, htmp, Path.ofText_name hname]
      simp [Path.join, Path.text, String.intercalate_cons_cons]
    have hroot : Tree.bytesIn "/" = 1 := by decide +kernel
    have hdirectory : Tree.bytesIn "tmp/" = 4 := by decide +kernel
    -- The directory takes five bytes, so a name of the given length stays under the limit of a
    -- path.
    have hlimit : 1 + (4 + Tree.bytesIn name) ≤ 37 := by omega
    rw [hpath, Artifacts.bytesIn_append, Artifacts.bytesIn_append, hroot, hdirectory]
    exact Nat.le_trans hlimit (by decide)
  · simp [bareFiles, Tree.at?, Table.get?_cons]

/-- The console's resource, which asks for nothing yet. -/
def newResource : WebUI where
  id := resourceId
  uid := "u1"

/-- The deployment that was found is tended. -/
theorem tended_foundDeployment : Tended "u1" foundDeployment "v1.3" where
  key := rfl
  tagged := by decide +kernel
  plain := by
    have hbare : Version.Bare "1.3" := by decide +kernel
    exact .marked hbare
  said := by decide
  owner _ h := by cases h

/-- A world with the resource, the deployment and a directory. -/
def foundWorld : World Store (Recorder Unit) where
  cluster := (({} : Store).putDeployment foundDeployment).putWebUI newResource
  runner := { memory := () }
  files := bareFiles

/-- This world is a stage, with the deployment that was found. -/
theorem stage_foundWorld :
    Stage usualSettings newResource newResource.status (some foundDeployment) foundWorld where
  unruled := rfl
  workshop := workshop_bareFiles
  playbook := by
    have hnone : bareFiles.find ({} : CommandSettings).playbookPath = .error .noEntry := by
      decide +kernel
    intro content mode hfind
    cases hnone.symm.trans hfind
  id := rfl
  stored := (Store.webui?_putWebUI _ _ _).trans (if_pos rfl)
  present := (Store.deployment?_putDeployment _ _ _ _).trans (if_pos rfl)
  reliable _ := rfl

/-- The deployment is taken over, kept under another spelling of its version, replaced, and taken
away. -/
theorem visits_form_lifecycle_foundWorld :
    ∃ sights w', (["v1.3", "1.3", "v2.0", ""].mapM (visit (keeper usualSettings))).runOn
        foundWorld = (.ok sights, w') ∧
      Lifecycle "u1" (some foundDeployment) ["v1.3", "1.3", "v2.0", ""] sights := by
  have hmodest : Modest newResource.spec :=
    ⟨by decide +kernel, by decide +kernel, rfl, rfl⟩
  have hold : Version.Bare "1.3" := by decide +kernel
  have hnew : Version.Bare "2.0" := by decide +kernel
  refine visits_form_lifecycle usual_usualSettings hmodest (by decide) stage_foundWorld ?_ _ ?_
  · rintro _ ⟨⟩
    exact ⟨"v1.3", tended_foundDeployment⟩
  · simp only [List.forall_mem_cons]
    exact ⟨.marked hold, .bare hold, .marked hnew, .empty, by simp⟩

end ConsoleKeeper.DryRun
