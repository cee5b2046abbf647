import ConsoleKeeper.Operator.Pass
import ConsoleKeeper.Proofs.Cluster.Store
import ConsoleKeeper.Proofs.Version

/-!
# `ConsoleKeeper.Proofs.Operator.Decision`: what a pass decides about a deployed tag

The deployed version is the normal form of the tag, and the choice takes the normal form of both
versions. So the tag loses two marks where the requested version loses one. `Action.lawful` is the
choice that takes one from each.

`pass_decides` says what a pass decides and carries out for a deployment with a tag, and exactly
when that is the lawful action: always, if the tag has at most one leading `v`. For other tags the
two disagree about the versions that either of them takes for the deployed one.
-/

set_option autoImplicit false

namespace ConsoleKeeper

/-- The action by the normal forms of the requested version and the deployed tag. -/
def Action.lawful (desired tag : String) : Action :=
  if Version.normalize desired = Version.normalize tag then .noop
  else if desired.isEmpty then .deprovision
  else .deprovisionThenProvision

/-- The choice about a deployed version. -/
theorem Action.choose_some (desired actual : String) :
    Action.choose desired (some actual) = Action.lawful desired actual := by
  simp only [choose, lawful, Version.same, decide_eq_true_eq]

/-- Nothing is done exactly about a version that is taken for the requested one. -/
theorem Action.lawful_eq_noop {desired tag : String} :
    Action.lawful desired tag = .noop ↔ Version.normalize desired = Version.normalize tag := by
  unfold lawful
  split
  · next h => simp [h]
  · next h => split <;> simp [h]

/-- If two versions are both not taken for the requested one, the same is done about them. -/
theorem Action.lawful_of_ne {desired tag tag' : String}
    (h : Version.normalize desired ≠ Version.normalize tag)
    (h' : Version.normalize desired ≠ Version.normalize tag') :
    Action.lawful desired tag = Action.lawful desired tag' := by
  rw [lawful, lawful, if_neg h, if_neg h']

/-- Where the lawful action is chosen although the deployed version is a normal form already. -/
theorem Action.choose_normalize_iff (desired tag : String) :
    Action.choose desired (some (Version.normalize tag)) = Action.lawful desired tag ↔
      Version.normalize (Version.normalize tag) = Version.normalize tag ∨
        Version.normalize desired ≠ Version.normalize tag ∧
          Version.normalize desired ≠ Version.normalize (Version.normalize tag) := by
  rw [choose_some]
  -- A second mark makes a difference only where the requested version is one of the two forms.
  by_cases hfix : Version.normalize (Version.normalize tag) = Version.normalize tag
  · simp [lawful, hfix]
  · constructor
    · intro h
      refine .inr ⟨fun hd => ?_, fun hd => ?_⟩
      · rw [lawful_eq_noop.mpr hd, lawful_eq_noop, hd] at h
        exact hfix h.symm
      · have hnoop := h.symm.trans (lawful_eq_noop.mpr hd)
        exact hfix (hd.symm.trans (lawful_eq_noop.mp hnoop))
    · rintro (h | ⟨hne, hne'⟩)
      · exact absurd h hfix
      · exact lawful_of_ne hne' hne

namespace Deployment

variable {deployment : Deployment} {name : String} {container : Container} {tag : String}

/-- The version of a deployment with a tag that names one. -/
theorem deployedVersion_of_tag (hcontainer : deployment.container? name = some container)
    (htag : Image.tag? container.image = some tag) (hne : Version.normalize tag ≠ "") :
    deployment.deployedVersion name = .ok (some (Version.normalize tag)) := by
  simp [deployedVersion, hcontainer, htag, String.isEmpty_iff, hne]

end Deployment

namespace Operator

variable {κ ρ : Type} {op : Operator κ ρ} {id : ResourceId} {resource : WebUI}
  {deployment : Deployment} {w w₁ w₂ : World κ ρ}

/-- A pass goes on with the resource that it reads. -/
theorem pass_of_resource
    (h : (op.cluster.getWebUI id).runOn { w with journal := w.journal.push (.passStarted id) } =
      (.ok resource, w₁)) :
    (op.pass id).runOn w = (op.settleResource id resource).runOn w₁ := by
  rw [pass, Act.runOn_bind_ok _ (Act.runOn_report _ w),
    Act.runOn_bind_ok _ (Act.runOn_catching_ok h)]

/-- A pass goes on with the deployment that it reads. -/
theorem settleResource_of_deployment
    (h : (op.cluster.getDeployment id.ns op.settings.cluster.deploymentName).runOn w =
      (.ok deployment, w₁)) :
    (op.settleResource id resource).runOn w =
      (op.settleDeployed id resource deployment).runOn w₁ := by
  rw [settleResource, Act.runOn_bind_ok _ (Act.runOn_catching_ok h)]

/-- A pass goes on with the version that it reads off the deployment. -/
theorem settleDeployed_of_version {actual : String}
    (h : deployment.deployedVersion op.settings.cluster.containerName = .ok (some actual)) :
    (op.settleDeployed id resource deployment).runOn w =
      (op.settle id resource deployment actual).runOn w := by
  rw [settleDeployed, h, Act.runOn_bind_ok _ (Act.runOn_lift _ w)]

/-- A pass over a deployment with a tag that names a version decides by `Action.choose` and carries
that out. It decides lawfully exactly if the tag has lost all its marks when it is read, or if the
requested version is neither what the tag names nor what is left after a second mark is taken. -/
theorem pass_decides {container : Container} {tag : String}
    (hresource : (op.cluster.getWebUI id).runOn
      { w with journal := w.journal.push (.passStarted id) } = (.ok resource, w₁))
    (hdeployment : (op.cluster.getDeployment id.ns op.settings.cluster.deploymentName).runOn w₁ =
      (.ok deployment, w₂))
    (hcontainer : deployment.container? op.settings.cluster.containerName = some container)
    (htag : Image.tag? container.image = some tag) (hne : Version.normalize tag ≠ "") :
    ∃ action,
      (op.pass id).runOn w =
        (op.carryOut id resource deployment (Version.normalize tag) action).runOn
          { w₂ with
            journal := w₂.journal.push
              (.actionDecided id action resource.spec.version
                (some (Version.normalize tag))) } ∧
      deployment.deployedVersion op.settings.cluster.containerName =
        .ok (some (Version.normalize tag)) ∧
      action = Action.choose resource.spec.version (some (Version.normalize tag)) ∧
      (action = Action.lawful resource.spec.version tag ↔
        Version.normalize (Version.normalize tag) = Version.normalize tag ∨
          Version.normalize resource.spec.version ≠ Version.normalize tag ∧
            Version.normalize resource.spec.version ≠
              Version.normalize (Version.normalize tag)) := by
  have hversion := Deployment.deployedVersion_of_tag hcontainer htag hne
  refine ⟨_, ?_, hversion, rfl, Action.choose_normalize_iff _ _⟩
  rw [pass_of_resource hresource, settleResource_of_deployment hdeployment,
    settleDeployed_of_version hversion, settle]
  exact Act.runOn_bind_ok _ (Act.runOn_report _ w₂)

/-- A deployment whose tag has two marks. -/
def doubleMarked : Deployment where
  name := "console"
  ns := "ns"
  uid := "d1"
  containers := [⟨"console", "quay.io/kubevirt/kubevirt-web-ui:vv1"⟩]

/-- The tag keeps both marks. -/
theorem tag?_doubleMarked : Image.tag? "quay.io/kubevirt/kubevirt-web-ui:vv1" = some "vv1" := by
  decide +kernel

/-- The container with that tag is the one that is looked for. -/
theorem container?_doubleMarked : doubleMarked.container? "console" =
    some ⟨"console", "quay.io/kubevirt/kubevirt-web-ui:vv1"⟩ := by
  decide +kernel

/-- The deployment with two marks is replaced by itself, which is not lawful. -/
theorem not_always_lawful :
    ¬∀ (desired name : String) (deployment : Deployment) (container : Container)
      (tag actual : String), deployment.container? name = some container →
        Image.tag? container.image = some tag → Version.normalize tag ≠ "" →
        deployment.deployedVersion name = .ok (some actual) →
        Action.choose desired (some actual) = Action.lawful desired tag := by
  intro h
  -- Reading the tag takes one mark and choosing takes another, from the tag only.
  have hne : Version.normalize "vv1" ≠ "" := by decide +kernel
  have hversion := Deployment.deployedVersion_of_tag container?_doubleMarked tag?_doubleMarked hne
  have hlawful := h "vv1" "console" doubleMarked _ "vv1" _ container?_doubleMarked
    tag?_doubleMarked hne hversion
  have hunlawful : Action.choose "vv1" (some (Version.normalize "vv1")) ≠
      Action.lawful "vv1" "vv1" := by
    decide +kernel
  exact hunlawful hlawful

/-- A resource that asks for the tag with two marks. -/
def markedResource : WebUI where
  id := ⟨"ns", "ui"⟩
  uid := "u1"
  spec := { version := "vv1" }

/-- A pass over them takes the deployment away to deploy the same image again. -/
theorem pass_decides_doubleMarked :
    let op : Operator Store Unit :=
      { settings := {}, cluster := Store.cluster, credentials := pure default,
        runner := fun command => pure ⟨command.display, 0⟩ }
    let store : Store := (({} : Store).putDeployment doubleMarked).putWebUI markedResource
    let w : World Store Unit := { cluster := store, runner := (), files := ⟨[], []⟩ }
    ∃ w', (op.pass ⟨"ns", "ui"⟩).runOn w =
      (op.carryOut ⟨"ns", "ui"⟩ markedResource doubleMarked (Version.normalize "vv1")
        .deprovisionThenProvision).runOn w' := by
  intro op store w
  have hresource : store.webui? ⟨"ns", "ui"⟩ = some markedResource := by
    simp [store, Store.webui?_putWebUI, markedResource]
  have hdeployment : store.deployment? "ns" "console" = some doubleMarked := by
    simp [store, Store.deployment?_putDeployment, Deployment.key, doubleMarked]
  have hread : (op.cluster.getWebUI ⟨"ns", "ui"⟩).runOn
      { w with journal := w.journal.push (.passStarted ⟨"ns", "ui"⟩) } =
        (.ok markedResource, _) := Store.getWebUI_run rfl hresource
  obtain ⟨action, hrun, -, haction, -⟩ :=
    pass_decides hread (Store.getDeployment_run rfl hdeployment) container?_doubleMarked
      tag?_doubleMarked (by decide +kernel)
  have hreplaced : action = .deprovisionThenProvision := by
    rw [haction]
    decide +kernel
  rw [hreplaced] at hrun
  exact ⟨_, hrun⟩

end Operator

end ConsoleKeeper
