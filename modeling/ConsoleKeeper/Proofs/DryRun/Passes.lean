import ConsoleKeeper.Proofs.Lifecycle

/-!
# `ConsoleKeeper.Proofs.DryRun.Passes`: the lines of a dry run

A dry run shows a line for each version that it asks for. `linesFrom` says which lines these should
be: each of them shows the action and the phase that lead from the version before to this one, and
nothing else counts. `passes_show` is that a dry run shows just these lines, for every list of plain
versions, from every world in which the commands work and no console is deployed.

`Stage.pass_gives` speaks of the tag that is deployed, and the lines speak of the version that was
asked for. `Holds` keeps the two together along the run: what is deployed has a tag of that version.
-/

set_option autoImplicit false

namespace ConsoleKeeper.DryRun

open Version (Plain normalize)

variable {settings : Settings} {resource : WebUI} {deployed : Option Deployment}
  {before : Option String} {uid version : String} {w : World Store (Recorder Unit)}

/-- The version that is there once a version was asked for. To ask for nothing leaves none. -/
def installed (version : String) : Option String :=
  if version = "" then none else some version

/-- The lines for versions that are asked for one after the other, from the version before them. -/
def linesFrom : Option String → List String → List String
  | _, [] => []
  | before, version :: rest =>
    passLine version (actionFor before version) (phaseFor before version) ::
      linesFrom (installed version) rest

/-- What is deployed is what was asked for, under one of the tags of that version. -/
def Holds (uid : String) (deployed : Option Deployment) : Option String → Prop
  | none => deployed = none
  | some version => ∃ deployment tag, deployed = some deployment ∧ Tended uid deployment tag ∧
      normalize tag = normalize version

/-- A pass makes the console what it was asked to be. -/
theorem Reconciled.holds {first after : Option Deployment}
    (h : Reconciled uid first version after) : Holds uid after (installed version) := by
  unfold installed
  split
  · next hempty => exact h.absent hempty
  · next hne =>
    obtain ⟨deployment, tag, hafter, hd, hsame, -⟩ := h.present hne
    exact ⟨deployment, tag, hafter, hd, hsame⟩

namespace Holds

/-- All that is deployed is tended. -/
theorem tended (h : Holds uid deployed before) :
    ∀ deployment, deployed = some deployment → ∃ tag, Tended uid deployment tag := by
  rintro deployment rfl
  cases before with
  | none => cases h
  | some version =>
    obtain ⟨_, tag, ⟨⟩, hd, -⟩ := h
    exact ⟨tag, hd⟩

/-- The action is the same for the deployed tag as for the version before. -/
theorem actionFor_eq (h : Holds uid deployed before) (version : String) :
    actionFor (deployed.bind tagOf?) version = actionFor before version := by
  cases before with
  | none =>
    obtain rfl : deployed = none := h
    rfl
  | some last =>
    obtain ⟨deployment, tag, rfl, hd, hsame⟩ := h
    rw [Option.bind_some, hd.tagged]
    simp only [actionFor, Action.lawful, hsame]

/-- The phase is the same for the deployed tag as for the version before. -/
theorem phaseFor_eq (h : Holds uid deployed before) (version : String) :
    phaseFor (deployed.bind tagOf?) version = phaseFor before version := by
  cases before with
  | none =>
    obtain rfl : deployed = none := h
    rfl
  | some last =>
    obtain ⟨deployment, tag, rfl, hd, -⟩ := h
    rw [Option.bind_some, hd.tagged]
    rfl

end Holds

/-- No default is neat in itself, since it says nothing. -/
theorem neat_empty : Neat "" := by
  decide +kernel

/-- A spec that asks for a version and nothing else is modest. -/
theorem modest_version (version : String) : Modest { version } :=
  ⟨neat_empty, neat_empty, rfl, rfl⟩

/-- A version is asked for. The line shows the way from the version before, and the console is as
it was asked to be. -/
theorem setVersion_gives (hs : Usual settings) (huid : resource.uid ≠ "")
    (h : Stage settings resource resource.status deployed w)
    (hholds : Holds resource.uid deployed before) (hplain : Plain version) :
    (setVersion (keeper settings) version).Gives w fun line w' =>
      line = passLine version (actionFor before version) (phaseFor before version) ∧
        ∃ (resource' : WebUI) (after : Option Deployment),
          Stage settings resource' resource'.status after w' ∧
          Holds resource.uid after (installed version) ∧ resource'.uid = resource.uid := by
  have hpass := (h.enroll huid { version }).pass_gives hs (modest_version version) hplain
    hholds.tended
  have hstored : w.cluster.webui? resource.id = some resource := h.stored
  rw [setVersion, ← h.id]
  refine .after (Act.runOn_cluster w) ?_
  simp only [hstored]
  refine .after (Act.runOn_changeCluster _ w) (hpass.bind ?_)
  rintro result w' ⟨after, hreconciled, hacted, -, message, hstage⟩
  -- The phase in the line is read off the stored status, the action off the result.
  have hstored' : w'.cluster.webui? resource.id = _ := hstage.stored
  refine .after (Act.runOn_cluster w') ?_
  simp only [hstored', Option.bind_some]
  refine .pure ⟨?_, _, after, hstage.current, hreconciled.holds, rfl⟩
  rw [hacted, hholds.actionFor_eq, hholds.phaseFor_eq]

/-- Asking for one version after the other shows their lines, from the version before. -/
theorem setVersions_give (hs : Usual settings) (huid : resource.uid ≠ "")
    (h : Stage settings resource resource.status deployed w)
    (hholds : Holds resource.uid deployed before) {versions : List String}
    (hplain : ∀ version ∈ versions, Plain version) :
    (versions.mapM (setVersion (keeper settings))).Gives w fun lines _ =>
      lines = linesFrom before versions := by
  -- By induction on the versions, each of which finds what the one before it left.
  induction versions generalizing resource deployed before w with
  | nil => exact .pure rfl
  | cons version rest ih =>
    rw [List.mapM_cons]
    refine (setVersion_gives hs huid h hholds (hplain version List.mem_cons_self)).bind ?_
    rintro line w₁ ⟨rfl, resource', after, h', hholds', huid'⟩
    rw [← huid'] at huid hholds'
    have hrest := ih huid h' hholds' fun v hv => hplain v (List.mem_cons_of_mem version hv)
    exact hrest.bind fun lines w₂ hlines => .pure (congrArg _ hlines)

/-- The uid of a number is none that says nothing. -/
theorem uidOf_ne_empty (number : Nat) : Store.uidOf number ≠ "" := by
  simp [Store.uidOf]

/-- A console is enrolled in a store without one. -/
theorem stage_enroll (h : Ready settings w)
    (habsent : w.cluster.deployment? ns consoleName = none)
    (hreliable : ∀ operation, w.cluster.failures operation = []) :
    Stage settings { id := resourceId, uid := w.cluster.issueUid.1 } {} none
      { w with cluster := w.cluster.enroll { id := resourceId } } := by
  have henroll : w.cluster.enroll { id := resourceId } = w.cluster.issueUid.2.putWebUI
      { id := resourceId, uid := w.cluster.issueUid.1 } := rfl
  rw [henroll]
  refine ⟨⟨h.unruled, h.workshop, h.playbook⟩, rfl, ?_, habsent, hreliable⟩
  exact (Store.webui?_putWebUI _ _ _).trans (if_pos rfl)

/-- A dry run shows the lines of its versions, from none. It does so for all plain versions, with
the usual settings, where the commands work and nothing is deployed yet. -/
theorem passes_show (hs : Usual settings) (h : Ready settings w)
    (habsent : w.cluster.deployment? ns consoleName = none)
    (hreliable : ∀ operation, w.cluster.failures operation = [])
    {versions : List String} (hplain : ∀ version ∈ versions, Plain version) :
    (passes settings versions).Gives w fun lines _ => lines = linesFrom none versions := by
  have hstage := (stage_enroll h habsent hreliable).report (Operator.builtEvent settings)
  have hnone : Holds w.cluster.issueUid.1 none none := rfl
  exact .after (prepare_run settings w)
    (setVersions_give hs (uidOf_ne_empty _) hstage hnone hplain)

/-- The lines of the whole dry run: the version is installed, found, replaced by another, and taken
away. -/
example : linesFrom none versions =
    ["version='v1.4'   action=provision                    phase=PROVISIONED",
      "version='v1.4'   action=noop                         phase=PROVISIONED",
      "version='v2.0'   action=deprovision_then_provision   phase=PROVISIONED",
      "version=''       action=deprovision                  phase=DEPROVISIONED"] := by
  decide +kernel

end ConsoleKeeper.DryRun
