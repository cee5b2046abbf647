import ConsoleKeeper.Proofs.DryRun
import ConsoleKeeper.Proofs.Operator.Playbook
import ConsoleKeeper.Proofs.Workshop

/-!
# `ConsoleKeeper.Proofs.Keeper`: the operator of a dry run

`keeper` is the operator that a dry run prepares: over a store, with a recorder that plays the
playbook's part. `runPlaybook_gives` says that a run of its playbook does what it is for and leaves
a world that is ready for the next run.

It asks for three things. The settings are `Usual`, so that the commands and the deployment have the
names that `simulate` knows. The spec is `Modest`, so that the inventory can be read back. The world
is `Ready`: no command is to fail, the files of a run can be made, and the playbook, which the
recorder reads where there is one, is a text.
-/

set_option autoImplicit false

namespace ConsoleKeeper.DryRun

open Artifacts (Workshop Made Removal NulFree)
open Inventory (Fits)
open Operator (loginCommand projectCommand playbookCommand)

variable {settings : Settings} {spec : WebUI.Spec} {task : PlaybookAction} {path : String}
  {command : Command} {w w' : World Store (Recorder Unit)}

/-! ### The operator of a dry run -/

/-- The operator of a dry run. -/
def keeper (settings : Settings) : Operator Store (Recorder Unit) where
  settings
  cluster := Store.cluster
  runner := Recorder.run simulate
  credentials := pure credentials

/-- A dry run prepares that operator, and enrols an empty resource. -/
theorem prepare_run (settings : Settings) (w : World Store (Recorder Unit)) :
    (prepare settings).runOn w =
      (.ok (keeper settings),
        { w with
          cluster := w.cluster.enroll { id := resourceId }
          journal := w.journal.push (Operator.builtEvent settings) }) := rfl

/-- A text that a line of an inventory can hold and that starts no digest. -/
def Neat (text : String) : Prop :=
  Fits text ∧ '@' ∉ text.toList

instance (text : String) : Decidable (Neat text) :=
  inferInstanceAs (Decidable (_ ∧ _))

/-- Settings with the usual commands and the usual names in the cluster, and with neat defaults. -/
structure Usual (settings : Settings) : Prop where
  commands : settings.commands = {}
  deploymentName : settings.cluster.deploymentName = consoleName
  containerName : settings.cluster.containerName = consoleName
  registryUrl : Neat settings.inventory.registryUrl
  registryNamespace : Neat settings.inventory.registryNamespace
  version : Neat settings.inventory.version
  ns : Neat settings.inventory.ns

/-- A spec with neat registries and without host names. -/
structure Modest (spec : WebUI.Spec) : Prop where
  registryUrl : Neat spec.registryUrl
  registryNamespace : Neat spec.registryNamespace
  defaultSubdomain : spec.defaultSubdomain = ""
  masterHostname : spec.masterHostname = ""

/-- A neat text or a neat default in its place is neat. -/
theorem neat_orDefault {value default : String} (h : Neat value) (h' : Neat default) :
    Neat (Inventory.orDefault value default) := by
  unfold Inventory.orDefault
  split
  · exact h'
  · exact h

/-- The values of a modest spec with a neat version fit into an inventory. -/
theorem fits_assignments (hs : Usual settings) (hspec : Modest spec) (hversion : Neat spec.version)
    (task : PlaybookAction) :
    ∀ pair ∈ Inventory.assignments spec ns task settings.inventory, Fits pair.2 := by
  have hns : Neat ns := by decide +kernel
  have hempty : Fits "" := by decide +kernel
  refine Inventory.fits_values ?_
  simp only [Inventory.inserted, hspec.defaultSubdomain, hspec.masterHostname, List.forall_mem_cons]
  exact ⟨(neat_orDefault hspec.registryUrl hs.registryUrl).1,
    (neat_orDefault hspec.registryNamespace hs.registryNamespace).1,
    (neat_orDefault hversion hs.version).1, (neat_orDefault hns hs.ns).1, hempty, hempty, by simp⟩

/-! ### A world that is ready for a run -/

/-- No command is to fail, files can be made, and the playbook can be read if it is there. -/
structure Ready (settings : Settings) (w : World Store (Recorder Unit)) : Prop where
  unruled : w.runner.rules = []
  workshop : Workshop settings.artifacts w.files w.random
  playbook : w.files.Only Recorder.Legible settings.commands.playbookPath

namespace Ready

/-- A report leaves the world ready. -/
theorem report (h : Ready settings w) (event : Event) :
    Ready settings { w with journal := w.journal.push event } :=
  ⟨h.unruled, h.workshop, h.playbook⟩

/-- A legible file that a run makes leaves the world ready. -/
theorem made {content : List UInt8} {mode : Nat} (h : Ready settings w)
    (hmade : Made settings.artifacts content mode w path w') (hlegible : Recorder.Legible content) :
    Ready settings w' where
  unruled := by rw [hmade.runner, h.unruled]
  workshop := h.workshop.made hmade
  playbook := h.playbook.write hlegible hmade.written

/-- The removal of a file leaves the world ready. -/
theorem removal (h : Ready settings w) (hremoval : Removal path w w') : Ready settings w' where
  unruled := by rw [hremoval.aside.runner, h.unruled]
  workshop := h.workshop.removal hremoval
  playbook := by
    obtain hu | ⟨reason, -, hfiles⟩ := hremoval.unlinked
    · exact h.playbook.unlink hu
    · rw [hfiles]
      exact h.playbook

end Ready

/-! ### A run of the playbook -/

/-- The world is ready, and its cluster is as given. -/
structure Leaves (settings : Settings) (store : Store) (w : World Store (Recorder Unit)) :
    Prop extends Ready settings w where
  cluster : w.cluster = store

/-- A command that names no file and is not the playbook does nothing. -/
theorem command_gives (hw : Ready settings w)
    (hprogram : command.program.endsWith "ansible-playbook" = false)
    (hnamed : ∀ argument ∈ command.arguments, argument.startsWith "/" = false) :
    (Recorder.run simulate command).Gives w fun _ w' => Leaves settings w.cluster w' := by
  obtain ⟨found, hfound⟩ : ∃ found, Recorder.filesNamed w.files command.arguments = .ok found := by
    refine Recorder.filesNamed_ok fun argument hmem hslash => ?_
    rw [hnamed argument hmem] at hslash
    cases hslash
  exact ⟨_, _, Recorder.run_ok hfound hw.unruled (simulate_other hprogram),
    ⟨hw.unruled, hw.workshop, hw.playbook⟩, rfl⟩

/-- The inventory of a run was written to a path. -/
structure Listed (settings : Settings) (spec : WebUI.Spec) (task : PlaybookAction) (path : String)
    (files : Tree) : Prop where
  nulFree : NulFree path
  settled : (Path.ofText path).text = path
  written : ∃ before : Tree, before.write path
    (Text.Utf8.encode (Inventory.render spec ns task settings.inventory).toList)
    Artifacts.commonMode = .ok files

/-- A run comes to its credentials file. -/
theorem runToCredentials_gives (hw : Ready settings w) :
    ((keeper settings).runToCredentials task spec ns).Gives w fun made w' =>
      made.1 = credentials ∧ NulFree made.2 ∧ Leaves settings w.cluster w' := by
  rw [Operator.runToCredentials]
  refine .after (Act.runOn_report _ w) (.after rfl ?_)
  have hready := hw.report (.runStarted task ns spec.version)
  refine hready.workshop.openCredentials_gives.bind fun path w' hmade => .pure ?_
  exact ⟨rfl, hmade.nulFree, hready.made hmade ⟨[], rfl⟩, hmade.cluster⟩

/-- A run comes to its inventory file. -/
theorem stepsToInventory_gives (hs : Usual settings) (hw : Ready settings w)
    (credentialsPath : String) :
    ((keeper settings).stepsToInventory task spec ns credentials credentialsPath).Gives w
      fun path w' => Listed settings spec task path w'.files ∧ Leaves settings w.cluster w' := by
  have hcommands : (keeper settings).settings.commands = {} := hs.commands
  rw [Operator.stepsToInventory, hcommands]
  have hclient : ("oc" : String).endsWith "ansible-playbook" = false := by decide +kernel
  -- Neither command names a file by a path from the root.
  have hlogin : ∀ argument ∈ ["login", credentials.host,
      "--certificate-authority=" ++ credentials.caFile, "--token=" ++ credentials.token],
      argument.startsWith "/" = false := by
    decide +kernel
  have hproject : ∀ argument ∈ ["project", ns], argument.startsWith "/" = false := by
    decide +kernel
  refine (command_gives hw hclient hlogin).bind fun _ w₁ h₁ => ?_
  refine (command_gives h₁.toReady hclient hproject).bind fun _ w₂ h₂ => ?_
  refine (h₂.workshop.openInventory_gives _).mono fun path w₃ hmade => ?_
  refine ⟨⟨hmade.nulFree, hmade.settled, w₂.files, hmade.written⟩,
    h₂.toReady.made hmade ⟨_, Text.Utf8.decode?_encode _⟩, ?_⟩
  rw [hmade.cluster, h₂.cluster, h₁.cluster]

/-- The playbook does the task that its inventory names. -/
theorem playTask_gives (hs : Usual settings) (hspec : Modest spec) (hversion : Neat spec.version)
    (hw : Ready settings w) (hlisted : Listed settings spec task path w.files)
    (credentialsPath : String) :
    ((keeper settings).playTask credentialsPath path).Gives w fun _ w' =>
      Leaves settings (played w.cluster task (imageFor spec settings.inventory)) w' := by
  obtain ⟨-, hsettled, before, hwritten⟩ := hlisted
  have hcommands : (keeper settings).settings.commands = {} := hs.commands
  have hshort : Recorder.Short ({} : CommandSettings).playbookPath := by decide +kernel
  have hread : ∃ text, Recorder.fileText w.files path = .ok text := by
    obtain ⟨mode, hfind⟩ := Tree.find_of_write hwritten
    refine Recorder.fileText_ok (fun content mode' hfind' => ?_) (by rw [hfind]; simp)
    obtain ⟨hcontent, -⟩ := Node.file.inj (Except.ok.inj (hfind.symm.trans hfind'))
    rw [← hcontent]
    exact ⟨_, Text.Utf8.decode?_encode _⟩
  have hplain : (Path.ofText ({} : CommandSettings).playbookPath).text =
      ({} : CommandSettings).playbookPath := by
    decide +kernel
  have hplaybook : ∃ text,
      Recorder.fileText w.files ({} : CommandSettings).playbookPath = .ok text :=
    Recorder.fileText_ok (hs.commands ▸ hw.playbook) (Recorder.find_ne_nameTooLong hshort)
  let command := playbookCommand {} path ((keeper settings).environment credentialsPath)
  obtain ⟨found, hfound⟩ : ∃ found, Recorder.filesNamed w.files command.arguments = .ok found := by
    refine Recorder.filesNamed_ok fun argument hmem hslash => ?_
    -- Of the four arguments only the inventory and the playbook can name files.
    obtain rfl | rfl | rfl | rfl : argument = "-i" ∨ argument = path ∨
        argument = ({} : CommandSettings).playbookPath ∨ argument = "-vvv" := by
      simpa [command, playbookCommand] using hmem
    · exact absurd hslash (by decide +kernel)
    · rw [hsettled]
      exact hread
    · rw [hplain]
      exact hplaybook
    · exact absurd hslash (by decide +kernel)
  have hfits := fits_assignments hs hspec hversion task
  have hprogram : ("ansible-playbook" : String).endsWith "ansible-playbook" = true := by
    decide +kernel
  have hplayed : (simulate command).runOn (Recorder.noted w command found) = (.ok (), _) :=
    simulate_render hprogram rfl hfits (readText_render hfits hwritten)
  rw [Operator.playTask, hcommands]
  have hrun : (Recorder.run simulate command).Gives w fun _ w' =>
      Leaves settings (played w.cluster task (imageFor spec settings.inventory)) w' :=
    ⟨_, _, Recorder.run_ok hfound hw.unruled hplayed, ⟨hw.unruled, hw.workshop, hw.playbook⟩, rfl⟩
  refine hrun.discard.mono ?_
  rintro _ w' ⟨_, h⟩
  exact h

/-- The commands of a run do its task. -/
theorem playbookSteps_gives (hs : Usual settings) (hspec : Modest spec)
    (hversion : Neat spec.version) (hw : Ready settings w) (task : PlaybookAction)
    (credentialsPath : String) :
    ((keeper settings).playbookSteps task spec ns credentials credentialsPath).Gives w fun _ w' =>
      Leaves settings (played w.cluster task (imageFor spec settings.inventory)) w' := by
  rw [Operator.playbookSteps_eq]
  refine (stepsToInventory_gives hs hw credentialsPath).bind fun path w₁ ⟨hlisted, h₁⟩ => ?_
  have hplay := playTask_gives hs hspec hversion h₁.toReady hlisted credentialsPath
  refine (Artifacts.thenRemove_gives hlisted.nulFree hplay).mono fun _ w₃ ⟨w₂, h₂, hremoval⟩ => ?_
  refine ⟨h₂.toReady.removal hremoval, ?_⟩
  rw [hremoval.aside.cluster, h₂.cluster, h₁.cluster]

/-- A run of the playbook does its task, and leaves a world that is ready for the next one. -/
theorem runPlaybook_gives (hs : Usual settings) (hspec : Modest spec) (hversion : Neat spec.version)
    (hw : Ready settings w) (task : PlaybookAction) :
    ((keeper settings).runPlaybook task spec ns).Gives w fun _ w' =>
      Leaves settings (played w.cluster task (imageFor spec settings.inventory)) w' := by
  rw [Operator.runPlaybook_eq]
  refine (runToCredentials_gives hw).bind ?_
  rintro ⟨_, credentialsPath⟩ w₁ ⟨rfl, hcredentials, h₁⟩
  have hsteps := playbookSteps_gives hs hspec hversion h₁.toReady task credentialsPath
  refine (Artifacts.thenRemove_gives hcredentials hsteps).bind fun _ w₃ ⟨w₂, h₂, hremoval⟩ => ?_
  have hready := h₂.toReady.removal hremoval
  refine .after (Act.runOn_report _ w₃) (.pure ⟨hready.report _, ?_⟩)
  rw [← h₁.cluster]
  exact hremoval.aside.cluster.trans h₂.cluster

end ConsoleKeeper.DryRun
