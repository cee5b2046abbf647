import Mathlib.Logic.Relation
import ConsoleKeeper.Operator.Playbook
import ConsoleKeeper.Proofs.Artifacts

/-!
# `ConsoleKeeper.Proofs.Operator.Playbook`: what is left of a run

`runPlaybook_run` says how a run of the playbook can end, with the worlds in between: `Run` has one
case for each of the places where it can stop. Everything else about a run is read off it.

A run that keeps its files, `runKeepingFiles`, takes the same steps and removes nothing.
`runPlaybook_leaves_no_file` compares the two. They have the same outcome, which is that of the
first step that fails. After a run no file is left at the paths it made files at, and on its way it
touched no other file: each `Step` is the source of credentials, a command, or the run's own work at
one of its paths.
-/

set_option autoImplicit false

namespace ConsoleKeeper.Operator

open Artifacts (Removal Opening NulFree)

variable {κ ρ : Type} {op : Operator κ ρ} {task : PlaybookAction} {spec : WebUI.Spec} {ns : String}
  {w w' : World κ ρ}

/-! ### The parts of a run -/

/-- The environment of the commands of a run. -/
def environment (op : Operator κ ρ) (credentialsPath : String) : List (String × String) :=
  [(op.settings.commands.kubeconfigVariable, credentialsPath)]

/-- A run up to its credentials file. -/
def runToCredentials (op : Operator κ ρ) (task : PlaybookAction) (spec : WebUI.Spec)
    (ns : String) : Act κ ρ (Credentials × String) := do
  Act.report (.runStarted task ns spec.version)
  let credentials ← op.credentials
  let path ← Artifacts.openCredentials op.settings.artifacts
  pure (credentials, path)

/-- What a run does between its credentials file and its inventory file. -/
def stepsToInventory (op : Operator κ ρ) (task : PlaybookAction) (spec : WebUI.Spec) (ns : String)
    (credentials : Credentials) (credentialsPath : String) : Act κ ρ String := do
  let commands := op.settings.commands
  let _ ← op.runner (loginCommand commands credentials (op.environment credentialsPath))
  let _ ← op.runner (projectCommand commands ns (op.environment credentialsPath))
  Artifacts.openInventory op.settings.artifacts
    (Inventory.render spec ns task op.settings.inventory)

/-- A run up to its inventory file. -/
def runToInventory (op : Operator κ ρ) (task : PlaybookAction) (spec : WebUI.Spec) (ns : String) :
    Act κ ρ (String × String) := do
  let (credentials, credentialsPath) ← op.runToCredentials task spec ns
  let inventory ← op.stepsToInventory task spec ns credentials credentialsPath
  pure (credentialsPath, inventory)

/-- The last command of a run. -/
def playTask (op : Operator κ ρ) (credentialsPath inventory : String) : Act κ ρ Unit :=
  discard (op.runner
    (playbookCommand op.settings.commands inventory (op.environment credentialsPath)))

/-- A run that leaves its files where they are. -/
def runKeepingFiles (op : Operator κ ρ) (task : PlaybookAction) (spec : WebUI.Spec)
    (ns : String) : Act κ ρ Unit := do
  let (credentialsPath, inventory) ← op.runToInventory task spec ns
  op.playTask credentialsPath inventory
  Act.report (.runFinished task ns)

/-- The paths at which a run from the world makes its files. -/
def MakesFileAt (op : Operator κ ρ) (task : PlaybookAction) (spec : WebUI.Spec) (ns : String)
    (w : World κ ρ) (path : String) : Prop :=
  (∃ credentials w', (op.runToCredentials task spec ns).runOn w = (.ok (credentials, path), w')) ∨
    ∃ credentialsPath w',
      (op.runToInventory task spec ns).runOn w = (.ok (credentialsPath, path), w')

/-- The steps between the files of a run, and the removal of the second one behind them. -/
theorem playbookSteps_eq (op : Operator κ ρ) (task : PlaybookAction) (spec : WebUI.Spec)
    (ns : String) (credentials : Credentials) (credentialsPath : String) :
    op.playbookSteps task spec ns credentials credentialsPath = (do
      let inventory ← op.stepsToInventory task spec ns credentials credentialsPath
      Artifacts.thenRemove (op.playTask credentialsPath inventory) inventory) := by
  simp only [playbookSteps, stepsToInventory, Artifacts.withInventoryFile, bind_assoc]
  rfl

/-- A run in three parts: up to the credentials file, the steps with it, and its removal. -/
theorem runPlaybook_eq (op : Operator κ ρ) (task : PlaybookAction) (spec : WebUI.Spec)
    (ns : String) :
    op.runPlaybook task spec ns = (do
      let (credentials, credentialsPath) ← op.runToCredentials task spec ns
      Artifacts.thenRemove (op.playbookSteps task spec ns credentials credentialsPath)
        credentialsPath
      Act.report (.runFinished task ns)) := by
  simp only [runPlaybook, runToCredentials, Artifacts.withCredentialsFile, bind_assoc, pure_bind]

/-- Where there is a credentials file, the start of a run ended with making it. -/
theorem runToCredentials_ok {credentials : Credentials} {path : String}
    (h : (op.runToCredentials task spec ns).runOn w = (.ok (credentials, path), w')) :
    ∃ w₁,
      op.credentials.runOn { w with journal := w.journal.push (.runStarted task ns spec.version) } =
        (.ok credentials, w₁) ∧
      (Artifacts.openCredentials op.settings.artifacts).runOn w₁ = (.ok path, w') := by
  rw [runToCredentials, Act.runOn_bind_ok _ (Act.runOn_report _ w)] at h
  obtain ⟨credentials', w₁, hc, h⟩ := Act.of_runOn_bind_ok h
  obtain ⟨path', w₂, ho, h⟩ := Act.of_runOn_bind_ok h
  cases h
  exact ⟨w₁, hc, ho⟩

/-- Where there is an inventory file, the steps up to it ended with making it. -/
theorem stepsToInventory_ok {credentials : Credentials} {path inventory : String}
    (h : (op.stepsToInventory task spec ns credentials path).runOn w = (.ok inventory, w')) :
    ∃ login w₁ project w₂,
      (op.runner (loginCommand op.settings.commands credentials (op.environment path))).runOn w =
        (.ok login, w₁) ∧
      (op.runner (projectCommand op.settings.commands ns (op.environment path))).runOn w₁ =
        (.ok project, w₂) ∧
      (Artifacts.openInventory op.settings.artifacts
        (Inventory.render spec ns task op.settings.inventory)).runOn w₂ = (.ok inventory, w') := by
  rw [stepsToInventory] at h
  obtain ⟨login, w₁, hl, h⟩ := Act.of_runOn_bind_ok h
  obtain ⟨project, w₂, hp, h⟩ := Act.of_runOn_bind_ok h
  exact ⟨login, w₁, project, w₂, hl, hp, h⟩

/-- A credentials file that was made has a path without NULs. -/
theorem nulFree_of_runToCredentials {credentials : Credentials} {path : String}
    (h : (op.runToCredentials task spec ns).runOn w = (.ok (credentials, path), w')) :
    NulFree path := by
  obtain ⟨w₁, -, ho⟩ := runToCredentials_ok h
  exact (Artifacts.openCredentials_opening ho).nulFree

/-- An inventory file that was made has a path without NULs. -/
theorem nulFree_of_stepsToInventory {credentials : Credentials} {path inventory : String}
    (h : (op.stepsToInventory task spec ns credentials path).runOn w = (.ok inventory, w')) :
    NulFree inventory := by
  obtain ⟨-, -, -, w₂, -, -, ho⟩ := stepsToInventory_ok h
  exact (Artifacts.openInventory_opening ho).nulFree

/-- A run without a credentials file makes no file. -/
theorem not_makesFileAt_of_error {failure : Failure}
    (hfirst : (op.runToCredentials task spec ns).runOn w = (.error failure, w')) (path : String) :
    ¬op.MakesFileAt task spec ns w path := by
  rintro (⟨credentials, w₁, h⟩ | ⟨credentialsPath, w₁, h⟩)
  · rw [hfirst] at h
    cases h
  · rw [runToInventory, Act.runOn_bind_error _ hfirst] at h
    cases h

section Made

variable {credentials : Credentials} {path inventory : String} {w₁ w₂ : World κ ρ}
  (hfirst : (op.runToCredentials task spec ns).runOn w = (.ok (credentials, path), w₁))
include hfirst

/-- A run that ends before its inventory file makes the credentials file only. -/
theorem makesFileAt_of_error {failure : Failure}
    (hsecond : (op.stepsToInventory task spec ns credentials path).runOn w₁ =
      (.error failure, w₂)) (other : String) :
    op.MakesFileAt task spec ns w other ↔ other = path := by
  constructor
  · rintro (⟨credentials', w', h⟩ | ⟨credentialsPath, w', h⟩)
    · rw [hfirst] at h
      cases h
      rfl
    · rw [runToInventory, Act.runOn_bind_ok _ hfirst, Act.runOn_bind_error _ hsecond] at h
      cases h
  · rintro rfl
    exact .inl ⟨credentials, w₁, hfirst⟩

/-- A run that comes to its inventory file makes both files. -/
theorem makesFileAt_of_ok
    (hsecond : (op.stepsToInventory task spec ns credentials path).runOn w₁ =
      (.ok inventory, w₂)) (other : String) :
    op.MakesFileAt task spec ns w other ↔ other = path ∨ other = inventory := by
  have hrun : (op.runToInventory task spec ns).runOn w = (.ok (path, inventory), w₂) := by
    rw [runToInventory, Act.runOn_bind_ok _ hfirst, Act.runOn_bind_ok _ hsecond]
    rfl
  -- Runs are deterministic, so a second account of the same start is the first one.
  constructor
  · rintro (⟨credentials', w', h⟩ | ⟨credentialsPath, w', h⟩)
    · rw [hfirst] at h
      cases h
      exact .inl rfl
    · rw [hrun] at h
      cases h
      exact .inr rfl
  · rintro (rfl | rfl)
    · exact .inl ⟨credentials, w₁, hfirst⟩
    · exact .inr ⟨path, w₂, hrun⟩

end Made

/-! ### How a run ends -/

/-- How a run can end, with the worlds that it passes through. -/
inductive Run (op : Operator κ ρ) (task : PlaybookAction) (spec : WebUI.Spec) (ns : String)
    (w : World κ ρ) : Except Failure Unit → World κ ρ → Prop where
  /-- There is no credentials file. -/
  | unready {failure : Failure} {w₁ : World κ ρ}
      (hfirst : (op.runToCredentials task spec ns).runOn w = (.error failure, w₁)) :
      Run op task spec ns w (.error failure) w₁
  /-- There is no inventory file. -/
  | unlisted {credentials : Credentials} {path : String} {failure : Failure} {w₁ w₂ w₃ : World κ ρ}
      (hfirst : (op.runToCredentials task spec ns).runOn w = (.ok (credentials, path), w₁))
      (hsecond : (op.stepsToInventory task spec ns credentials path).runOn w₁ =
        (.error failure, w₂))
      (hremoval : Removal path w₂ w₃) :
      Run op task spec ns w (.error failure) w₃
  /-- The playbook fails. -/
  | failed {credentials : Credentials} {path inventory : String} {failure : Failure}
      {w₁ w₂ w₃ w₄ w₅ : World κ ρ}
      (hfirst : (op.runToCredentials task spec ns).runOn w = (.ok (credentials, path), w₁))
      (hsecond : (op.stepsToInventory task spec ns credentials path).runOn w₁ =
        (.ok inventory, w₂))
      (hthird : (op.playTask path inventory).runOn w₂ = (.error failure, w₃))
      (hremoval : Removal inventory w₃ w₄) (hremoval' : Removal path w₄ w₅) :
      Run op task spec ns w (.error failure) w₅
  /-- Every step succeeds. -/
  | finished {credentials : Credentials} {path inventory : String} {w₁ w₂ w₃ w₄ w₅ : World κ ρ}
      (hfirst : (op.runToCredentials task spec ns).runOn w = (.ok (credentials, path), w₁))
      (hsecond : (op.stepsToInventory task spec ns credentials path).runOn w₁ =
        (.ok inventory, w₂))
      (hthird : (op.playTask path inventory).runOn w₂ = (.ok (), w₃))
      (hremoval : Removal inventory w₃ w₄) (hremoval' : Removal path w₄ w₅) :
      Run op task spec ns w (.ok ())
        { w₅ with journal := w₅.journal.push (.runFinished task ns) }

/-- A run ends in one of these ways. -/
theorem runPlaybook_run {outcome : Except Failure Unit}
    (h : (op.runPlaybook task spec ns).runOn w = (outcome, w')) :
    Run op task spec ns w outcome w' := by
  rw [runPlaybook_eq] at h
  obtain ⟨⟨credentials, path⟩, w₁, hfirst, h⟩ | ⟨failure, hfirst, rfl⟩ := Act.runOn_bind_cases h
  · have hp : NulFree path := nulFree_of_runToCredentials hfirst
    rcases hsecond : (op.stepsToInventory task spec ns credentials path).runOn w₁
      with ⟨failure | inventory, w₂⟩
    · have hsteps := Act.runOn_bind_error
        (fun inventory => Artifacts.thenRemove (op.playTask path inventory) inventory) hsecond
      rw [← playbookSteps_eq] at hsteps
      obtain ⟨w₃, hrun, hremoval⟩ := Artifacts.thenRemove_run hp hsteps
      rw [Act.runOn_bind_error _ hrun] at h
      cases h
      exact .unlisted hfirst hsecond hremoval
    · have hi : NulFree inventory := nulFree_of_stepsToInventory hsecond
      rcases hthird : (op.playTask path inventory).runOn w₂ with ⟨outcome', w₃⟩
      -- The removals are nested: the inventory goes first, inside the removal of the credentials.
      obtain ⟨w₄, hplay, hremoval⟩ := Artifacts.thenRemove_run hi hthird
      have hsteps := (Act.runOn_bind_ok
        (fun inventory => Artifacts.thenRemove (op.playTask path inventory) inventory)
        hsecond).trans hplay
      rw [← playbookSteps_eq] at hsteps
      obtain ⟨w₅, hrun, hremoval'⟩ := Artifacts.thenRemove_run hp hsteps
      cases outcome' with
      | error failure =>
        rw [Act.runOn_bind_error _ hrun] at h
        cases h
        exact .failed hfirst hsecond hthird hremoval hremoval'
      | ok value =>
        rw [Act.runOn_bind_ok _ hrun] at h
        cases h
        exact .finished hfirst hsecond hthird hremoval hremoval'
  · exact .unready hfirst

/-! ### The steps of a run -/

/-- A step of a run that makes its files at the given paths. -/
inductive Step (op : Operator κ ρ) (paths : String → Prop) : World κ ρ → World κ ρ → Prop where
  /-- Credentials are asked for. -/
  | credentials {w w' : World κ ρ} {outcome : Except Failure Credentials}
      (h : op.credentials.runOn w = (outcome, w')) : Step op paths w w'
  /-- A command runs. -/
  | command {w w' : World κ ρ} {command : Command} {outcome : Except Failure CommandResult}
      (h : (op.runner command).runOn w = (outcome, w')) : Step op paths w w'
  /-- The run draws random bytes, or reports something. -/
  | idle {w w' : World κ ρ} (haside : World.Aside w w') (hfiles : w'.files = w.files) :
      Step op paths w w'
  /-- The run writes or removes one of its files. -/
  | own {w w' : World κ ρ} {path : String} (hpath : paths path) (haside : World.Aside w w')
      (hfiles : Tree.OnlyAt path w.files w'.files) : Step op paths w w'

/-- The steps of a run, one after the other. -/
abbrev Steps (op : Operator κ ρ) (paths : String → Prop) : World κ ρ → World κ ρ → Prop :=
  Relation.ReflTransGen (Step op paths)

variable {paths : String → Prop}

/-- A report is a step of its own kind. -/
theorem steps_report (w : World κ ρ) (event : Event) (h : event.phase? = none) :
    Steps op paths w { w with journal := w.journal.push event } :=
  .single (.idle (.report w h) rfl)

/-- Making a file is a step of the run. -/
theorem steps_of_opening {settings : ArtifactSettings} {named : String → String}
    {content : List UInt8} {mode : Nat} {outcome : Except Failure String}
    (h : Opening settings named content mode w outcome w')
    (hpaths : ∀ path, outcome = .ok path → paths path) : Steps op paths w w' := by
  obtain hfiles | ⟨path, ho, hw⟩ := h.files
  · exact .single (.idle h.toAside hfiles)
  · exact .single (.own (hpaths path ho) h.toAside (Tree.onlyAt_write hw))

/-- Removing a file is a step of the run. -/
theorem steps_of_removal {path : String} (h : Removal path w w') (hpath : paths path) :
    Steps op paths w w' :=
  .single (.own hpath h.aside h.onlyAt)

/-- The steps up to the credentials file. -/
theorem runToCredentials_steps {outcome : Except Failure (Credentials × String)}
    (h : (op.runToCredentials task spec ns).runOn w = (outcome, w'))
    (hpaths : ∀ credentials path, outcome = .ok (credentials, path) → paths path) :
    Steps op paths w w' := by
  rw [runToCredentials, Act.runOn_bind_ok _ (Act.runOn_report _ w)] at h
  refine (steps_report w (.runStarted task ns spec.version) rfl).trans ?_
  -- The provider runs in either case; a file is opened only if it gave credentials.
  obtain ⟨credentials, w₁, hc, h⟩ | ⟨failure, hc, rfl⟩ := Act.runOn_bind_cases h
  · have hcred : Steps op paths _ w₁ := .single (.credentials hc)
    refine hcred.trans ?_
    obtain ⟨path, w₂, ho, h⟩ | ⟨failure, ho, rfl⟩ := Act.runOn_bind_cases h
    · cases h
      exact steps_of_opening (Artifacts.openCredentials_opening ho)
        fun path hp => hpaths credentials path (by cases hp; rfl)
    · exact steps_of_opening (Artifacts.openCredentials_opening ho) fun path hp => by cases hp
  · exact .single (.credentials hc)

/-- The steps between the two files. -/
theorem stepsToInventory_steps {credentials : Credentials} {path : String}
    {outcome : Except Failure String}
    (h : (op.stepsToInventory task spec ns credentials path).runOn w = (outcome, w'))
    (hpaths : ∀ inventory, outcome = .ok inventory → paths inventory) :
    Steps op paths w w' := by
  rw [stepsToInventory] at h
  -- Each command is a step, whether it fails or not.
  obtain ⟨login, w₁, hl, h⟩ | ⟨failure, hl, rfl⟩ := Act.runOn_bind_cases h
  · have hlogin : Steps op paths w w₁ := .single (.command hl)
    refine hlogin.trans ?_
    obtain ⟨project, w₂, hp, h⟩ | ⟨failure, hp, rfl⟩ := Act.runOn_bind_cases h
    · have hproject : Steps op paths w₁ w₂ := .single (.command hp)
      exact hproject.trans (steps_of_opening (Artifacts.openInventory_opening h) hpaths)
    · exact .single (.command hp)
  · exact .single (.command hl)

/-- The last command is a step. -/
theorem playTask_steps {path inventory : String} {outcome : Except Failure Unit}
    (h : (op.playTask path inventory).runOn w = (outcome, w')) : Steps op paths w w' := by
  rw [playTask, Act.runOn_discard] at h
  cases h
  exact .single (.command rfl)

/-! ### After a run -/

/-- A run ends as it would if it kept its files. -/
theorem Run.outcome_eq {outcome : Except Failure Unit} (h : Run op task spec ns w outcome w') :
    outcome = ((op.runKeepingFiles task spec ns).runOn w).1 := by
  rw [runKeepingFiles, runToInventory]
  cases h with
  | unready hfirst => simp only [bind_assoc, Act.runOn_bind_error _ hfirst]
  | unlisted hfirst hsecond hremoval =>
    simp only [bind_assoc, Act.runOn_bind_ok _ hfirst, Act.runOn_bind_error _ hsecond]
  | failed hfirst hsecond hthird hremoval hremoval' =>
    simp only [bind_assoc, Act.runOn_bind_ok _ hfirst, Act.runOn_bind_ok _ hsecond, pure_bind,
      Act.runOn_bind_error _ hthird]
  | finished hfirst hsecond hthird hremoval hremoval' =>
    simp only [bind_assoc, Act.runOn_bind_ok _ hfirst, Act.runOn_bind_ok _ hsecond, pure_bind,
      Act.runOn_bind_ok _ hthird, Act.runOn_report]

/-- A file was made at the path and taken away, and whatever was reported then stayed reported. No
file is left at the path. -/
def Cleared (op : Operator κ ρ) (paths : String → Prop) (w : World κ ρ) (path : String)
    (w' : World κ ρ) : Prop :=
  w'.files.hasFile path = false ∧
    ∃ w₁ w₂, Steps op paths w w₁ ∧ Removal path w₁ w₂ ∧ World.Later w₂ [] w'

/-- The last removal of a run clears its path. -/
theorem cleared_of_removal {path : String} {w₁ : World κ ρ} (hsteps : Steps op paths w w₁)
    (h : Removal path w₁ w') : Cleared op paths w path w' :=
  ⟨h.hasFile, w₁, w', hsteps, h, .refl w'⟩

/-- A path that is cleared stays cleared through the removal of another. -/
theorem Cleared.removal {path other : String} {w₁ : World κ ρ}
    (hcleared : Cleared op paths w path w₁) (h : Removal other w₁ w') :
    Cleared op paths w path w' := by
  obtain ⟨hfile, w₂, w₃, hsteps, hremoval, hlater⟩ := hcleared
  refine ⟨?_, w₂, w₃, hsteps, hremoval, hlater.trans h.aside.later⟩
  rw [Bool.eq_false_iff]
  intro hf
  rw [h.hasFile_of_hasFile hf] at hfile
  cases hfile

/-- A path that is cleared stays cleared through a report. -/
theorem Cleared.report {path : String} {w₁ : World κ ρ} (hcleared : Cleared op paths w path w₁)
    {event : Event} (he : event.phase? = none) :
    Cleared op paths w path { w₁ with journal := w₁.journal.push event } := by
  obtain ⟨hfile, w₂, w₃, hsteps, hremoval, hlater⟩ := hcleared
  exact ⟨hfile, w₂, w₃, hsteps, hremoval, hlater.trans (World.Aside.report w₁ he).later⟩

/-- A run that came to its last command clears both files, however that command ended. -/
theorem cleared_of_playTask {credentials : Credentials} {path inventory : String}
    {outcome : Except Failure Unit} {w₁ w₂ w₃ w₄ : World κ ρ}
    (hfirst : (op.runToCredentials task spec ns).runOn w = (.ok (credentials, path), w₁))
    (hsecond : (op.stepsToInventory task spec ns credentials path).runOn w₁ = (.ok inventory, w₂))
    (hthird : (op.playTask path inventory).runOn w₂ = (outcome, w₃))
    (hremoval : Removal inventory w₃ w₄) (hremoval' : Removal path w₄ w') :
    Steps op (op.MakesFileAt task spec ns w) w w' ∧
      ∀ other, op.MakesFileAt task spec ns w other →
        Cleared op (op.MakesFileAt task spec ns w) w other w' := by
  have hmade := makesFileAt_of_ok hfirst hsecond
  have hpath := (hmade path).mpr (.inl rfl)
  have hinventory := (hmade inventory).mpr (.inr rfl)
  have hsteps₁ : Steps op (op.MakesFileAt task spec ns w) w w₁ :=
    runToCredentials_steps hfirst fun _ _ h => by
      cases h
      exact hpath
  have hsteps₂ := hsteps₁.trans (stepsToInventory_steps hsecond fun _ h => by
    cases h
    exact hinventory)
  have hsteps₃ := hsteps₂.trans (playTask_steps hthird)
  have hsteps₄ := hsteps₃.trans (steps_of_removal hremoval hinventory)
  refine ⟨hsteps₄.trans (steps_of_removal hremoval' hpath), fun other hother => ?_⟩
  -- The credentials file goes last, and its removal brings no other file back.
  obtain rfl | rfl := (hmade other).mp hother
  · exact cleared_of_removal hsteps₄ hremoval'
  · exact (cleared_of_removal hsteps₃ hremoval).removal hremoval'

/-- Every file that a run makes is cleared at its end, and it takes no steps but its own. -/
theorem Run.cleared {outcome : Except Failure Unit} (h : Run op task spec ns w outcome w') :
    Steps op (op.MakesFileAt task spec ns w) w w' ∧
      ∀ path, op.MakesFileAt task spec ns w path →
        Cleared op (op.MakesFileAt task spec ns w) w path w' := by
  -- One case for each place where a run can stop, with the files that it has made by then.
  cases h with
  | unready hfirst =>
    have hnone := not_makesFileAt_of_error hfirst
    refine ⟨runToCredentials_steps hfirst ?_, fun path hpath => absurd hpath (hnone path)⟩
    intro _ _ h
    cases h
  | unlisted hfirst hsecond hremoval =>
    have hmade := makesFileAt_of_error hfirst hsecond
    have hsteps := (runToCredentials_steps hfirst fun _ other h => by
      cases h
      exact (hmade _).mpr rfl).trans (stepsToInventory_steps hsecond fun _ h => by cases h)
    refine ⟨hsteps.trans (steps_of_removal hremoval ((hmade _).mpr rfl)), fun path hpath => ?_⟩
    obtain rfl := (hmade path).mp hpath
    exact cleared_of_removal hsteps hremoval
  | failed hfirst hsecond hthird hremoval hremoval' =>
    exact cleared_of_playTask hfirst hsecond hthird hremoval hremoval'
  | finished hfirst hsecond hthird hremoval hremoval' =>
    obtain ⟨hsteps, hcleared⟩ := cleared_of_playTask hfirst hsecond hthird hremoval hremoval'
    exact ⟨hsteps.trans (steps_report _ _ rfl), fun path hpath => (hcleared path hpath).report rfl⟩

/-- However a run of the playbook ends, its outcome is that of its first failing step, no file is
left at the paths at which it made files, and no other file was touched by anything but the source
of credentials and the commands. -/
theorem runPlaybook_leaves_no_file (op : Operator κ ρ) (task : PlaybookAction) (spec : WebUI.Spec)
    (ns : String) (w : World κ ρ) :
    ((op.runPlaybook task spec ns).runOn w).1 = ((op.runKeepingFiles task spec ns).runOn w).1 ∧
      Steps op (op.MakesFileAt task spec ns w) w ((op.runPlaybook task spec ns).runOn w).2 ∧
      ∀ path, op.MakesFileAt task spec ns w path →
        Cleared op (op.MakesFileAt task spec ns w) w path
          ((op.runPlaybook task spec ns).runOn w).2 := by
  have hrun : Run op task spec ns w _ _ := runPlaybook_run rfl
  exact ⟨hrun.outcome_eq, hrun.cleared⟩

end ConsoleKeeper.Operator
