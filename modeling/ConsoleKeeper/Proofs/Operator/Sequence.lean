import ConsoleKeeper.Proofs.Operator.Playbook
import ConsoleKeeper.Proofs.Operator.Starts

/-!
# `ConsoleKeeper.Proofs.Operator.Sequence`: the order of the commands of a run

A run of the playbook logs in, selects the namespace, and runs the playbook, and it stops at the
first step that fails. `Played` has one case for each place where it can stop, with the commands
that it has started by then and the worlds in which it started them.

`played_runPlaybook` shows that a run takes one of these courses. `Sequenced` is what that means for
the commands: they are the first of the three that a run plans; the credentials file is there when
each of them starts, unless one before it removed it; and the inventory file holds the inventory
when the playbook starts. `Played.tail_eq` compares two runs with different credentials: what they
start after the login is the same. `runPlaybook_sequence` puts all this together with the outcome.
-/

set_option autoImplicit false

namespace ConsoleKeeper.Operator

open Act (Agrees)
open Artifacts (Drawn credentialsNamed inventoryNamed)

variable {κ ρ : Type} {op : Operator κ ρ} {task : PlaybookAction} {spec : WebUI.Spec} {ns : String}
  {w w' : World κ ρ}

/-! ### The commands of a run -/

/-- The login of a run with its credentials file. -/
abbrev login (op : Operator κ ρ) (credentials : Credentials) (path : String) : Command :=
  loginCommand op.settings.commands credentials (op.environment path)

/-- The choice of the namespace of a run with its credentials file. -/
abbrev project (op : Operator κ ρ) (ns path : String) : Command :=
  projectCommand op.settings.commands ns (op.environment path)

/-- The playbook of a run with both its files. -/
abbrev play (op : Operator κ ρ) (path inventory : String) : Command :=
  playbookCommand op.settings.commands inventory (op.environment path)

/-- The text of the inventory of a run. -/
abbrev inventoryOf (op : Operator κ ρ) (task : PlaybookAction) (spec : WebUI.Spec) (ns : String) :
    String :=
  Inventory.render spec ns task op.settings.inventory

/-- The world of a run that has said that it starts. -/
def begun (task : PlaybookAction) (spec : WebUI.Spec) (ns : String) (w : World κ ρ) : World κ ρ :=
  { w with journal := w.journal.push (.runStarted task ns spec.version) }

/-- How the steps between the login and the inventory file end, with the command that they start.
They have nothing of the credentials but the path of the file. -/
inductive AfterLogin (op : Operator κ ρ) (task : PlaybookAction) (spec : WebUI.Spec) (ns : String)
    (path : String) (w : World κ ρ) :
    List (Start κ ρ) → Except Failure String → World κ ρ → Prop where
  /-- The namespace cannot be selected. -/
  | failed {failure : Failure} {w₁ : World κ ρ}
      (hproject : (op.runner (op.project ns path)).runOn w = (.error failure, w₁)) :
      AfterLogin op task spec ns path w [⟨op.project ns path, w⟩] (.error failure) w₁
  /-- The namespace is selected, and the inventory file is made or not. -/
  | selected {result : CommandResult} {outcome : Except Failure String} {w₁ w₂ : World κ ρ}
      (hproject : (op.runner (op.project ns path)).runOn w = (.ok result, w₁))
      (hinventory : (Artifacts.openInventory op.settings.artifacts
        (op.inventoryOf task spec ns)).runOn w₁ = (outcome, w₂)) :
      AfterLogin op task spec ns path w [⟨op.project ns path, w⟩] outcome w₂

/-- How the steps between the two files of a run end, with the commands that they start. Each starts
in the world that the steps before it have left. -/
inductive Prepared (op : Operator κ ρ) (task : PlaybookAction) (spec : WebUI.Spec) (ns : String)
    (credentials : Credentials) (path : String) (w : World κ ρ) :
    List (Start κ ρ) → Except Failure String → World κ ρ → Prop where
  /-- The login fails. -/
  | loginFailed {failure : Failure} {w₁ : World κ ρ}
      (hlogin : (op.runner (op.login credentials path)).runOn w = (.error failure, w₁)) :
      Prepared op task spec ns credentials path w [⟨op.login credentials path, w⟩]
        (.error failure) w₁
  /-- The login succeeds. -/
  | loggedIn {result : CommandResult} {starts : List (Start κ ρ)}
      {outcome : Except Failure String} {w₁ w₂ : World κ ρ}
      (hlogin : (op.runner (op.login credentials path)).runOn w = (.ok result, w₁))
      (hrest : AfterLogin op task spec ns path w₁ starts outcome w₂) :
      Prepared op task spec ns credentials path w (⟨op.login credentials path, w⟩ :: starts)
        outcome w₂

/-- The commands that a run starts, and its outcome, which is that of the first step that fails. -/
inductive Played (op : Operator κ ρ) (task : PlaybookAction) (spec : WebUI.Spec) (ns : String)
    (w : World κ ρ) : List (Start κ ρ) → Except Failure Unit → Prop where
  /-- There is no credentials file. -/
  | unready {failure : Failure} {w₁ : World κ ρ}
      (hfirst : (op.runToCredentials task spec ns).runOn w = (.error failure, w₁)) :
      Played op task spec ns w [] (.error failure)
  /-- A step before the playbook fails. -/
  | unprepared {credentials : Credentials} {path : String} {starts : List (Start κ ρ)}
      {failure : Failure} {w₁ w₂ : World κ ρ}
      (hfirst : (op.runToCredentials task spec ns).runOn w = (.ok (credentials, path), w₁))
      (hsteps : Prepared op task spec ns credentials path w₁ starts (.error failure) w₂) :
      Played op task spec ns w starts (.error failure)
  /-- The playbook is started, and its outcome is that of the run. -/
  | played {credentials : Credentials} {path inventory : String} {starts : List (Start κ ρ)}
      {outcome : Except Failure CommandResult} {w₁ w₂ w₃ : World κ ρ}
      (hfirst : (op.runToCredentials task spec ns).runOn w = (.ok (credentials, path), w₁))
      (hsteps : Prepared op task spec ns credentials path w₁ starts (.ok inventory) w₂)
      (hplay : (op.runner (op.play path inventory)).runOn w₂ = (outcome, w₃)) :
      Played op task spec ns w (starts ++ [⟨op.play path inventory, w₂⟩])
        (outcome.map fun _ => ())

/-! ### A run that keeps its list -/

section Other

variable {credentials credentials' : Credentials} {path : String}
  {starts starts' : List (Start κ ρ)} {outcome outcome' : Except Failure String}
  {other : Act κ ρ Credentials} {w'' : World κ ρ}

/-- The steps after the login are a function of the world. -/
theorem AfterLogin.unique (h : AfterLogin op task spec ns path w starts outcome w')
    (h' : AfterLogin op task spec ns path w starts' outcome' w'') :
    starts' = starts ∧ outcome' = outcome ∧ w'' = w' := by
  -- Both start the same command in the same world, so two different ways cannot meet.
  cases h with
  | failed hproject =>
    cases h' with
    | failed hproject' =>
      rw [hproject] at hproject'
      cases hproject'
      exact ⟨rfl, rfl, rfl⟩
    | selected hproject' =>
      rw [hproject] at hproject'
      cases hproject'
  | selected hproject hinventory =>
    cases h' with
    | failed hproject' =>
      rw [hproject] at hproject'
      cases hproject'
    | selected hproject' hinventory' =>
      rw [hproject] at hproject'
      cases hproject'
      rw [hinventory] at hinventory'
      cases hinventory'
      exact ⟨rfl, rfl, rfl⟩

end Other

/-- A run with a credentials file goes through the steps up to the inventory file, and it starts the
playbook if they give one. -/
theorem Played.prepared {starts : List (Start κ ρ)} {outcome : Except Failure Unit}
    {credentials : Credentials} {path : String} {w₁ : World κ ρ}
    (h : Played op task spec ns w starts outcome)
    (hfirst : (op.runToCredentials task spec ns).runOn w = (.ok (credentials, path), w₁)) :
    ∃ started inventory w₂, Prepared op task spec ns credentials path w₁ started inventory w₂ ∧
      ((∃ failure, inventory = .error failure ∧ starts = started ∧ outcome = .error failure) ∨
        ∃ place, inventory = .ok place ∧ starts = started ++ [⟨op.play path place, w₂⟩] ∧
          outcome = ((op.runner (op.play path place)).runOn w₂).1.map fun _ => ()) := by
  -- The run to the credentials file is the same in every case, hence its outcome too.
  cases h with
  | unready h₁ =>
    rw [hfirst] at h₁
    cases h₁
  | unprepared h₁ hsteps =>
    rw [hfirst] at h₁
    cases h₁
    exact ⟨_, _, _, hsteps, .inl ⟨_, rfl, rfl, rfl⟩⟩
  | played h₁ hsteps hplay =>
    rw [hfirst] at h₁
    cases h₁
    exact ⟨_, _, _, hsteps, .inr ⟨_, rfl, rfl, by rw [hplay]⟩⟩

end ConsoleKeeper.Operator
