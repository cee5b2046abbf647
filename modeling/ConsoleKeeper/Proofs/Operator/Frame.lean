import ConsoleKeeper.Proofs.Cluster.Edit
import ConsoleKeeper.Proofs.Command.Recorder
import ConsoleKeeper.Proofs.Operator.Reporting
import ConsoleKeeper.Proofs.Operator.Starts

/-!
# `ConsoleKeeper.Proofs.Operator.Frame`: what a pass changes of a store

A pass writes two things of its own: the status of its resource and the owners of its deployment.
Everything else in the store is what others make of it while commands run. `Edits` says what that
is: a list of changes for each command, which may depend on the world in which the command starts.

`pass_framed` says that after a pass the store has the entries that it had before, with these
changes made in order, but for that status and those owners. It holds however the pass ends and
whichever calls fail. So a spec that is changed during a pass stays changed, and a resource that is
taken away stays away.

The invariant is about the list of started commands and the store at one time (`Preserved`). Each
part of the operator keeps it, and a walk of the operator alongside itself does the rest.
-/

set_option autoImplicit false

namespace ConsoleKeeper.Operator

open Act (Agrees Shared)
open Store (SameEntries Framed)
open World (OnlyCluster)

variable {ρ : Type} {id : ResourceId} {key : DeploymentKey} {store : Store}

/-- What others change while a command runs, by the world in which it starts. -/
abbrev Edits (ρ : Type) := Command → World Store ρ → List Edit

/-- What others changed while commands ran, in order. -/
def Edits.during (edits : Edits ρ) (starts : List (Start Store ρ)) : List Edit :=
  starts.flatMap fun s => edits s.command s.world

/-- The runner leaves the store with the changes of others made, and changes nothing else. -/
def Edits.Describe (edits : Edits ρ) (runner : Runner Store ρ) : Prop :=
  ∀ command w,
    SameEntries (w.cluster.edited (edits command w)) ((runner command).runOn w).2.cluster

/-! ### A status and owners -/

/-- A report of a status keeps the frame. -/
theorem Reported.framed {expected actual after : Store} {phase : Phase} {message : String}
    (h : Reported actual id phase message after) (hkeyed : actual.Keyed)
    (hframed : Framed id key expected actual) : after.Keyed ∧ Framed id key expected after := by
  cases h with
  | unread => exact ⟨hkeyed.answered _, hframed.sameEntries (Store.sameEntries_answered _ _)⟩
  | unwritten hfound =>
    exact ⟨(hkeyed.answered _).answered _, hframed.sameEntries ⟨fun _ => rfl, fun _ _ => rfl⟩⟩
  | @written resource hfound =>
    -- The resource was found under the id, so that is where its copy with the status goes.
    have hid : (reported resource phase message).id = id := hkeyed.webuis id resource hfound
    have hasked : Framed id key expected ((actual.answered ⟨.getWebUI, id.ns, id.name⟩).answered
        ⟨.updateWebUI, resource.id.ns, resource.id.name⟩) :=
      hframed.sameEntries ⟨fun _ => rfl, fun _ _ => rfl⟩
    exact ⟨((hkeyed.answered _).answered _).putWebUI _, hasked.putWebUI hid hfound rfl⟩

/-! ### The invariant of a pass -/

/-- The entries of the store are those of the first store with the changes of others so far, but for
the status and the owners that the pass writes. -/
structure Preserved (edits : Edits ρ) (id : ResourceId) (key : DeploymentKey) (store : Store)
    (starts : List (Start Store ρ)) (now : Store) : Prop where
  keyed : now.Keyed
  framed : Framed id key (store.edited (edits.during starts)) now

variable {edits : Edits ρ}

/-- The worlds of a pass that keeps a list, alongside itself. -/
def Alike (edits : Edits ρ) (id : ResourceId) (key : DeploymentKey) (store : Store)
    (n n' : World Store (ρ × List (Start Store ρ))) : Prop :=
  n' = n ∧ Preserved edits id key store n.runner.2 n.cluster

/-- Worlds that are alike share files and random bytes. -/
theorem shared_alike : Shared (Alike edits id key store) where
  files := by rintro n _ ⟨rfl, -⟩; rfl
  random := by rintro n _ ⟨rfl, -⟩; rfl
  withFiles := by rintro n _ ⟨rfl, h⟩ files; exact ⟨rfl, h⟩
  withRandom := by rintro n _ ⟨rfl, h⟩ random; exact ⟨rfl, h⟩
  report := by rintro n _ ⟨rfl, h⟩ event; exact ⟨rfl, h⟩

/-- An action that starts no command keeps the invariant if it does so for the store. -/
theorem beside_alike {α : Type} {V : α → α → Prop} {m : Act Store ρ α}
    (h : ∀ w starts, Preserved edits id key store starts w.cluster →
      (∀ a, (m.runOn w).1 = .ok a → V a a) ∧
        Preserved edits id key store starts (m.runOn w).2.cluster) :
    Agrees (Alike edits id key store) V m.beside m.beside :=
  .of_keeps fun n hn => h n.plain n.runner.2 hn

/-- A call that is answered and does nothing else. -/
theorem Preserved.answered {starts : List (Start Store ρ)} {now : Store}
    (h : Preserved edits id key store starts now) (call : CallNote) :
    Preserved edits id key store starts (now.answered call) :=
  ⟨h.keyed.answered call, h.framed.sameEntries (Store.sameEntries_answered now call)⟩

section Parts

variable {op : Operator Store ρ} (hop : op.cluster = Store.cluster)
include hop

/-- Both read the resource of the pass, with the same wish. -/
theorem getWebUI_alike :
    Agrees (Alike edits id key store) (SameWish (· = id)) (op.noting.cluster.getWebUI id)
      (op.noting.cluster.getWebUI id) := by
  refine beside_alike fun w starts hw => ?_
  rw [hop, Store.cluster_getWebUI]
  obtain ⟨outcome, w', hrun, honly, hfound⟩ := Store.getWebUI_effect id w
  rw [hrun, honly.cluster]
  refine ⟨fun resource hresource => ?_, hw.answered _⟩
  exact ⟨hw.keyed.webuis id resource (hfound resource hresource), rfl, rfl, rfl, rfl, rfl⟩

/-- Both read the same deployment, under the key that was asked for. -/
theorem getDeployment_alike (ns name : String) :
    Agrees (Alike edits id key store)
      (fun deployment deployment' => deployment' = deployment ∧ deployment.key = (ns, name))
      (op.noting.cluster.getDeployment ns name) (op.noting.cluster.getDeployment ns name) := by
  refine beside_alike fun w starts hw => ?_
  rw [hop, Store.cluster_getDeployment]
  obtain ⟨outcome, w', hrun, honly, hfound⟩ := Store.getDeployment_effect ns name w
  rw [hrun, honly.cluster]
  refine ⟨fun deployment hdeployment => ?_, hw.answered _⟩
  exact ⟨rfl, hw.keyed.deployments ns name deployment (hfound deployment hdeployment)⟩

/-- The owners of the framed deployment are updated on both sides. -/
theorem updateOwners_alike {deployment : Deployment} (hkey : deployment.key = key) :
    Agrees (Alike edits id key store) Eq (op.noting.cluster.updateOwners deployment)
      (op.noting.cluster.updateOwners deployment) := by
  subst hkey
  refine beside_alike fun w starts hw => ?_
  rw [hop, Store.cluster_updateOwners]
  refine ⟨fun _ _ => rfl, ?_⟩
  -- The call fails and changes no entry, or it puts one back.
  obtain ⟨outcome, w', hrun, ⟨honly, -⟩ | ⟨current, hcurrent, honly, -⟩⟩ :=
    Store.updateOwners_effect deployment w
  · rw [hrun, honly.cluster]
    exact hw.answered _
  · -- What is put back is the deployment that stood under the key, with other owners.
    rw [hrun, honly.cluster]
    have hasked := hw.answered ⟨.updateOwners, deployment.ns, deployment.name⟩
    have hkey := hw.keyed.deployments _ _ current hcurrent
    exact ⟨hasked.keyed.reowned hkey _, hasked.framed.reowned hcurrent _⟩

/-- The status of the framed resource is reported on both sides. -/
theorem setStatus_alike (phase : Phase) (message : String) :
    Agrees (Alike edits id key store) Eq (op.noting.setStatus id phase message)
      (op.noting.setStatus id phase message) := by
  rw [noting_setStatus]
  refine beside_alike fun w starts hw => ⟨fun _ _ => rfl, ?_⟩
  obtain ⟨after, hreported, honly⟩ := setStatus_effect hop id phase message w
  rw [honly.cluster]
  obtain ⟨hkeyed, hframed⟩ := hreported.framed hw.keyed hw.framed
  exact ⟨hkeyed, hframed⟩

end Parts

/-- A command enters the list, and the changes of others are made. -/
theorem runner_alike {op : Operator Store ρ} (hrunner : edits.Describe op.runner)
    (command : Command) :
    Agrees (Alike edits id key store) Eq (op.noting.runner command)
      (op.noting.runner command) := by
  refine .of_keeps fun n hn => ⟨fun _ _ => rfl, ?_⟩
  rw [noting_runner_run]
  -- The command makes the changes to the store, and its entry in the list makes them to the
  -- expected store as well.
  have hsame := hrunner command n.plain
  refine ⟨(hn.keyed.edited _).sameEntries hsame, ?_⟩
  have hduring : edits.during (n.runner.2 ++ [⟨command, n.plain⟩]) =
      edits.during n.runner.2 ++ edits command n.plain := by
    simp [Edits.during]
  rw [World.beside_side, hduring, Store.edited_append]
  exact (hn.framed.edited _).sameEntries hsame

/-- An operator over a store keeps the invariant with all its parts. -/
theorem alongside_alike (op : Operator Store ρ) (hop : op.cluster = Store.cluster)
    (hrunner : edits.Describe op.runner)
    (hcredentials : ∀ w, SameEntries w.cluster (op.credentials.runOn w).2.cluster) :
    Alongside (Alike edits id (id.ns, op.settings.cluster.deploymentName) store) (· = id)
      (· = (id.ns, op.settings.cluster.deploymentName)) op.noting op.noting where
  shared := shared_alike
  settings := rfl
  getWebUI := by
    rintro _ rfl
    exact getWebUI_alike hop
  getDeployment := by
    rintro _ rfl
    exact getDeployment_alike hop _ _
  updateOwners deployment hkey := updateOwners_alike hop hkey
  setStatus := by
    rintro _ rfl phase message
    exact setStatus_alike hop phase message
  runner command := runner_alike hrunner command
  credentials := beside_alike fun w starts hw => by
    refine ⟨fun _ _ => rfl, hw.keyed.sameEntries (hcredentials w), ?_⟩
    exact hw.framed.sameEntries (hcredentials w)

/-- After a pass over a store in memory, the store has the entries that it had before, with the
changes that others made while commands ran, made in order. Only the status of the resource and the
owners of its deployment may be others. This holds however the pass ends and whichever calls fail.
-/
theorem pass_framed {ρ : Type} (settings : Settings) (runner : Runner Store ρ)
    (credentials : Act Store ρ Credentials) (edits : Edits ρ) (id : ResourceId)
    (w : World Store ρ) (hrunner : edits.Describe runner)
    (hcredentials : ∀ w, SameEntries w.cluster (credentials.runOn w).2.cluster)
    (hkeyed : w.cluster.Keyed) :
    let op : Operator Store ρ := { settings, cluster := Store.cluster, runner, credentials }
    Framed id (id.ns, settings.cluster.deploymentName)
      (w.cluster.edited (edits.during (op.passStarts id w)))
      ((op.pass id).runOn w).2.cluster := by
  intro op
  have halong : Alongside (Alike edits id (id.ns, settings.cluster.deploymentName) w.cluster)
      (· = id) (· = (id.ns, settings.cluster.deploymentName)) op.noting op.noting :=
    alongside_alike op rfl hrunner hcredentials
  have hstart : Alike edits id (id.ns, settings.cluster.deploymentName) w.cluster (w.beside [])
      (w.beside []) := ⟨rfl, hkeyed, .refl _ _ _⟩
  obtain ⟨-, -, hpreserved⟩ := halong.pass_agrees rfl hstart
  -- The invariant is about the pass that keeps a list, which leaves the same store.
  obtain ⟨-, hplain⟩ := op.pass_noting id (w.beside [])
  rw [World.plain_beside] at hplain
  rw [← hplain]
  exact hpreserved.framed

/-! ### A recorder whose hook makes the changes -/

/-- What a hook changes, as the changes of a recorder that calls it: none for a command that the
recorder does not come to the end of. -/
def Edits.recorded {η : Type} (edits : Edits (Recorder η)) : Edits (Recorder η) :=
  fun command w =>
    match Recorder.filesNamed w.files command.arguments with
    | .error _ => []
    | .ok files =>
      match Recorder.failure? w.runner.rules command with
      | some _ => []
      | none => edits command (Recorder.noted w command files)

/-- The changes of a hook are the changes of a recorder that calls it. -/
theorem Edits.describe_recorder {η : Type} {edits : Edits (Recorder η)}
    {hook : Command → Act Store (Recorder η) Unit}
    (hhook : ∀ command w,
      SameEntries (w.cluster.edited (edits command w)) ((hook command).runOn w).2.cluster) :
    edits.recorded.Describe (Recorder.run hook) := by
  intro command w
  unfold Edits.recorded
  -- The hook runs only if the files could be read and no rule lets the command fail.
  cases hfiles : Recorder.filesNamed w.files command.arguments with
  | error failure =>
    rw [Recorder.run_unread hfiles]
    exact .refl _
  | ok files =>
    rw [Recorder.run_eq hfiles]
    cases Recorder.failure? w.runner.rules command with
    | some e => exact .refl _
    | none =>
      have hsame := hhook command (Recorder.noted w command files)
      dsimp only
      rcases hrun : (hook command).runOn (Recorder.noted w command files) with ⟨_ | _, w'⟩
      · rw [hrun] at hsame
        rw [Act.runOn_bind_error _ hrun]
        exact hsame
      · rw [hrun] at hsame
        rw [Act.runOn_bind_ok _ hrun]
        exact hsame

/-- A hook that makes the given changes for every command. -/
def making {η : Type} (edits : List Edit) (_ : Command) : Act Store (Recorder η) Unit :=
  Act.changeCluster fun store => store.edited edits

/-- A pass over the troubled store, while others ask for another version and put the deployment. -/
theorem pass_framed_troubledStore :
    let edits : List Edit :=
      [.putWebUI { id := ⟨"ns", "ui"⟩, uid := "u1", spec := { version := "v1.5" } },
        .putDeployment { name := "console", ns := "ns", uid := "d1" }]
    let op : Operator Store (Recorder Unit) :=
      { settings := {}, cluster := Store.cluster, runner := Recorder.run (making edits),
        credentials := pure default }
    let w := furnished troubledStore
    Framed ⟨"ns", "ui"⟩ ("ns", "console")
      (w.cluster.edited (Edits.during (Edits.recorded fun _ _ => edits)
        (op.passStarts ⟨"ns", "ui"⟩ w)))
      ((op.pass ⟨"ns", "ui"⟩).runOn w).2.cluster := by
  intro edits op w
  have hmade : (Edits.recorded fun _ _ => edits).Describe op.runner :=
    Edits.describe_recorder fun _ _ => .refl _
  exact pass_framed {} (Recorder.run (making edits)) (pure default) _ ⟨"ns", "ui"⟩ w hmade
    (fun _ => .refl _) keyed_troubledStore

end ConsoleKeeper.Operator
