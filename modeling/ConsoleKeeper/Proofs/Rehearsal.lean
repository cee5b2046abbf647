import ConsoleKeeper.Proofs.Cluster.Seeding
import ConsoleKeeper.Rehearsal

/-!
# `ConsoleKeeper.Proofs.Rehearsal`: what happens behind the operator's back

When a command comes in a rehearsal, the playbook's part may be played and cues may be due. Whatever
they do to the store is no call, and its entries stay under their own names (`safe_hook`). So the
calls that a store notes in a rehearsal are those of the operator.
-/

set_option autoImplicit false

namespace ConsoleKeeper.Rehearsal

open Seeding (Safe safe_of_perform?)

variable {calls : List CallNote} {step : Fields}

/-- A step that only prepares something is no call. -/
theorem safe_of_prepare? {scene : Scene Unit} (h : prepare? step = some scene) :
    Safe calls scene := by
  unfold prepare? at h
  split at h
  · cases h
    exact Safe.after_lift fun _ => .changeRunner
  · cases h
    exact Safe.after_lift fun _ => .changeRunner
  · cases h
    exact .changeRunner
  · exact safe_of_perform? h

/-- No other step may follow a command, so what follows one is no call. -/
theorem safe_prepare : Safe calls (prepare step) := by
  unfold prepare
  split
  · next scene h => exact safe_of_prepare? h
  · exact .fail trivial

/-- What an inventory asks for is put into the store or taken from it. -/
theorem safe_applyInventory (values : List (String × String)) :
    Safe calls (applyInventory values) := by
  refine Safe.after_lift fun action => ?_
  split
  · refine Safe.after_lift fun image => Safe.after_lift fun ns => .changeCluster fun store h => ?_
    have hissued : store.issueUid.2.Keyed := ⟨h.1.webuis, h.1.deployments⟩
    exact ⟨hissued.putDeployment _, h.2⟩
  · exact Safe.after_lift fun ns => .changeCluster fun _ h => ⟨h.1.removeDeployment ns _, h.2⟩

/-- The playbook that is played keeps a store keyed, whatever the inventory says. -/
theorem safe_simulatePlaybook (command : Command) : Safe calls (simulatePlaybook command) := by
  unfold simulatePlaybook
  split
  · exact .fail trivial
  · exact Act.Sound.look.bind fun _ => Safe.after_lift fun _ => safe_applyInventory _

/-- The cues of a command keep a store keyed, whatever they are. -/
theorem safe_playCue (command : Command) (number : Nat) : Safe calls (playCue command number) := by
  refine Act.Sound.runner.bind fun recorder => ?_
  split
  · exact .pure ()
  · split
    · exact Act.Sound.changeRunner.bind fun _ => Act.Sound.forM fun _ _ => safe_prepare
    · exact .pure ()

/-- Whatever happens when a command comes is no call, and keeps the entries of the store under their
own names. -/
theorem safe_hook (command : Command) : Safe calls (hook command) := by
  refine Act.Sound.runner.bind fun recorder => ?_
  have hcues : Safe calls ((List.range recorder.memory.cues.length).forM (playCue command)) :=
    Act.Sound.forM fun number _ => safe_playCue command number
  split
  · exact (safe_simulatePlaybook command).bind fun _ => hcues
  · exact hcues

end ConsoleKeeper.Rehearsal
