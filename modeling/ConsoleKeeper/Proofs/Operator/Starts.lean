import ConsoleKeeper.Proofs.Operator.Alongside

/-!
# `ConsoleKeeper.Proofs.Operator.Starts`: which commands are started

`noting` makes an operator keep a list of the commands that it starts. The list stands beside the
state of its runner, where no part of the operator can see it, and each command enters it together
with the world in which it starts, just before it runs.

`pass_noting` and `runPlaybook_noting` show that the operator does the same with the list as without
it. So `passStarts` and `playbookStarts` speak of the operator itself. `passes_inStep` adds to the
agreement of two passes that they start the same commands in the same order.
-/

set_option autoImplicit false

namespace ConsoleKeeper

/-- A command that was started, with the world in which it was. -/
structure Start (κ ρ : Type) where
  command : Command
  world : World κ ρ

/-! ### Something beside the runner -/

namespace World

variable {κ ρ σ : Type}

/-- The world with something beside its runner. -/
def beside (w : World κ ρ) (side : σ) : World κ (ρ × σ) :=
  ⟨w.cluster, (w.runner, side), w.files, w.random, w.journal⟩

/-- The world without what stands beside its runner. -/
def plain (n : World κ (ρ × σ)) : World κ ρ :=
  ⟨n.cluster, n.runner.1, n.files, n.random, n.journal⟩

/-- A world with something put beside its runner and taken away again. -/
@[simp] theorem plain_beside (w : World κ ρ) (side : σ) : (w.beside side).plain = w := rfl

/-- What was put beside the runner stands there. -/
@[simp] theorem beside_side (w : World κ ρ) (side : σ) : (w.beside side).runner.2 = side := rfl

/-- The second world is the first with the given thing beside its runner. -/
def Beside (side : σ) (w : World κ ρ) (n : World κ (ρ × σ)) : Prop :=
  n = w.beside side

/-- The second world is the first with anything beside its runner. -/
def Plain (w : World κ ρ) (n : World κ (ρ × σ)) : Prop :=
  n.plain = w

end World

namespace Act

variable {κ ρ κ' ρ' σ σ' α α' : Type}

/-- The action where something stands beside the runner, which stays as it is. -/
def beside (action : Act κ ρ α) : Act κ (ρ × σ) α :=
  of fun n => ((action.runOn n.plain).1, (action.runOn n.plain).2.beside n.runner.2)

/-- An action that agrees with another whatever stands beside the runner is that action. -/
theorem eq_beside {m : Act κ ρ α} {m' : Act κ (ρ × σ) α}
    (h : ∀ side, Agrees (World.Beside side) Eq m m') : m' = m.beside := by
  funext n
  have hn : World.Beside n.runner.2 n.plain n := rfl
  obtain ⟨hend, hafter⟩ := h n.runner.2 hn
  exact Prod.ext hend.eq hafter

/-- An action does the same with something beside the runner, which stays as it is. -/
theorem beside_agrees (side : σ) (m : Act κ ρ α) : Agrees (World.Beside side) Eq m m.beside := by
  rintro w _ rfl
  exact ⟨.refl _, rfl⟩

/-- A handler does not see what stands beside the runner. -/
theorem catching_beside {ε : Type} (pick : Failure → Option ε) (m : Act κ ρ α) :
    catching pick (m.beside : Act κ (ρ × σ) α) = (catching pick m).beside := by
  funext n
  -- What is noted beside a run has no part in it, so both run the same way.
  rcases hrun : m.runOn n.plain with ⟨failure | a, w'⟩
  · have hbeside : (m.beside : Act κ (ρ × σ) α).runOn n =
        (.error failure, w'.beside n.runner.2) := by
      rw [beside, runOn_of, hrun]
    cases hpick : pick failure with
    | some e =>
      refine (runOn_catching_some hbeside hpick).trans ?_
      rw [beside, of, ExceptT.mk, runOn_catching_some hrun hpick]
    | none =>
      refine (runOn_catching_none hbeside hpick).trans ?_
      rw [beside, of, ExceptT.mk, runOn_catching_none hrun hpick]
  · have hbeside : (m.beside : Act κ (ρ × σ) α).runOn n = (.ok a, w'.beside n.runner.2) := by
      rw [beside, runOn_of, hrun]
    refine (runOn_catching_ok hbeside).trans ?_
    rw [beside, of, ExceptT.mk, runOn_catching_ok hrun]

/-- An action does the same with anything beside the runner. -/
theorem plain_agrees (m : Act κ ρ α) :
    Agrees World.Plain Eq m (m.beside : Act κ (ρ × σ) α) := by
  rintro _ n rfl
  exact ⟨.refl _, rfl⟩

/-- Worlds with a given thing beside the runner share files and random bytes. -/
theorem shared_beside (side : σ) : Shared (World.Beside side : World κ ρ → _ → Prop) where
  files := by rintro w _ rfl; rfl
  random := by rintro w _ rfl; rfl
  withFiles := by rintro w _ rfl files; rfl
  withRandom := by rintro w _ rfl random; rfl
  report := by rintro w _ rfl event; rfl

/-- Worlds with anything beside the runner share files and random bytes. -/
theorem shared_plain : Shared (World.Plain : World κ ρ → World κ (ρ × σ) → Prop) where
  files := by rintro _ n rfl; rfl
  random := by rintro _ n rfl; rfl
  withFiles := by rintro _ n rfl files; rfl
  withRandom := by rintro _ n rfl random; rfl
  report := by rintro _ n rfl event; rfl

end Act

/-- The calls of a cluster where something stands beside the runner. -/
def Cluster.beside {κ ρ σ : Type} (cluster : Cluster κ ρ) : Cluster κ (ρ × σ) where
  getWebUI id := (cluster.getWebUI id).beside
  updateWebUI resource := (cluster.updateWebUI resource).beside
  getDeployment ns name := (cluster.getDeployment ns name).beside
  updateOwners deployment := (cluster.updateOwners deployment).beside

namespace Operator

open Act (Agrees Shared)
open World (Beside Plain)

variable {κ ρ κ' ρ' : Type}

/-! ### Keeping a list -/

/-- Adds a command to the list beside the runner. -/
def note (command : Command) : Act κ (ρ × List (Start κ ρ)) Unit :=
  Act.change fun n => n.plain.beside (n.runner.2 ++ [⟨command, n.plain⟩])

/-- The operator with a list of the commands that it starts. -/
def noting (op : Operator κ ρ) : Operator κ (ρ × List (Start κ ρ)) where
  settings := op.settings
  cluster := op.cluster.beside
  runner command := do
    note command
    (op.runner command).beside
  credentials := op.credentials.beside

/-- The commands that a pass starts, in order. -/
def passStarts (op : Operator κ ρ) (id : ResourceId) (w : World κ ρ) : List (Start κ ρ) :=
  ((op.noting.pass id).runOn (w.beside [])).2.runner.2

/-- A command is noted with the world in which it starts. -/
theorem noting_runner_run (op : Operator κ ρ) (command : Command)
    (n : World κ (ρ × List (Start κ ρ))) :
    (op.noting.runner command).runOn n =
      (((op.runner command).runOn n.plain).1,
        ((op.runner command).runOn n.plain).2.beside (n.runner.2 ++ [⟨command, n.plain⟩])) := rfl

/-- A status is reported past the list. -/
theorem noting_setStatus (op : Operator κ ρ) (id : ResourceId) (phase : Phase) (message : String) :
    op.noting.setStatus id phase message = (op.setStatus id phase message).beside :=
  Act.eq_beside fun side =>
    setStatus_agrees (Act.shared_beside side) (Act.beside_agrees side _)
      (fun _ => Act.beside_agrees side _) phase message

/-! ### The list changes nothing -/

/-- An operator works alongside itself with a list. -/
theorem alongside_noting (op : Operator κ ρ) :
    Alongside Plain (fun _ => True) (fun _ => True) op op.noting where
  shared := Act.shared_plain
  settings := rfl
  getWebUI id _ := (Act.plain_agrees _).mono fun _ _ h => h ▸ ⟨trivial, rfl, rfl, rfl, rfl, rfl⟩
  getDeployment id _ := (Act.plain_agrees _).mono fun _ _ h => ⟨h.symm, trivial⟩
  updateOwners deployment _ := Act.plain_agrees _
  setStatus id _ phase message := by
    rw [noting_setStatus]
    exact Act.plain_agrees _
  runner command := by
    rintro _ n rfl
    exact ⟨.refl _, rfl⟩
  credentials := Act.plain_agrees _

/-- A pass with a list ends as it does without one, and in the same world but for the list. -/
theorem pass_noting (op : Operator κ ρ) (id : ResourceId) (n : World κ (ρ × List (Start κ ρ))) :
    ((op.noting.pass id).runOn n).1 = ((op.pass id).runOn n.plain).1 ∧
      ((op.noting.pass id).runOn n).2.plain = ((op.pass id).runOn n.plain).2 := by
  have hagree : Agrees Plain Eq (op.pass id) (op.noting.pass id) :=
    op.alongside_noting.pass_agrees trivial
  obtain ⟨hend, hafter⟩ := hagree (rfl : Plain n.plain n)
  exact ⟨hend.eq, hafter⟩

/-- The worlds are related apart from their lists, and the lists have the same commands. -/
structure SameCommands (R : World κ ρ → World κ' ρ' → Prop) (n : World κ (ρ × List (Start κ ρ)))
    (n' : World κ' (ρ' × List (Start κ' ρ'))) : Prop where
  plain : R n.plain n'.plain
  commands : n'.runner.2.map Start.command = n.runner.2.map Start.command

section Commands

variable {R : World κ ρ → World κ' ρ' → Prop} {ids : ResourceId → Prop}
  {keys : DeploymentKey → Prop} {op : Operator κ ρ} {op' : Operator κ' ρ'}

/-- Where the same commands were started, files and random bytes are still shared. -/
theorem shared_sameCommands (hR : Shared R) : Shared (SameCommands R) where
  files _ _ h := hR.files h.plain
  random _ _ h := hR.random h.plain
  withFiles _ _ h files := ⟨hR.withFiles h.plain files, h.commands⟩
  withRandom _ _ h random := ⟨hR.withRandom h.plain random, h.commands⟩
  report _ _ h event := ⟨hR.report h.plain event, h.commands⟩

/-- Actions that agree do so beside the lists of commands, which neither of them touches. -/
theorem sameCommands_agrees {α α' : Type} {V : α → α' → Prop} {m : Act κ ρ α}
    {m' : Act κ' ρ' α'} (h : Agrees R V m m') : Agrees (SameCommands R) V m.beside m'.beside :=
  fun _ _ hn => ⟨(h hn.plain).1, (h hn.plain).2, hn.commands⟩

/-- Actions with handlers that agree do so beside the lists of commands. -/
theorem catching_sameCommands_agrees {ε ε' α α' : Type} {V : Except ε α → Except ε' α' → Prop}
    {pick : Failure → Option ε} {pick' : Failure → Option ε'} {m : Act κ ρ α} {m' : Act κ' ρ' α'}
    (h : Agrees R V (Act.catching pick m) (Act.catching pick' m')) :
    Agrees (SameCommands R) V (Act.catching pick m.beside) (Act.catching pick' m'.beside) := by
  rw [Act.catching_beside, Act.catching_beside]
  exact sameCommands_agrees h

/-- Operators that keep in step do so with lists of the same commands. -/
theorem InStep.noting (h : InStep R ids keys op op') :
    InStep (SameCommands R) ids keys op.noting op'.noting where
  shared := shared_sameCommands h.shared
  settings := h.settings
  getWebUI id hid := catching_sameCommands_agrees (h.getWebUI id hid)
  getDeployment id hid := catching_sameCommands_agrees (h.getDeployment id hid)
  updateOwners deployment hkey := catching_sameCommands_agrees (h.updateOwners deployment hkey)
  setStatus id hid phase message := by
    rw [noting_setStatus, noting_setStatus]
    exact sameCommands_agrees (h.setStatus id hid phase message)
  runner command := by
    intro n n' hn
    obtain ⟨hend, hafter⟩ := h.runner command hn.plain
    rw [noting_runner_run, noting_runner_run]
    -- The worlds in the two lists differ, the commands do not.
    refine ⟨hend, hafter, ?_⟩
    simp [hn.commands]
  credentials := sameCommands_agrees h.credentials

/-- Operators that keep in step make passes with the same outcome, which start the same commands in
the same order and end in related worlds. -/
theorem passes_inStep (h : InStep R ids keys op op') {id : ResourceId} (hid : ids id)
    {w : World κ ρ} {w' : World κ' ρ'} (hw : R w w') :
    ((op'.pass id).runOn w').1 = ((op.pass id).runOn w).1 ∧
      (op'.passStarts id w').map Start.command = (op.passStarts id w).map Start.command ∧
      R ((op.pass id).runOn w).2 ((op'.pass id).runOn w').2 := by
  have hstart : SameCommands R (w.beside []) (w'.beside []) := ⟨hw, rfl⟩
  obtain ⟨hend, hafter, hcommands⟩ := h.noting.pass_agrees hid hstart
  obtain ⟨ho, hp⟩ := op.pass_noting id (w.beside [])
  obtain ⟨ho', hp'⟩ := op'.pass_noting id (w'.beside [])
  rw [hp, hp'] at hafter
  refine ⟨?_, hcommands, hafter⟩
  simpa [ho, ho'] using hend.eq

/-- The same of operators that work alongside. -/
theorem passes_alongside (h : Alongside R ids keys op op') {id : ResourceId} (hid : ids id)
    {w : World κ ρ} {w' : World κ' ρ'} (hw : R w w') :
    ((op'.pass id).runOn w').1 = ((op.pass id).runOn w).1 ∧
      (op'.passStarts id w').map Start.command = (op.passStarts id w).map Start.command ∧
      R ((op.pass id).runOn w).2 ((op'.pass id).runOn w').2 :=
  passes_inStep h.inStep hid hw

end Commands

end Operator

end ConsoleKeeper
