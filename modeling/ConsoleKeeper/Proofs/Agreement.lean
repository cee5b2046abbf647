import ConsoleKeeper.Artifacts
import ConsoleKeeper.Proofs.Act

/-!
# `ConsoleKeeper.Proofs.Agreement`: two actions that run alongside

Two actions agree if, started in related worlds, they end in related worlds, and with related values
or with the same failure. The worlds may have clusters and runners of different types, so the
actions may belong to two operators. What the relation of the worlds says is left open.

The rules here follow the ways of making an action; `Agrees.bind` is the one for two actions in a
row. Actions that work on the files and the source of random bytes alone agree with themselves if
the worlds share these (`Shared`).

`Agrees.of_keeps` turns an invariant of one action into an agreement of the action with itself. So a
walk through an operator that is made once for two runs serves for one run as well.
-/

set_option autoImplicit false

namespace ConsoleKeeper

/-- Two outcomes are related values, or the same failure. -/
inductive SameEnd {ε α β : Type} (V : α → β → Prop) : Except ε α → Except ε β → Prop where
  | value {a : α} {b : β} (h : V a b) : SameEnd V (.ok a) (.ok b)
  | failure (e : ε) : SameEnd V (.error e) (.error e)

namespace SameEnd

variable {ε α β : Type} {V U : α → β → Prop} {x : Except ε α} {y : Except ε β}

/-- Less may be said of the values. -/
theorem mono (h : SameEnd V x y) (himp : ∀ a b, V a b → U a b) : SameEnd U x y := by
  cases h with
  | value hv => exact .value (himp _ _ hv)
  | failure e => exact .failure e

/-- An outcome is like itself if its value is. -/
theorem self {V : α → α → Prop} {x : Except ε α} (h : ∀ a, x = .ok a → V a a) : SameEnd V x x := by
  cases x with
  | ok a => exact .value (h a rfl)
  | error e => exact .failure e

/-- An outcome is like itself. -/
theorem refl (x : Except ε α) : SameEnd Eq x x :=
  self fun _ _ => rfl

/-- Outcomes with equal values are equal. -/
theorem eq {x y : Except ε α} (h : SameEnd Eq x y) : y = x := by
  cases h with
  | value hv => rw [hv]
  | failure e => rfl

end SameEnd

namespace Act

variable {κ ρ κ' ρ' α β α' β' ε : Type} {R : World κ ρ → World κ' ρ' → Prop} {V : α → α' → Prop}

/-- From related worlds on, the actions end alike and in related worlds. -/
def Agrees (R : World κ ρ → World κ' ρ' → Prop) (V : α → α' → Prop) (action : Act κ ρ α)
    (action' : Act κ' ρ' α') : Prop :=
  ∀ ⦃w : World κ ρ⦄ ⦃w' : World κ' ρ'⦄, R w w' →
    SameEnd V (action.runOn w).1 (action'.runOn w').1 ∧
      R (action.runOn w).2 (action'.runOn w').2

namespace Agrees

/-- Related values agree. -/
theorem pure {a : α} {a' : α'} (h : V a a') :
    Agrees R V (Pure.pure a : Act κ ρ α) (Pure.pure a' : Act κ' ρ' α') :=
  fun _ _ hw => ⟨.value h, hw⟩

/-- A failure agrees with itself. -/
theorem fail (failure : Failure) :
    Agrees R V (Act.fail failure : Act κ ρ α) (Act.fail failure : Act κ' ρ' α') :=
  fun _ _ hw => ⟨.failure failure, hw⟩

/-- Outcomes that are alike agree. -/
theorem lift {x : Except Failure α} {x' : Except Failure α'} (h : SameEnd V x x') :
    Agrees R V (Act.lift x : Act κ ρ α) (Act.lift x' : Act κ' ρ' α') :=
  fun _ _ hw => ⟨h, hw⟩

/-- Two actions in a row. -/
theorem bind {U : β → β' → Prop} {m : Act κ ρ α} {m' : Act κ' ρ' α'} {f : α → Act κ ρ β}
    {f' : α' → Act κ' ρ' β'} (hm : Agrees R V m m')
    (hf : ∀ a a', V a a' → Agrees R U (f a) (f' a')) : Agrees R U (m >>= f) (m' >>= f') := by
  intro w w' hw
  obtain ⟨hend, hw₁⟩ := hm hw
  rcases hrun : m.runOn w with ⟨x, w₁⟩
  rcases hrun' : m'.runOn w' with ⟨x', w₁'⟩
  rw [hrun, hrun'] at hend hw₁
  cases hend with
  | value hv =>
    rw [runOn_bind_ok f hrun, runOn_bind_ok f' hrun']
    exact hf _ _ hv hw₁
  | failure e =>
    -- Neither second action runs, so nothing is asked of them here.
    rw [runOn_bind_error f hrun, runOn_bind_error f' hrun']
    exact ⟨.failure e, hw₁⟩

/-- Less may be said of the values. -/
theorem mono {U : α → α' → Prop} {m : Act κ ρ α} {m' : Act κ' ρ' α'} (h : Agrees R V m m')
    (himp : ∀ a a', V a a' → U a a') : Agrees R U m m' := by
  intro w w' hw
  obtain ⟨hend, hw'⟩ := h hw
  exact ⟨hend.mono himp, hw'⟩

/-- Actions whose values are dropped. -/
theorem discard {m : Act κ ρ α} {m' : Act κ' ρ' α'} (h : Agrees R V m m') :
    Agrees R Eq (Functor.discard m : Act κ ρ Unit) (Functor.discard m' : Act κ' ρ' Unit) :=
  h.bind fun _ _ _ => .pure rfl

/-- Two looks give the related worlds. -/
theorem look : Agrees R R (Act.look : Act κ ρ (World κ ρ)) Act.look :=
  fun _ _ hw => ⟨.value hw, hw⟩

/-- Changes agree that lead from related worlds to related worlds. -/
theorem change {f : World κ ρ → World κ ρ} {f' : World κ' ρ' → World κ' ρ'}
    (h : ∀ w w', R w w' → R (f w) (f' w')) : Agrees R Eq (Act.change f) (Act.change f') :=
  fun w w' hw => ⟨.value rfl, h w w' hw⟩

section Handlers

variable {m : Act κ ρ α} {m' : Act κ' ρ' α'}

/-- A failure that becomes a value does so on both sides. -/
theorem catching (pick : Failure → Option ε) (h : Agrees R V m m') :
    Agrees R (SameEnd V) (Act.catching pick m) (Act.catching pick m') := by
  intro w w' hw
  obtain ⟨hend, hw₁⟩ := h hw
  rcases hrun : m.runOn w with ⟨x, w₁⟩
  rcases hrun' : m'.runOn w' with ⟨x', w₁'⟩
  rw [hrun, hrun'] at hend hw₁
  cases hend with
  | value hv =>
    rw [runOn_catching_ok hrun, runOn_catching_ok hrun']
    exact ⟨.value (.value hv), hw₁⟩
  | failure f =>
    -- The failures are the same, so the handlers accept both or neither.
    cases hpick : pick f with
    | some e =>
      rw [runOn_catching_some hrun hpick, runOn_catching_some hrun' hpick]
      exact ⟨.value (.failure e), hw₁⟩
    | none =>
      rw [runOn_catching_none hrun hpick, runOn_catching_none hrun' hpick]
      exact ⟨.failure f, hw₁⟩

/-- A failure that is made up for is made up for on both sides. -/
theorem rescuing (pick : Failure → Option ε) {rescue : ε → Act κ ρ α} {rescue' : ε → Act κ' ρ' α'}
    (h : Agrees R V m m') (hrescue : ∀ e, Agrees R V (rescue e) (rescue' e)) :
    Agrees R V (Act.rescuing pick m rescue) (Act.rescuing pick m' rescue') := by
  intro w w' hw
  obtain ⟨hend, hw₁⟩ := h hw
  rcases hrun : m.runOn w with ⟨x, w₁⟩
  rcases hrun' : m'.runOn w' with ⟨x', w₁'⟩
  rw [hrun, hrun'] at hend hw₁
  cases hend with
  | value hv =>
    rw [runOn_rescuing_ok hrun, runOn_rescuing_ok hrun']
    exact ⟨.value hv, hw₁⟩
  | failure f =>
    -- The same failure on both sides is rescued on both sides or on neither.
    cases hpick : pick f with
    | some e =>
      rw [runOn_rescuing_some hrun hpick, runOn_rescuing_some hrun' hpick]
      exact hrescue e hw₁
    | none =>
      rw [runOn_rescuing_none hrun hpick, runOn_rescuing_none hrun' hpick]
      exact ⟨.failure f, hw₁⟩

/-- What runs last runs last on both sides. -/
theorem ensuring {last : Act κ ρ Unit} {last' : Act κ' ρ' Unit} (h : Agrees R V m m')
    (hlast : Agrees R Eq last last') :
    Agrees R V (Act.ensuring m last) (Act.ensuring m' last') := by
  intro w w' hw
  obtain ⟨hend, hw₁⟩ := h hw
  obtain ⟨hend', hw₂⟩ := hlast hw₁
  rcases hrun : m.runOn w with ⟨x, w₁⟩
  rcases hrun' : m'.runOn w' with ⟨x', w₁'⟩
  rw [hrun, hrun'] at hend
  rw [hrun, hrun'] at hend' hw₂
  dsimp only at hend hend' hw₂
  rcases hrun₂ : last.runOn w₁ with ⟨y, w₂⟩
  rcases hrun₂' : last'.runOn w₁' with ⟨y', w₂'⟩
  rw [hrun₂, hrun₂'] at hend' hw₂
  -- The last action can only take the outcome away by failing, and it fails on both sides.
  cases hend' with
  | value hv =>
    rw [runOn_ensuring_ok hrun hrun₂, runOn_ensuring_ok hrun' hrun₂']
    exact ⟨hend, hw₂⟩
  | failure f =>
    rw [runOn_ensuring_error hrun hrun₂, runOn_ensuring_error hrun' hrun₂']
    exact ⟨.failure f, hw₂⟩

end Handlers

/-- An action that keeps an invariant agrees with itself between worlds that are equal and have it.
-/
theorem of_keeps {I : World κ ρ → Prop} {V : α → α → Prop} {m : Act κ ρ α}
    (h : ∀ w, I w → (∀ a, (m.runOn w).1 = .ok a → V a a) ∧ I (m.runOn w).2) :
    Agrees (fun w w' => w' = w ∧ I w) V m m := by
  rintro _ w ⟨rfl, hw⟩
  obtain ⟨hvalue, hafter⟩ := h w hw
  exact ⟨.self hvalue, rfl, hafter⟩

end Agrees

/-! ### Shared surroundings -/

/-- Related worlds have the same files and the same source of random bytes, and they stay related
when both get other ones or report one more event. -/
structure Shared (R : World κ ρ → World κ' ρ' → Prop) : Prop where
  files : ∀ ⦃w w'⦄, R w w' → w'.files = w.files
  random : ∀ ⦃w w'⦄, R w w' → w'.random = w.random
  withFiles : ∀ ⦃w : World κ ρ⦄ ⦃w' : World κ' ρ'⦄, R w w' → ∀ files,
    R { w with files } { w' with files }
  withRandom : ∀ ⦃w : World κ ρ⦄ ⦃w' : World κ' ρ'⦄, R w w' → ∀ random,
    R { w with random } { w' with random }
  report : ∀ ⦃w : World κ ρ⦄ ⦃w' : World κ' ρ'⦄, R w w' → ∀ event,
    R { w with journal := w.journal.push event } { w' with journal := w'.journal.push event }

namespace Shared

variable (hR : Shared R)
include hR

/-- A report agrees with itself, since both journals get it. -/
theorem report_agrees (event : Event) :
    Agrees R Eq (Act.report event : Act κ ρ Unit) (Act.report event) :=
  fun _ _ hw => ⟨.value rfl, hR.report hw event⟩

/-- A draw agrees with itself, since the random bytes are shared. -/
theorem draw_agrees (count : Nat) :
    Agrees R Eq (Act.draw count : Act κ ρ _) (Act.draw count) := by
  intro w w' hw
  rw [runOn_draw, runOn_draw, hR.random hw]
  exact ⟨.refl _, hR.withRandom hw _⟩

/-- A change of files agrees with itself, since the files are shared. -/
theorem changeFiles_agrees (path : String) (f : Tree → Except Errno Tree) :
    Agrees R Eq (Act.changeFiles path f : Act κ ρ Unit) (Act.changeFiles path f) := by
  intro w w' hw
  have hfiles := hR.files hw
  cases h : f w.files with
  | ok files =>
    rw [runOn_changeFiles_ok h, runOn_changeFiles_ok (hfiles ▸ h)]
    exact ⟨.refl _, hR.withFiles hw files⟩
  | error reason =>
    rw [runOn_changeFiles_error h, runOn_changeFiles_error (hfiles ▸ h)]
    exact ⟨.refl _, hw⟩

end Shared

end Act

/-! ### The files of a run -/

namespace Artifacts

open Act (Agrees Shared)

variable {κ ρ κ' ρ' α α' : Type} {R : World κ ρ → World κ' ρ' → Prop} (hR : Shared R)
include hR

/-- Both runs draw the same suffix. -/
theorem uniqueSuffix_agrees (settings : ArtifactSettings) :
    Agrees R Eq (uniqueSuffix settings : Act κ ρ String) (uniqueSuffix settings) := by
  refine (hR.draw_agrees _).bind ?_
  rintro (said | bytes) _ rfl
  · -- The source has failed, and the settings say whether there is another way.
    dsimp only
    split
    · exact (hR.report_agrees _).bind fun _ _ _ => .pure rfl
    · exact .fail _
  · exact .pure rfl

omit hR in
/-- Both runs refuse the same paths. -/
theorem refuseNul_agrees (path : String) :
    Agrees R Eq (refuseNul path : Act κ ρ Unit) (refuseNul path) := by
  unfold refuseNul
  split
  · exact .fail _
  · exact .pure rfl

/-- Both runs remove the same file, and both find it or neither does. -/
theorem remove_agrees (path : String) :
    Agrees R Eq (remove path : Act κ ρ Bool) (remove path) := by
  refine (refuseNul_agrees path).bind fun _ _ _ => Agrees.look.bind fun w w' hw => ?_
  -- Both sides look at the same files, so the system gives both the same answer.
  rw [hR.files hw]
  cases w.files.unlink path with
  | ok files =>
    exact (Agrees.change fun _ _ h => hR.withFiles h files).bind fun _ _ _ =>
      (hR.report_agrees _).bind fun _ _ _ => .pure rfl
  | error reason =>
    cases reason <;> exact (hR.report_agrees _).bind fun _ _ _ => .pure rfl

/-- Both runs make the same credentials file. -/
theorem makeCredentials_agrees (path : String) :
    Agrees R Eq (makeCredentials path : Act κ ρ Unit) (makeCredentials path) :=
  (refuseNul_agrees path).bind fun _ _ _ =>
    .rescuing _ (hR.changeFiles_agrees _ _) fun _ => .fail _

/-- Both runs make the same inventory file. -/
theorem makeInventory_agrees (path content : String) :
    Agrees R Eq (makeInventory path content : Act κ ρ Unit) (makeInventory path content) :=
  (refuseNul_agrees path).bind fun _ _ _ =>
    .rescuing _ (hR.changeFiles_agrees _ _) fun _ =>
      (remove_agrees hR path).bind fun _ _ _ => .fail _

/-- Both runs choose the same path for the credentials. -/
theorem credentialsPath_agrees (settings : ArtifactSettings) :
    Agrees R Eq (credentialsPath settings : Act κ ρ String) (credentialsPath settings) := by
  refine (uniqueSuffix_agrees hR settings).bind ?_
  rintro suffix _ rfl
  exact .pure rfl

/-- Both runs choose the same path for the inventory. -/
theorem inventoryPath_agrees (settings : ArtifactSettings) :
    Agrees R Eq (inventoryPath settings : Act κ ρ String) (inventoryPath settings) := by
  refine (uniqueSuffix_agrees hR settings).bind ?_
  rintro suffix _ rfl
  exact .pure rfl

/-- Both runs open the credentials file at the same path. -/
theorem openCredentials_agrees (settings : ArtifactSettings) :
    Agrees R Eq (openCredentials settings : Act κ ρ String) (openCredentials settings) := by
  refine (credentialsPath_agrees hR settings).bind ?_
  rintro path _ rfl
  refine (makeCredentials_agrees hR path).bind fun _ _ _ => ?_
  exact (hR.report_agrees _).bind fun _ _ _ => .pure rfl

/-- Both runs open the inventory file at the same path. -/
theorem openInventory_agrees (settings : ArtifactSettings) (content : String) :
    Agrees R Eq (openInventory settings content : Act κ ρ String)
      (openInventory settings content) := by
  refine (inventoryPath_agrees hR settings).bind ?_
  rintro path _ rfl
  refine (makeInventory_agrees hR path content).bind fun _ _ _ => ?_
  exact (hR.report_agrees _).bind fun _ _ _ => .pure rfl

section Use

variable {V : α → α' → Prop} {use : String → Act κ ρ α} {use' : String → Act κ' ρ' α'}
  (h : ∀ path, Agrees R V (use path) (use' path))
include h

/-- Actions with the same removal behind them. -/
theorem thenRemove_agrees (path : String) :
    Agrees R V (thenRemove (use path) path) (thenRemove (use' path) path) :=
  (h path).ensuring (remove_agrees hR path).discard

/-- What is done with a credentials file agrees if it does at each path. -/
theorem withCredentialsFile_agrees (settings : ArtifactSettings) :
    Agrees R V (withCredentialsFile settings use) (withCredentialsFile settings use') := by
  refine (openCredentials_agrees hR settings).bind ?_
  rintro path _ rfl
  exact thenRemove_agrees hR h path

/-- What is done with an inventory file agrees if it does at each path. -/
theorem withInventoryFile_agrees (settings : ArtifactSettings) (content : String) :
    Agrees R V (withInventoryFile settings content use)
      (withInventoryFile settings content use') := by
  refine (openInventory_agrees hR settings content).bind ?_
  rintro path _ rfl
  exact thenRemove_agrees hR h path

end Use

end Artifacts

end ConsoleKeeper
