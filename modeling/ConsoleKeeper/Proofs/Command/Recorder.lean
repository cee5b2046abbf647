import ConsoleKeeper.Command.Recorder
import ConsoleKeeper.Proofs.Agreement
import ConsoleKeeper.Proofs.Files.Path

/-!
# `ConsoleKeeper.Proofs.Command.Recorder`: recording a command

A command without a rule is noted and given to the hook. Before that the files are read that its
arguments name, and this is where a recording can fail: `filesNamed_ok` says when it does not.

A recorder looks at the files and at what it knows itself. So two recorders that know the same agree
if their hooks do (`run_agrees`).
-/

set_option autoImplicit false

namespace ConsoleKeeper.Recorder

variable {κ η : Type} {files : Tree} {path : String}

/-- The bytes of a text. -/
def Legible (content : List UInt8) : Prop :=
  ∃ s, Text.Utf8.decode? content = some s

/-- No name of a path is too long, nor is the path. -/
def Short (path : String) : Prop :=
  Tree.bytesIn path ≤ Tree.pathLimit ∧
    ∀ piece ∈ Text.splitOn '/' path.toList,
      Tree.bytesIn (String.ofList piece) ≤ Tree.nameLimit

instance (path : String) : Decidable (Short path) :=
  inferInstanceAs (Decidable (_ ∧ _))

/-- A way along short names does not end because of a name. -/
theorem walk_ne_nameTooLong {names : List String}
    (h : ∀ name ∈ names, Tree.bytesIn name ≤ Tree.nameLimit) (place : Place) :
    files.walk place names ≠ .error .nameTooLong := by
  -- Each name passes the one check that could refuse it, so the induction is on the way alone.
  induction names generalizing place with
  | nil => simp [Tree.walk]
  | cons name rest ih =>
    have hname : ¬Tree.nameLimit < Tree.bytesIn name := Nat.not_lt.mpr (h name List.mem_cons_self)
    have hrest := fun n hn => h n (List.mem_cons_of_mem name hn)
    cases ha : files.at? place with
    | none => simp [Tree.walk, ha]
    | some node =>
      cases node with
      | file content mode => simp [Tree.walk, ha]
      | directory =>
        rw [Tree.walk_cons ha]
        split
        · exact ih hrest place
        · split
          · exact ih hrest place.dropLast
          · exact ih hrest (place ++ [name])

/-- A short path is never too long. -/
theorem find_ne_nameTooLong (h : Short path) : files.find path ≠ .error .nameTooLong := by
  -- The only reason of this kind comes from the way to the file.
  have hlocate : files.locate path ≠ .error .nameTooLong := by
    unfold Tree.locate
    split
    · simp
    · rw [if_neg (Nat.not_lt.mpr h.1)]
      refine walk_ne_nameTooLong ?_ _
      intro name hname
      obtain ⟨piece, hpiece, rfl⟩ := List.mem_map.mp hname
      exact h.2 piece hpiece
  unfold Tree.find
  cases hl : files.locate path with
  | error e =>
    simp only [ne_eq, Except.error.injEq]
    rintro rfl
    exact hlocate hl
  | ok place =>
    dsimp only
    split <;> simp

/-- A file can be noted if it is a text. -/
theorem fileText_ok (hlegible : files.Only Legible path)
    (hshort : files.find path ≠ .error .nameTooLong) : ∃ text, fileText files path = .ok text := by
  unfold fileText
  cases hfind : files.find path with
  | ok node =>
    cases node with
    | directory => exact ⟨none, rfl⟩
    | file content mode =>
      obtain ⟨s, hs⟩ := hlegible content mode hfind
      simp only [Tree.textOf, hs]
      exact ⟨_, rfl⟩
  | error e =>
    -- Only a name that is too long is reported; any other failure to find the file is passed over.
    cases e with
    | nameTooLong => exact absurd hfind hshort
    | _ => exact ⟨none, rfl⟩

/-- A fold gives a value if every step does. -/
theorem foldlM_ok {α β ε : Type} {f : β → α → Except ε β} {l : List α}
    (h : ∀ a ∈ l, ∀ b, ∃ b', f b a = .ok b') (b : β) : ∃ b', l.foldlM f b = .ok b' := by
  induction l generalizing b with
  | nil => exact ⟨b, rfl⟩
  | cons a rest ih =>
    obtain ⟨b', hb⟩ := h a List.mem_cons_self b
    rw [List.foldlM_cons, hb]
    exact ih (fun a' ha => h a' (List.mem_cons_of_mem a ha)) b'

/-- The files that arguments name can be noted if each of them can. -/
theorem filesNamed_ok {arguments : List String}
    (h : ∀ argument ∈ arguments, argument.startsWith "/" = true →
      ∃ text, fileText files (Path.ofText argument).text = .ok text) :
    ∃ found, filesNamed files arguments = .ok found := by
  refine foldlM_ok (fun argument hmem found => ?_) []
  split
  · next hslash =>
    rw [Bool.and_eq_true] at hslash
    obtain ⟨text, htext⟩ := h argument hmem hslash.1
    rw [htext]
    cases text with
    | some text => exact ⟨_, rfl⟩
    | none => exact ⟨_, rfl⟩
  · exact ⟨_, rfl⟩

/-- The world after a command was noted. -/
def noted (w : World κ (Recorder η)) (command : Command) (found : List (String × String)) :
    World κ (Recorder η) :=
  { w with
    runner := { w.runner with calls := w.runner.calls ++ [⟨command, found⟩] }
    journal := w.journal.push (.commandRecorded command.display) }

/-- A command is noted, and then it fails by a rule or is given to the hook. -/
theorem run_eq {hook : Command → Act κ (Recorder η) Unit} {command : Command}
    {w : World κ (Recorder η)} {found : List (String × String)}
    (hfiles : filesNamed w.files command.arguments = .ok found) :
    (run hook command).runOn w =
      (match failure? w.runner.rules command with
        | some e => Act.fail (.operator e)
        | none => do
          hook command
          pure ⟨command.display, 0⟩ : Act κ (Recorder η) CommandResult).runOn
        (noted w command found) := by
  rw [run, Act.runOn_bind_ok _ (Act.runOn_look w)]
  simp only [hfiles]
  rw [Act.runOn_bind_ok _ (Act.runOn_lift _ w), Act.runOn_bind_ok _ (Act.runOn_change _ w),
    Act.runOn_bind_ok _ (Act.runOn_report _ _), Act.runOn_bind_ok _ (Act.runOn_look _)]
  rfl

/-- A command whose files cannot be read is not noted. -/
theorem run_unread {hook : Command → Act κ (Recorder η) Unit} {command : Command}
    {w : World κ (Recorder η)} {failure : Failure}
    (hfiles : filesNamed w.files command.arguments = .error failure) :
    (run hook command).runOn w = (.error failure, w) := by
  rw [run, Act.runOn_bind_ok _ (Act.runOn_look w)]
  simp only [hfiles]
  exact Act.runOn_bind_error _ (Act.runOn_lift _ w)

/-- A command without a rule is noted and given to the hook. -/
theorem run_ok {hook : Command → Act κ (Recorder η) Unit} {command : Command}
    {w w' : World κ (Recorder η)} {found : List (String × String)}
    (hfiles : filesNamed w.files command.arguments = .ok found) (hrules : w.runner.rules = [])
    (hhook : (hook command).runOn (noted w command found) = (.ok (), w')) :
    (run hook command).runOn w = (.ok ⟨command.display, 0⟩, w') := by
  have hnone : failure? w.runner.rules command = none := by
    rw [hrules]
    rfl
  rw [run_eq hfiles, hnone]
  exact Act.runOn_bind_ok _ hhook

/-! ### Two recorders -/

section Agree

open Act (Agrees Shared)

variable {κ' : Type} {R : World κ (Recorder η) → World κ' (Recorder η) → Prop}

/-- Recorders agree if their hooks do, between worlds in which the recorders know the same. -/
theorem run_agrees (hR : Shared R) (hknown : ∀ w w', R w w' → w'.runner = w.runner)
    (hwith : ∀ w w', R w w' → ∀ runner, R { w with runner } { w' with runner })
    {hook : Command → Act κ (Recorder η) Unit} {hook' : Command → Act κ' (Recorder η) Unit}
    (hhook : ∀ command, Agrees R Eq (hook command) (hook' command)) (command : Command) :
    Agrees R Eq (run hook command) (run hook' command) := by
  refine Agrees.look.bind fun world world' hworld => ?_
  rw [hR.files hworld]
  refine (Agrees.lift (.refl _)).bind ?_
  rintro files _ rfl
  refine Agrees.bind (Agrees.change ?_) fun _ _ _ => ?_
  · intro w w' hw
    rw [hknown w w' hw]
    exact hwith w w' hw _
  refine (hR.report_agrees _).bind fun _ _ _ => ?_
  refine Agrees.look.bind fun world world' hworld => ?_
  -- Both runners know the same rules, so they fail at the same commands.
  rw [hknown _ _ hworld]
  cases failure? world.runner.rules command with
  | some e => exact .fail _
  | none => exact (hhook command).bind fun _ _ _ => .pure rfl

end Agree

end ConsoleKeeper.Recorder
