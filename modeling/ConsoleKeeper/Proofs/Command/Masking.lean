import ConsoleKeeper.Command.Recorder
import ConsoleKeeper.Command.Supervision
import ConsoleKeeper.Proofs.Act
import ConsoleKeeper.Proofs.Data.Fields
import ConsoleKeeper.Proofs.Text.Replace

/-!
# `ConsoleKeeper.Proofs.Command.Masking`: secrets stay hidden

A text hides the secrets of a command if none of them is a part of it. Masking replaces one secret
after the other, so the question is whether replacing a later one can bring an earlier one back.
It cannot if the earlier one has no star in it: the mask then keeps apart what stands around it.

`not_infix_masked` is that for any secrets and any text. `secrets_stay_hidden` follows it to all
places where a command is shown: the command line, each line of its output, and the result or error
of both runners.
-/

set_option autoImplicit false

namespace ConsoleKeeper

namespace Command

/-- No secret of the command is a part of the text. The empty text is no secret. -/
def Hides (command : Command) (text : String) : Prop :=
  ∀ secret ∈ command.secrets, secret ≠ "" → ¬secret.toList <:+: text.toList

/-- No secret has a star in it, the character of the mask. -/
def Maskable (command : Command) : Prop :=
  ∀ secret ∈ command.secrets, '*' ∉ secret.toList

instance (command : Command) : Decidable command.Maskable :=
  List.decidableBAll _ command.secrets

/-! ### Masking -/

/-- The mask shares no character with a secret without stars. -/
theorem mask_disjoint {secret : String} (h : '*' ∉ secret.toList) :
    ∀ c ∈ mask.toList, c ∉ secret.toList := by
  intro c hc
  have hstar : c = '*' := by simpa [mask] using hc
  rwa [hstar]

/-- The mask shows something. -/
theorem mask_ne_nil : mask.toList ≠ [] := by
  simp [mask]

/-- The first secret is replaced first. An empty one is none. -/
theorem masked_cons (first : String) (rest : List String) (text : List Char) :
    masked (first :: rest) text =
      masked rest
        (if first.isEmpty then text
          else Text.replaceAll first.toList mask.toList text) := rfl

/-- Masking brings no text into being that has no star. -/
theorem infix_of_infix_masked {needle : List Char} {secrets : List String} {text : List Char}
    (hneedle : needle ≠ []) (hstar : ∀ c ∈ mask.toList, c ∉ needle)
    (h : needle <:+: masked secrets text) : needle <:+: text := by
  induction secrets generalizing text with
  | nil => exact h
  | cons first rest ih =>
    rw [masked_cons] at h
    -- Taken back through the later secrets, the needle is in the text as the first one left it.
    have hfirst := ih h
    by_cases hempty : first.isEmpty = true
    · rwa [if_pos hempty] at hfirst
    · rw [if_neg hempty] at hfirst
      have hne : first.toList ≠ [] := by
        simpa [String.isEmpty_iff, String.toList_eq_nil_iff] using hempty
      exact Text.infix_of_infix_replaceAll hne hneedle mask_ne_nil hstar hfirst

/-- After masking, a secret without stars is no part of the text. -/
theorem not_infix_masked {secrets : List String} {secret : String} (hmem : secret ∈ secrets)
    (hne : secret ≠ "") (hstar : '*' ∉ secret.toList) (text : List Char) :
    ¬secret.toList <:+: masked secrets text := by
  have hnil : secret.toList ≠ [] := by simpa [String.toList_eq_nil_iff] using hne
  have hdisjoint := mask_disjoint hstar
  induction secrets generalizing text with
  | nil => cases hmem
  | cons first rest ih =>
    rw [masked_cons]
    by_cases hfirst : secret = first
    · -- It is gone after its own turn, and the later ones do not bring it back.
      subst hfirst
      rw [if_neg (by simpa [String.isEmpty_iff] using hne)]
      intro h
      exact Text.not_infix_replaceAll hnil mask_ne_nil hdisjoint text
        (infix_of_infix_masked hnil hdisjoint h)
    · -- Its turn is still to come, whatever the first one makes of the text.
      exact ih (List.mem_of_ne_of_mem hfirst hmem) _

/-- A text without an occurrence of the secrets is left as it is. -/
theorem masked_eq_self {secrets : List String} {text : List Char}
    (h : ∀ secret ∈ secrets, secret ≠ "" → ¬secret.toList <:+: text) :
    masked secrets text = text := by
  induction secrets with
  | nil => rfl
  | cons first rest ih =>
    have hrest := ih fun secret hmem => h secret (List.mem_cons_of_mem first hmem)
    rw [masked_cons]
    split
    · exact hrest
    · next hfull =>
      have hne : first ≠ "" := by simpa [String.isEmpty_iff] using hfull
      rwa [Text.replaceAll_eq_self (h first List.mem_cons_self hne)]

/-- A property that replacing something by the mask keeps is kept by masking. -/
theorem masked_induction {motive : List Char → Prop} {secrets : List String} {text : List Char}
    (h : motive text)
    (replace : ∀ secret ∈ secrets, secret ≠ "" → ∀ text, motive text →
      motive (Text.replaceAll secret.toList mask.toList text)) :
    motive (masked secrets text) := by
  induction secrets generalizing text with
  | nil => exact h
  | cons first rest ih =>
    rw [masked_cons]
    refine ih ?_ fun secret hmem => replace secret (List.mem_cons_of_mem first hmem)
    -- An empty secret is passed over.
    split
    · exact h
    · next hfull =>
      exact replace first List.mem_cons_self (by simpa [String.isEmpty_iff] using hfull) text h

variable {command : Command}

/-- A masked text hides the secrets. -/
theorem Maskable.hides_masked (h : command.Maskable) (text : List Char) :
    command.Hides (String.ofList (masked command.secrets text)) := by
  intro secret hmem hne
  rw [String.toList_ofList]
  exact not_infix_masked hmem hne (h secret hmem) text

/-- The command line hides the secrets. -/
theorem Maskable.hides_display (h : command.Maskable) : command.Hides command.display :=
  h.hides_masked _

/-- What is shown of a piece of output hides the secrets. -/
theorem Maskable.hides_shown (h : command.Maskable) (bytes : List UInt8) :
    command.Hides (Output.shown command.secrets bytes) :=
  h.hides_masked _

end Command

/-! ### What is told about a command -/

/-- The command line or the line of output that an event shows. -/
def Event.shown? : Event → Option String
  | .commandStarting command | .commandUnstarted command _ | .commandTimedOut command _
  | .commandFailed command _ | .commandFinished command _ | .commandRecorded command => some command
  | .outputLine _ _ line => some line
  | _ => none

namespace Command

variable {κ ρ α β : Type} {command : Command}

/-- What an event shows hides the secrets. -/
def HidesIn (command : Command) (event : Event) : Prop :=
  ∀ text, event.shown? = some text → command.Hides text

/-- The command that a result or an error names hides the secrets, and an error of the operator
names one. -/
def HidesAtEnd (command : Command) : Except Failure CommandResult → Prop
  | .ok result => command.Hides result.command
  | .error (.operator e) =>
    ∃ text, e.details.get? "command" = some (.text text) ∧ command.Hides text
  | .error _ => True

/-- However the action ends, it ends as required, and all events that it reports hide the secrets.
-/
def Discreet (command : Command) (ends : Except Failure α → Prop) (action : Act κ ρ α) : Prop :=
  ∀ ⦃w : World κ ρ⦄ ⦃outcome : Except Failure α⦄ ⦃w' : World κ ρ⦄,
    action.runOn w = (outcome, w') →
      ends outcome ∧ ∃ events, w'.journal.toList = w.journal.toList ++ events ∧
        ∀ event ∈ events, command.HidesIn event

/-- An action that gives a value and reports only what hides the secrets. -/
abbrev Steady (command : Command) (action : Act κ ρ α) : Prop :=
  command.Discreet (fun outcome => ∃ a, outcome = .ok a) action

namespace Discreet

variable {ends : Except Failure α → Prop}

/-- A value is no event. -/
theorem pure {a : α} (h : ends (.ok a)) : command.Discreet ends (Pure.pure a : Act κ ρ α) := by
  rintro w _ _ ⟨⟩
  exact ⟨h, [], by simp⟩

/-- A failure is no event. -/
theorem fail {failure : Failure} (h : ends (.error failure)) :
    command.Discreet ends (Act.fail failure : Act κ ρ α) := by
  rintro w _ _ ⟨⟩
  exact ⟨h, [], by simp⟩

/-- An action behind one that gives a value. -/
theorem bind {m : Act κ ρ β} {f : β → Act κ ρ α} (hm : command.Steady m)
    (hf : ∀ b, command.Discreet ends (f b)) : command.Discreet ends (m >>= f) := by
  intro w outcome w' hrun
  obtain ⟨b, w₁, hrun₁, hrun₂⟩ | ⟨failure, hrun₁, -⟩ := Act.runOn_bind_cases hrun
  · obtain ⟨-, events₁, hjournal₁, hhides₁⟩ := hm hrun₁
    obtain ⟨hends, events₂, hjournal₂, hhides₂⟩ := hf b hrun₂
    refine ⟨hends, events₁ ++ events₂, by rw [hjournal₂, hjournal₁, List.append_assoc], ?_⟩
    intro event hmem
    obtain hmem | hmem := List.mem_append.mp hmem
    · exact hhides₁ event hmem
    · exact hhides₂ event hmem
  · obtain ⟨⟨b, hb⟩, -⟩ := hm hrun₁
    cases hb

end Discreet

/-- A look reports nothing. -/
theorem steady_look : command.Steady (Act.look : Act κ ρ (World κ ρ)) := by
  rintro w _ _ ⟨⟩
  exact ⟨⟨w, rfl⟩, [], by simp⟩

/-- A change of files reports nothing. -/
theorem steady_changeFiles (files : Tree) :
    command.Steady (Act.change fun world => { world with files } : Act κ ρ Unit) := by
  rintro w _ _ ⟨⟩
  exact ⟨⟨(), rfl⟩, [], by simp⟩

/-- A report of what hides the secrets. -/
theorem steady_report {event : Event} (h : command.HidesIn event) :
    command.Steady (Act.report event : Act κ ρ Unit) := by
  rintro w _ _ ⟨⟩
  exact ⟨⟨(), rfl⟩, [event], by simp, by simpa using h⟩

/-- Several reports, one after the other. -/
theorem steady_reports {events : List Event} (h : ∀ event ∈ events, command.HidesIn event) :
    command.Steady (events.forM Act.report : Act κ ρ Unit) := by
  induction events with
  | nil => exact .pure ⟨(), rfl⟩
  | cons event rest ih =>
    show command.Steady (Act.report event >>= fun _ => rest.forM Act.report)
    exact .bind (steady_report (h event List.mem_cons_self))
      fun _ => ih fun e he => h e (List.mem_cons_of_mem event he)

/-! ### The runners -/

/-- An error that names the command by its command line. -/
theorem Maskable.hidesAtEnd_plain (h : command.Maskable) {kind : ErrorKind} {message : String}
    {details : Fields} (hdetails : details.get? "command" = some (.text command.display)) :
    command.HidesAtEnd (.error (.operator (.plain kind message details))) :=
  ⟨command.display, hdetails, h.hides_display⟩

/-- The error of a command that was not started. -/
theorem Maskable.startError (h : command.Maskable) (why : String) :
    command.HidesAtEnd (.error (.operator (startError command why))) :=
  h.hidesAtEnd_plain (by simp [Table.get?_cons])

/-- The error of a command that ended with a status. -/
theorem Maskable.exitError (h : command.Maskable) (status : Int) :
    command.HidesAtEnd (.error (.operator (exitError command status))) :=
  h.hidesAtEnd_plain (by simp [Table.get?_cons])

/-- The error of a command that took too long. -/
theorem Maskable.timeoutError (h : command.Maskable) (limit : Seconds) :
    command.HidesAtEnd (.error (.operator (timeoutError command limit))) :=
  h.hidesAtEnd_plain (by simp [Table.get?_cons])

/-- An event that shows the command line. -/
theorem Maskable.hidesIn_display (h : command.Maskable) {event : Event}
    (hevent : event.shown? = some command.display) : command.HidesIn event := by
  intro text htext
  cases hevent.symm.trans htext
  exact h.hides_display

/-- What is reported about an output of the command. -/
theorem Maskable.hidesIn_eventOf (h : command.Maskable) (stream : OutputStream)
    (emission : Output.Emission) : command.HidesIn (Output.eventOf command stream emission) := by
  intro text htext
  cases emission with
  | unread message => cases htext
  | piece piece =>
    cases htext
    exact h.hides_shown piece.bytes

/-- What is reported about both outputs of the command, whatever it writes and when. -/
theorem Maskable.hidesIn_outputEvents (h : command.Maskable) (s : Supervision) (conduct : Conduct) :
    ∀ event ∈ s.outputEvents command conduct, command.HidesIn event := by
  have hreports : ∀ stream, ∀ report ∈ Output.reports s.lineLimit command stream
      (conduct.said stream) (conduct.ending.map (·.moment)), command.HidesIn report.2 := by
    intro stream report hmem
    simp only [Output.reports, List.mem_flatMap, List.mem_map] at hmem
    obtain ⟨portion, -, emission, -, rfl⟩ := hmem
    exact h.hidesIn_eventOf stream emission
  intro event hmem
  simp only [Supervision.outputEvents, List.mem_map, List.mem_mergeSort, List.mem_append] at hmem
  obtain ⟨report, hmem | hmem, rfl⟩ := hmem
  · exact hreports .stdout report hmem
  · exact hreports .stderr report hmem

/-- A command that is stopped. -/
theorem Maskable.discreet_stop (h : command.Maskable) (s : Supervision) :
    command.Discreet command.HidesAtEnd (s.stop command : Act κ ρ CommandResult) := by
  unfold Supervision.stop
  split
  · next limit _ _ =>
    exact .bind (steady_report (h.hidesIn_display rfl)) fun _ => .fail (h.timeoutError limit)
  · exact .fail trivial

/-- A command that was started. -/
theorem Maskable.discreet_follow (h : command.Maskable) (s : Supervision) (conduct : Conduct) :
    command.Discreet command.HidesAtEnd (s.follow command conduct : Act κ ρ CommandResult) := by
  refine .bind (steady_changeFiles conduct.files) fun _ =>
    .bind (steady_reports (h.hidesIn_outputEvents s conduct)) fun _ => ?_
  cases conduct.ending with
  | none => exact h.discreet_stop s
  | some ending =>
    dsimp only
    split
    · exact .bind (steady_report (h.hidesIn_display rfl)) fun _ => .pure h.hides_display
    · exact .bind (steady_report (h.hidesIn_display rfl)) fun _ => .fail (h.exitError ending.status)

/-- A supervised command, on any host. -/
theorem Maskable.discreet_run (h : command.Maskable) (s : Supervision) :
    command.Discreet command.HidesAtEnd (s.run command : Act κ ρ CommandResult) := by
  refine .bind (steady_report (h.hidesIn_display rfl)) fun _ => ?_
  split
  · refine .bind steady_look fun world => ?_
    dsimp only
    split
    · next reason _ =>
      refine .bind (steady_report (h.hidesIn_display rfl)) fun _ => .fail ?_
      exact h.startError (SystemError.about reason command.program).message
    · next conduct _ => exact h.discreet_follow s conduct
  · exact .fail trivial

/-- Bytes that are no text are none of the operator's errors. -/
theorem operator?_textOf {bytes : List UInt8} {failure : Failure}
    (h : Tree.textOf bytes = .error failure) : failure.operator? = none := by
  unfold Tree.textOf at h
  split at h
  · cases h
  · cases h
    rfl

/-- Where a file cannot be noted, the failure is none of the operator's errors. -/
theorem operator?_fileText {files : Tree} {path : String} {failure : Failure}
    (h : Recorder.fileText files path = .error failure) : failure.operator? = none := by
  unfold Recorder.fileText at h
  -- A file that cannot be read as text, and a name that is too long, are the two ways to fail.
  split at h
  · next content _ _ =>
    cases htext : Tree.textOf content with
    | error failure' =>
      rw [htext] at h
      cases h
      exact operator?_textOf htext
    | ok text =>
      rw [htext] at h
      cases h
  · cases h
    rfl
  · cases h

/-- A fold fails as one of its steps does. -/
theorem failure_of_foldlM {f : β → α → Except Failure β} {l : List α} {b : β} {failure : Failure}
    (h : l.foldlM f b = .error failure) : ∃ a b', f b' a = .error failure := by
  induction l generalizing b with
  | nil => cases h
  | cons a rest ih =>
    rw [List.foldlM_cons] at h
    cases hstep : f b a with
    | error failure' =>
      rw [hstep] at h
      cases h
      exact ⟨a, b, hstep⟩
    | ok b' =>
      rw [hstep] at h
      exact ih h

/-- Where the files that arguments name cannot be noted, the failure is none of the operator's
errors. -/
theorem operator?_filesNamed {files : Tree} {arguments : List String} {failure : Failure}
    (h : Recorder.filesNamed files arguments = .error failure) : failure.operator? = none := by
  obtain ⟨argument, found, hstep⟩ := failure_of_foldlM h
  -- Only an argument that is a path from the root is looked up.
  split at hstep
  · cases htext : Recorder.fileText files (Path.ofText argument).text with
    | error failure' =>
      rw [htext] at hstep
      cases hstep
      exact operator?_fileText htext
    | ok text =>
      rw [htext] at hstep
      cases text with
      | none => cases hstep
      | some text => cases hstep
  · cases hstep

/-- A recorded command ends with something that hides the secrets, unless its hook fails. -/
theorem Maskable.hidesAtEnd_recorded {η : Type} (h : command.Maskable)
    {hook : Command → Act κ (Recorder η) Unit} {w w' : World κ (Recorder η)}
    {outcome : Except Failure CommandResult}
    (hrun : (Recorder.run hook command).runOn w = (outcome, w')) :
    command.HidesAtEnd outcome ∨ ∃ failure w₁, outcome = .error failure ∧
      (hook command).runOn w₁ = (.error failure, w') := by
  rw [Recorder.run, Act.runOn_bind_ok _ (Act.runOn_look w)] at hrun
  cases hfiles : Recorder.filesNamed w.files command.arguments with
  | error failure =>
    rw [hfiles, Act.runOn_bind_error _ (Act.runOn_lift _ w)] at hrun
    cases hrun
    have hnone := operator?_filesNamed hfiles
    cases failure with
    | operator e => cases hnone
    | _ => exact .inl trivial
  | ok files =>
    rw [hfiles, Act.runOn_bind_ok _ (Act.runOn_lift _ w),
      Act.runOn_bind_ok _ (Act.runOn_change _ w), Act.runOn_bind_ok _ (Act.runOn_report _ _),
      Act.runOn_bind_ok _ (Act.runOn_look _)] at hrun
    split at hrun
    · next e hrule =>
      cases hrun
      -- The error is one of the two that a rule asks for.
      obtain ⟨rule, -, rfl⟩ := Option.map_eq_some_iff.mp hrule
      left
      split
      · exact h.startError "simulated start failure"
      · exact h.exitError rule.status
    · obtain ⟨_, w₁, -, hrun⟩ | ⟨failure, hhook, rfl⟩ := Act.runOn_bind_cases hrun
      · cases hrun
        exact .inl h.hides_display
      · exact .inr ⟨failure, _, rfl, hhook⟩

/-- The secrets of a command without stars are hidden wherever it is shown: in its command line, in
each line of output, in whatever a supervised run of it reports and ends with, and in what a
recorded run of it ends with, unless the hook of that run fails. -/
theorem secrets_stay_hidden (command : Command) (h : command.Maskable) :
    command.Hides command.display ∧
      (∀ bytes, command.Hides (Output.shown command.secrets bytes)) ∧
      (∀ (κ ρ : Type) (s : Supervision) (w : World κ ρ),
        command.HidesAtEnd ((s.run command).runOn w).1 ∧
          ∃ events, ((s.run command).runOn w).2.journal.toList = w.journal.toList ++ events ∧
            ∀ event ∈ events, command.HidesIn event) ∧
      ∀ (κ η : Type) (hook : Command → Act κ (Recorder η) Unit) (w : World κ (Recorder η)),
        command.HidesAtEnd ((Recorder.run hook command).runOn w).1 ∨
          ∃ failure w₁, ((Recorder.run hook command).runOn w).1 = .error failure ∧
            (hook command).runOn w₁ =
              (.error failure, ((Recorder.run hook command).runOn w).2) :=
  ⟨h.hides_display, h.hides_shown, fun _ _ s _ => h.discreet_run s rfl,
    fun _ _ _ _ => h.hidesAtEnd_recorded rfl⟩

/-- A login whose secrets overlap: masking one takes a part of another away. -/
def overlapping : Command where
  program := "oc"
  arguments := ["login", "--token=aabab"]
  secrets := ["ab", "", "aab", "ab"]

/-- The secrets of such a login, whose first mask leaves an `a` in front of it. -/
theorem secrets_stay_hidden_overlapping :
    overlapping.Maskable ∧ overlapping.display = "oc login --token=a**********" ∧
      overlapping.Hides overlapping.display ∧
      (∀ bytes, overlapping.Hides (Output.shown overlapping.secrets bytes)) ∧
      ∀ (s : Supervision) (w : World Unit Unit),
        overlapping.HidesAtEnd ((s.run overlapping).runOn w).1 :=
  have hidden := secrets_stay_hidden overlapping (by decide)
  ⟨by decide, by decide +kernel, hidden.1, hidden.2.1, fun s w => (hidden.2.2.1 Unit Unit s w).1⟩

end Command

end ConsoleKeeper
