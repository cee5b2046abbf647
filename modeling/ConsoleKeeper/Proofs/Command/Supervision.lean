import ConsoleKeeper.Proofs.Act
import ConsoleKeeper.Proofs.Command.Pieces

/-!
# `ConsoleKeeper.Proofs.Command.Supervision`: outputs under supervision

A supervised command writes to two outputs, and both are told in one journal. What the drain does
with one output says something about a command only if the journal shows each output as the drain
gives it. `run_tells_output` is that. If a command has ended, the entries of the journal about an
output are the events of this output alone, drained from stretches that bring just the bytes that
the command wrote there. A command that nobody waited for is told in the same way, as far as it was
watched: its entries are the first of them.

Three things come together here. One look at an output brings no empty stretch and drops no byte
(`brings_looks`). The portions that the deliveries bring are what draining gives, one behind the
other (`flatten_portionsFrom`). Sorting the reports about both outputs by their moments leaves those
about one output in their order (`filter_mergeSort`), because a host tells what a program writes in
the order of time.
-/

set_option autoImplicit false

namespace ConsoleKeeper

namespace Output

/-! ### What a look brings -/

/-- The deliveries bring these bytes, in stretches of which none is empty. -/
def Brings (deliveries : List Delivery) (bytes : List UInt8) : Prop :=
  ∃ parts : List (List UInt8), (∀ part ∈ parts, part ≠ []) ∧ parts.flatten = bytes ∧
    deliveries = deliveriesOf parts none

/-- No delivery brings no byte. -/
theorem Brings.nil : Brings [] [] :=
  ⟨[], by simp, rfl, rfl⟩

/-- Deliveries one behind the other. -/
theorem Brings.append {first second : List Delivery} {bytes more : List UInt8}
    (hfirst : Brings first bytes) (hsecond : Brings second more) :
    Brings (first ++ second) (bytes ++ more) := by
  obtain ⟨parts, hfull, rfl, rfl⟩ := hfirst
  obtain ⟨others, hothers, rfl, rfl⟩ := hsecond
  refine ⟨parts ++ others, ?_, List.flatten_append, by simp [deliveriesOf]⟩
  intro part hpart
  obtain hpart | hpart := List.mem_append.mp hpart
  · exact hfull part hpart
  · exact hothers part hpart

/-- Fuel for each byte is enough to bring all of them. -/
theorem brings_stretchesFrom {fuel : Nat} {bytes : List UInt8} (h : bytes.length ≤ fuel) :
    Brings (stretchesFrom fuel bytes) bytes := by
  induction fuel generalizing bytes with
  | zero =>
    obtain rfl := List.eq_nil_of_length_eq_zero (Nat.le_zero.mp h)
    exact .nil
  | succ fuel ih =>
    rw [stretchesFrom]
    split
    · next hempty =>
      obtain rfl := List.isEmpty_iff.mp hempty
      exact .nil
    · next hfull =>
      have hne : bytes ≠ [] := fun hnil => hfull (List.isEmpty_iff.mpr hnil)
      have hpos : 0 < bytes.length := List.length_pos_iff.mpr hne
      -- A stretch takes at least one byte, so the fuel is enough for the rest.
      have hrest : (bytes.drop stretchLimit).length ≤ fuel := by
        simp only [List.length_drop, stretchLimit]
        omega
      have hone : Brings [.bytes (bytes.take stretchLimit)] (bytes.take stretchLimit) :=
        ⟨[bytes.take stretchLimit], by simpa [stretchLimit] using hne, by simp, rfl⟩
      have hall := hone.append (ih hrest)
      rwa [List.take_append_drop] at hall

/-- Bytes of one moment come in stretches. -/
theorem brings_stretches (bytes : List UInt8) : Brings (stretches bytes) bytes :=
  brings_stretchesFrom (Nat.le_refl bytes.length)

/-- Putting together the writes of a moment leaves their bytes as they are. -/
theorem flatMap_gathered (said : List (Moment × List UInt8)) :
    (gathered said).flatMap (·.2) = said.flatMap (·.2) := by
  induction said with
  | nil => rfl
  | cons write rest ih =>
    obtain ⟨moment, bytes⟩ := write
    rw [List.flatMap_cons, ← ih, gathered]
    split
    · next next more others hgathered =>
      rw [hgathered]
      split <;> simp
    · next hgathered => simp [hgathered]

/-- Putting together the writes of a moment leaves out moments and adds none. -/
theorem gathered_sublist (said : List (Moment × List UInt8)) :
    ((gathered said).map (·.1)).Sublist (said.map (·.1)) := by
  induction said with
  | nil => exact .slnil
  | cons write rest ih =>
    obtain ⟨moment, bytes⟩ := write
    rw [gathered]
    split
    · next next more others hgathered =>
      rw [hgathered] at ih
      -- Two writes of one moment become one, and one of the two moments goes.
      split
      · exact (List.sublist_of_cons_sublist ih).cons_cons moment
      · exact ih.cons_cons moment
    · exact (List.nil_sublist _).cons_cons moment

/-- The looks at an output bring what was written to it. -/
theorem brings_looks (said : List (Moment × List UInt8)) :
    Brings ((looks said).map (·.2)) (said.flatMap (·.2)) := by
  rw [← flatMap_gathered said, looks]
  induction gathered said with
  | nil => exact .nil
  | cons write rest ih =>
    have hfirst : ((stretches write.2).map fun d => (write.1, d)).map (·.2) = stretches write.2 := by
      simp [Function.comp_def]
    rw [List.flatMap_cons, List.map_append, List.flatMap_cons, hfirst]
    exact (brings_stretches write.2).append ih

/-- Each look is at a moment at which something was written. -/
theorem moment_mem_of_mem_looks {said : List (Moment × List UInt8)} {look : Moment × Delivery}
    (h : look ∈ looks said) : look.1 ∈ said.map (·.1) := by
  obtain ⟨write, hwrite, hlook⟩ := List.mem_flatMap.mp h
  obtain ⟨delivery, -, rfl⟩ := List.mem_map.mp hlook
  exact (gathered_sublist said).subset (List.mem_map.mpr ⟨write, hwrite, rfl⟩)

/-- Looks come in the order in which was written. -/
theorem pairwise_looks {said : List (Moment × List UInt8)}
    (h : (said.map (·.1)).Pairwise (· ≤ ·)) : ((looks said).map (·.1)).Pairwise (· ≤ ·) := by
  have hgathered := List.pairwise_map.mp (h.sublist (gathered_sublist said))
  rw [List.pairwise_map, looks, List.pairwise_flatMap]
  constructor
  · -- The stretches of one write are all of its moment.
    rintro write -
    rw [List.pairwise_map]
    exact List.pairwise_of_forall fun _ _ => Nat.le_refl write.1
  · refine hgathered.imp fun hle look hlook other hother => ?_
    obtain ⟨delivery, -, rfl⟩ := List.mem_map.mp hlook
    obtain ⟨delivery, -, rfl⟩ := List.mem_map.mp hother
    exact hle

/-! ### What the deliveries bring -/

/-- The portions put together are what draining gives. -/
theorem flatten_portionsFrom (limit : Nat) (secrets : List (List UInt8)) (pending : List UInt8)
    (deliveries : List Delivery) :
    (portionsFrom limit secrets pending deliveries).flatten
      = drainFrom limit secrets pending deliveries := by
  -- Both go through the deliveries in the same way, and what waits is the same for both.
  induction deliveries generalizing pending with
  | nil => simp [portionsFrom, drainFrom]
  | cons delivery rest ih =>
    cases delivery with
    | refused message => simp [portionsFrom, drainFrom]
    | bytes stretch =>
      by_cases h : stretch.isEmpty = true
      · simp [portionsFrom, drainFrom, h]
      · simp [portionsFrom, drainFrom, h, ih]

/-- Each stretch brings a portion, and so does the end. -/
theorem length_portionsFrom (limit : Nat) (secrets : List (List UInt8)) (pending : List UInt8)
    {parts : List (List UInt8)} (h : ∀ part ∈ parts, part ≠ []) :
    (portionsFrom limit secrets pending (deliveriesOf parts none)).length = parts.length + 1 := by
  induction parts generalizing pending with
  | nil => rfl
  | cons part parts ih =>
    have hne : ¬part.isEmpty = true := by
      simpa using h part List.mem_cons_self
    have hrest := fun pending => ih pending fun other hother => h other (List.mem_cons_of_mem _ hother)
    simp only [deliveriesOf, List.map_cons, List.cons_append, portionsFrom, if_neg hne,
      List.length_cons] at hrest ⊢
    rw [hrest]

section Reports

variable {limit : Nat} {command : Command} {stream : OutputStream}
  {said : List (Moment × List UInt8)} {finish : Option Moment}

/-- There is a portion for each look, and one for the end. -/
theorem length_portions (limit : Nat) (secrets : List (List UInt8))
    (said : List (Moment × List UInt8)) :
    (portions limit secrets ((looks said).map (·.2))).length = (looks said).length + 1 := by
  obtain ⟨parts, hfull, -, hparts⟩ := brings_looks said
  have hlength : (looks said).length = parts.length := by
    simpa [deliveriesOf] using congrArg List.length hparts
  rw [hlength, hparts]
  exact length_portionsFrom limit secrets [] hfull

/-- Reports without their moments. -/
theorem map_snd_flatMap (f : Emission → Event) (pairs : List (Moment × List Emission)) :
    (pairs.flatMap fun (moment, portion) => portion.map fun emission => (moment, f emission)).map
      (·.2) = (pairs.map (·.2)).flatten.map f := by
  induction pairs with
  | nil => rfl
  | cons pair pairs ih => simp [ih]

/-- What is reported of an output that has ended are the events of its deliveries. -/
theorem map_snd_reports (limit : Nat) (command : Command) (stream : OutputStream)
    (said : List (Moment × List UInt8)) (finish : Moment) :
    (reports limit command stream said (some finish)).map (·.2) =
      events limit command stream ((looks said).map (·.2)) := by
  have hlength := length_portions limit (secretBytes command.secrets) said
  simp only [reports]
  rw [map_snd_flatMap, List.map_snd_zip (by simp [hlength]), portions, flatten_portionsFrom]
  rfl

/-- Of what is paired off, the second parts are the first of the second list. -/
theorem map_snd_zip_initial {α β : Type} (firsts : List α) (seconds : List β) :
    (firsts.zip seconds).map (·.2) <+: seconds := by
  induction firsts generalizing seconds with
  | nil => exact List.nil_prefix
  | cons first firsts ih =>
    cases seconds with
    | nil => exact List.nil_prefix
    | cons second seconds => exact List.cons_prefix_cons.mpr ⟨rfl, ih seconds⟩

/-- What is reported of an output, ended or not, are the first events of its deliveries. -/
theorem map_snd_reports_initial (limit : Nat) (command : Command) (stream : OutputStream)
    (said : List (Moment × List UInt8)) (finish : Option Moment) :
    (reports limit command stream said finish).map (·.2) <+:
      events limit command stream ((looks said).map (·.2)) := by
  simp only [reports]
  rw [map_snd_flatMap, events, drain, ← flatten_portionsFrom, ← portions]
  exact List.IsPrefix.map _ (List.IsPrefix.flatten (map_snd_zip_initial _ _))

/-- Reports come in the order of their moments. -/
theorem pairwise_reports (hsaid : (said.map (·.1)).Pairwise (· ≤ ·))
    (hfinish : ∀ moment ∈ finish, ∀ earlier ∈ said.map (·.1), earlier ≤ moment) :
    (reports limit command stream said finish).Pairwise fun a b => a.1 ≤ b.1 := by
  have hlength := length_portions limit (secretBytes command.secrets) said
  have hmoments : ((looks said).map (·.1) ++ finish.toList).Pairwise (· ≤ ·) := by
    refine List.pairwise_append.mpr ⟨pairwise_looks hsaid, ?_, ?_⟩
    · cases finish <;> simp
    · intro moment hmoment last hlast
      obtain ⟨look, hlook, rfl⟩ := List.mem_map.mp hmoment
      exact hfinish last (Option.mem_toList.mp hlast) _ (moment_mem_of_mem_looks hlook)
  simp only [reports]
  -- Reports of one look have its moment. Reports of two looks are ordered as the looks are, and
  -- the last look is that at the end.
  rw [List.pairwise_flatMap]
  constructor
  · rintro pair -
    rw [List.pairwise_map]
    exact List.pairwise_of_forall fun _ _ => Nat.le_refl pair.1
  · have hzip : ((looks said).map (·.1) ++ finish.toList).length ≤
        (portions limit (secretBytes command.secrets) ((looks said).map (·.2))).length := by
      rw [hlength]
      cases finish <;> simp
    rw [← List.map_fst_zip hzip, List.pairwise_map] at hmoments
    refine hmoments.imp fun hle report hreport other hother => ?_
    obtain ⟨emission, -, rfl⟩ := List.mem_map.mp hreport
    obtain ⟨emission, -, rfl⟩ := List.mem_map.mp hother
    exact hle

end Reports

end Output

/-! ### Two outputs in one journal -/

/-- Whether an event is about an output of a command. -/
def Event.concerns (stream : OutputStream) : Event → Bool
  | .outputLine of _ _ | .outputUnread of _ _ => of = stream
  | _ => false

/-- What is reported about an output is about that one and no other. -/
@[simp] theorem concerns_eventOf (stream of : OutputStream) (command : Command)
    (emission : Output.Emission) :
    (Output.eventOf command of emission).concerns stream = decide (of = stream) := by
  cases emission <;> rfl

/-- A sort that leaves equals as they are changes nothing among what is in order already. -/
theorem filter_mergeSort {α : Type} {le : α → α → Bool} {p : α → Bool} {items : List α}
    (trans : ∀ a b c, le a b → le b c → le a c) (total : ∀ a b, le a b || le b a)
    (h : (items.filter p).Pairwise fun a b => le a b) :
    (items.mergeSort le).filter p = items.filter p := by
  have hkept := (List.sublist_mergeSort trans total h List.filter_sublist).filter p
  rw [List.filter_filter] at hkept
  simp only [Bool.and_self] at hkept
  have hlength := ((List.mergeSort_perm items le).filter p).length_eq
  exact (hkept.eq_of_length hlength.symm).symm

/-- A host tells what is written to an output in the order of time, and nothing behind the end. -/
structure Conduct.Timely (conduct : Conduct) : Prop where
  ordered : ∀ stream, ((conduct.said stream).map (·.1)).Pairwise (· ≤ ·)
  ended : ∀ ending ∈ conduct.ending, ∀ stream, ∀ moment ∈ (conduct.said stream).map (·.1),
    moment ≤ ending.moment

/-- A program that writes to both outputs and then ends tells them in the order of time. -/
example : Conduct.Timely
    { utterances := [⟨1, .stdout, [104, 105]⟩, ⟨2, .stderr, [33]⟩, ⟨2, .stdout, [10]⟩]
      ending := some ⟨3, 0⟩
      files := default } where
  ordered stream := by cases stream <;> decide
  ended ending hending stream := by
    obtain rfl := Option.some.inj hending
    cases stream <;> decide

namespace Supervision

variable {s : Supervision} {command : Command} {conduct : Conduct}

/-- Of the reports about one output, all are about it and none about another. -/
theorem filter_reports (limit : Nat) (command : Command) (of stream : OutputStream)
    (said : List (Moment × List UInt8)) (finish : Option Moment) :
    (Output.reports limit command of said finish).filter (·.2.concerns stream) =
      if of = stream then Output.reports limit command of said finish else [] := by
  have hconcerns : ∀ report ∈ Output.reports limit command of said finish,
      report.2.concerns stream = decide (of = stream) := by
    intro report hreport
    simp only [Output.reports, List.mem_flatMap, List.mem_map] at hreport
    obtain ⟨portion, -, emission, -, rfl⟩ := hreport
    exact concerns_eventOf stream of command emission
  split
  · next hof =>
    exact List.filter_eq_self.mpr fun report hreport => by simp [hconcerns report hreport, hof]
  · next hof =>
    exact List.filter_eq_nil_iff.mpr fun report hreport => by simp [hconcerns report hreport, hof]

/-- What is told about one output is what is reported about it, whatever the other output brings in
between. -/
theorem filter_outputEvents (h : conduct.Timely) (stream : OutputStream) :
    (s.outputEvents command conduct).filter (·.concerns stream) =
      (Output.reports s.lineLimit command stream (conduct.said stream)
        (conduct.ending.map (·.moment))).map (·.2) := by
  let reports (of : OutputStream) : List (Moment × Event) :=
    Output.reports s.lineLimit command of (conduct.said of) (conduct.ending.map (·.moment))
  have hone : (reports .stdout ++ reports .stderr).filter (·.2.concerns stream) =
      reports stream := by
    rw [List.filter_append, filter_reports, filter_reports]
    cases stream <;> simp [reports]
  have hordered : (reports stream).Pairwise fun a b => a.1 ≤ b.1 := by
    refine Output.pairwise_reports (h.ordered stream) ?_
    intro moment hmoment
    obtain ⟨ending, hending, rfl⟩ := Option.map_eq_some_iff.mp hmoment
    exact h.ended ending hending stream
  -- The merge is stable, so the reports of one stream keep the order they had, in which their
  -- moments do not fall.
  have hsorted : ((reports .stdout ++ reports .stderr).mergeSort fun a b => a.1 ≤ b.1).filter
      (·.2.concerns stream) = reports stream := by
    rw [filter_mergeSort (by simpa using fun _ _ _ => Nat.le_trans)
      (by simpa using fun _ _ => Nat.le_total _ _) (by simpa [hone] using hordered), hone]
  rw [outputEvents, List.filter_map]
  exact congrArg _ hsorted

end Supervision

/-! ### The run of a command -/

section Told

variable {κ ρ α β : Type}

/-- The entries of the journal about an output. -/
def World.told (w : World κ ρ) (stream : OutputStream) : List Event :=
  w.journal.toList.filter (·.concerns stream)

/-- An action that tells nothing about any output, however it ends. -/
def Act.Mute (action : Act κ ρ α) : Prop :=
  ∀ w stream, (action.runOn w).2.told stream = w.told stream

/-- A value tells nothing. -/
theorem Act.Mute.pure (a : α) : Mute (Pure.pure a : Act κ ρ α) :=
  fun _ _ => rfl

/-- A failure tells nothing. -/
theorem Act.Mute.fail (failure : Failure) : Mute (Act.fail failure : Act κ ρ α) :=
  fun _ _ => rfl

/-- A report of something else tells nothing about an output. -/
theorem Act.Mute.report {event : Event} (h : ∀ stream, event.concerns stream = false) :
    Mute (Act.report event : Act κ ρ Unit) := by
  intro w stream
  simp [World.told, h stream]

/-- Two actions in a row tell nothing if neither does. -/
theorem Act.Mute.bind {m : Act κ ρ α} {f : α → Act κ ρ β} (hm : Mute m) (hf : ∀ a, Mute (f a)) :
    Mute (m >>= f) := by
  intro w stream
  have hfirst := hm w stream
  rw [Act.runOn_bind]
  rcases hrun : m.runOn w with ⟨failure | a, w'⟩ <;> rw [hrun] at hfirst
  · exact hfirst
  · exact (hf a w' stream).trans hfirst

/-- Reports in front of an action that tells nothing. -/
theorem Act.Mute.told_reports {next : Act κ ρ α} (h : Mute next) (files : Tree)
    (events : List Event) (w : World κ ρ) (stream : OutputStream) :
    ((do
      Act.change fun world => { world with files }
      events.forM Act.report
      next : Act κ ρ α).runOn w).2.told stream =
        w.told stream ++ events.filter (·.concerns stream) := by
  rw [Act.runOn_bind_ok _ (Act.runOn_change _ w),
    Act.runOn_bind_ok _ (Act.runOn_forM_report events _), h]
  simp [World.told]

end Told

namespace Supervision

variable {κ ρ : Type} {s : Supervision} {command : Command} {conduct : Conduct}

/-- Stopping a command tells nothing about what it wrote. -/
theorem mute_stop (s : Supervision) (command : Command) :
    Act.Mute (s.stop command : Act κ ρ CommandResult) := by
  unfold stop
  split
  · exact .bind (.report fun _ => rfl) fun _ => .fail _
  · exact .fail _

/-- Following a command tells about an output what is reported about it, and nothing else. -/
theorem told_follow (h : conduct.Timely) (stream : OutputStream) (w : World κ ρ) :
    ((s.follow command conduct).runOn w).2.told stream =
      w.told stream ++ (Output.reports s.lineLimit command stream (conduct.said stream)
        (conduct.ending.map (·.moment))).map (·.2) := by
  refine (Act.Mute.told_reports ?_ conduct.files _ w stream).trans
    (congrArg _ (filter_outputEvents h stream))
  -- However the command ends, its end is told by entries about no output.
  cases conduct.ending with
  | none => exact mute_stop s command
  | some ending =>
    dsimp only
    split
    · exact .bind (.report fun _ => rfl) fun _ => .pure _
    · exact .bind (.report fun _ => rfl) fun _ => .fail _

/-- A command that the host starts tells about an output what is reported about it. -/
theorem told_run (hpassable : command.isPassable) {w : World κ ρ}
    (hhost : s.host w.files (s.launch command) s.watchedUntil = .ok conduct)
    (h : conduct.Timely) (stream : OutputStream) :
    ((s.run command).runOn w).2.told stream =
      w.told stream ++ (Output.reports s.lineLimit command stream (conduct.said stream)
        (conduct.ending.map (·.moment))).map (·.2) := by
  unfold run
  rw [Act.runOn_bind_ok _ (Act.runOn_report _ w), if_pos hpassable,
    Act.runOn_bind_ok _ (Act.runOn_look _)]
  dsimp only
  rw [hhost]
  dsimp only
  rw [told_follow h stream]
  -- The report of the start is about no output.
  have hstart : Act.Mute (Act.report (.commandStarting command.display) : Act κ ρ Unit) :=
    .report fun _ => rfl
  exact congrArg (· ++ _) (hstart w stream)

/-- What one output of a command has of the journal. The host starts the command and tells what it
writes in the order of time. Then there are stretches, none of them empty, that together are what
the command wrote to the output. If the command ended, the entries that its run adds about the
output are the events of these stretches, and of nothing else. If nobody waited for its end, they
are the first of these events. -/
theorem run_tells_output (hpassable : command.isPassable) {w : World κ ρ}
    (hhost : s.host w.files (s.launch command) s.watchedUntil = .ok conduct)
    (h : conduct.Timely) (stream : OutputStream) :
    ∃ stretches : List (List UInt8), (∀ stretch ∈ stretches, stretch ≠ []) ∧
      stretches.flatten = (conduct.said stream).flatMap (·.2) ∧
      ∃ entries, ((s.run command).runOn w).2.told stream = w.told stream ++ entries ∧
        entries <+: Output.events s.lineLimit command stream (Output.deliveriesOf stretches none) ∧
        (conduct.ending.isSome → entries =
          Output.events s.lineLimit command stream (Output.deliveriesOf stretches none)) := by
  obtain ⟨stretches, hfull, hsaid, hlooks⟩ := Output.brings_looks (conduct.said stream)
  -- A run that is cut off has told a first part of the events. If the program ended, the last
  -- look has told the rest.
  refine ⟨stretches, hfull, hsaid, _, told_run hpassable hhost h stream, ?_, ?_⟩
  · rw [← hlooks]
    exact Output.map_snd_reports_initial s.lineLimit command stream (conduct.said stream) _
  · intro hended
    obtain ⟨ending, hending⟩ := Option.isSome_iff_exists.mp hended
    rw [← hlooks, hending]
    exact Output.map_snd_reports s.lineLimit command stream (conduct.said stream) ending.moment

/-- Nothing that a command writes is lost on the way into the journal. The lines that the run of a
command adds about one of its outputs are those of pieces that make up what it wrote there, if it
ended. -/
theorem run_keeps_output (hpassable : command.isPassable) {w : World κ ρ}
    (hhost : s.host w.files (s.launch command) s.watchedUntil = .ok conduct)
    (h : conduct.Timely) (hended : conduct.ending.isSome) (stream : OutputStream) :
    ∃ pieces : List Output.Piece,
      pieces.flatMap Output.Piece.source = (conduct.said stream).flatMap (·.2) ∧
      Output.linesOf (((s.run command).runOn w).2.told stream) =
        Output.linesOf (w.told stream) ++
          pieces.map fun piece => (Output.shown command.secrets piece.bytes).toList := by
  obtain ⟨stretches, hfull, hsaid, entries, htold, -, hentries⟩ :=
    run_tells_output hpassable hhost h stream
  refine ⟨Output.piecesOf (Output.drain s.lineLimit (Output.secretBytes command.secrets)
    (Output.deliveriesOf stretches none)), ?_, ?_⟩
  · have hsource := Output.drainFrom_source s.lineLimit (Output.secretBytes command.secrets) []
      (Output.deliveriesOf stretches none)
    rwa [List.nil_append, Output.received_deliveriesOf hfull, hsaid] at hsource
  · rw [htold, hentries hended, ← Output.linesOf_events s.lineLimit command stream]
    exact List.filterMap_append

end Supervision

end ConsoleKeeper
