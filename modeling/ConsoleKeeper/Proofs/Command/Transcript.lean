import ConsoleKeeper.Proofs.Command.Capping
import ConsoleKeeper.Proofs.Command.Masking

/-!
# `ConsoleKeeper.Proofs.Command.Transcript`: secrets across lines

The lines that are shown of an output are masked one by one. Whoever reads them one under the other
reads a text that nobody has masked: the `transcript`.

A secret without a newline lies in one line, and there it is masked. One with a newline is looked
for in lines that have none, so masking does not find it. All that can hide it is that lines lose
the carriage returns at their ends: a secret in which a newline follows a carriage return is in no
transcript. These are the secrets that are `Sheltered`.

`transcripts_hide_iff_sheltered` is the whole answer. A sheltered secret without a star is in no
transcript of a command that has it as a secret. Any other secret with a newline is in the
transcript of each output that consists of it and one more character, however the output is
delivered and long lines are cut.
-/

set_option autoImplicit false

namespace ConsoleKeeper.Output

/-! ### Lines under one another -/

section Lines

variable {lines : List (List Char)} {needle : List Char}

/-- A needle without a newline lies in one of the lines. -/
theorem exists_infix_of_infix_flatMap (hneedle : needle ≠ []) (hopen : '\n' ∉ needle)
    (h : needle <:+: lines.flatMap (· ++ ['\n'])) : ∃ line ∈ lines, needle <:+: line := by
  induction lines with
  | nil => exact absurd (List.infix_nil.mp h) hneedle
  | cons line lines ih =>
    rw [List.flatMap_cons, List.append_assoc] at h
    obtain h | h := Text.infix_of_infix_append_append hneedle (List.cons_ne_nil '\n' [])
      (by simpa using hopen) h
    · exact ⟨line, List.mem_cons_self, h⟩
    · obtain ⟨other, hmem, hother⟩ := ih h
      exact ⟨other, List.mem_cons_of_mem line hmem, hother⟩

/-- A carriage return in front of the only newline stands at the end of the line. -/
theorem getLast?_of_infix_append {line : List Char} (hopen : '\n' ∉ line)
    (h : ['\r', '\n'] <:+: line ++ ['\n']) : line.getLast? = some '\r' := by
  obtain ⟨before, after, h⟩ := h
  obtain rfl | ⟨after, c, rfl⟩ := List.eq_nil_or_concat after
  · rw [List.append_nil, ← List.singleton_append (l := ['\n']), ← List.append_assoc] at h
    rw [← List.append_cancel_right h, List.getLast?_concat]
  · -- The newline would stand inside the line.
    rw [List.concat_eq_append, ← List.append_assoc] at h
    rw [← (List.append_inj' h rfl).1] at hopen
    simp at hopen

/-- A carriage return in front of a newline ends a line. -/
theorem exists_getLast?_of_infix_flatMap (hopen : ∀ line ∈ lines, '\n' ∉ line)
    (h : ['\r', '\n'] <:+: lines.flatMap (· ++ ['\n'])) :
    ∃ line ∈ lines, line.getLast? = some '\r' := by
  induction lines with
  | nil => cases List.infix_nil.mp h
  | cons line lines ih =>
    have hline := hopen line List.mem_cons_self
    have hlater (hrest : ['\r', '\n'] <:+: lines.flatMap (· ++ ['\n'])) :
        ∃ other ∈ line :: lines, other.getLast? = some '\r' := by
      obtain ⟨other, hmem, hlast⟩ := ih (fun l hl => hopen l (List.mem_cons_of_mem line hl)) hrest
      exact ⟨other, List.mem_cons_of_mem line hmem, hlast⟩
    rw [List.flatMap_cons] at h
    obtain h | h | ⟨before, after, hneedle, hbefore, hafter⟩ := List.infix_append_iff.mp h
    · exact ⟨line, List.mem_cons_self, getLast?_of_infix_append hline h⟩
    · exact hlater h
    · -- The border is behind a newline, so the two do not lie on different sides of it.
      match before, hneedle with
      | [], hneedle =>
        rw [List.nil_append] at hneedle
        exact hlater (hneedle ▸ hafter.isInfix)
      | [c], hneedle =>
        obtain ⟨rfl, -⟩ := List.cons.inj hneedle
        have hlast := hbefore.getLast (List.cons_ne_nil _ _)
        simp at hlast
      | c :: d :: before, hneedle =>
        obtain ⟨rfl, rfl, rfl, -⟩ : '\r' = c ∧ '\n' = d ∧ before = [] ∧ after = [] := by
          simpa using hneedle
        exact ⟨line, List.mem_cons_self, getLast?_of_infix_append hline hbefore.isInfix⟩

end Lines

/-! ### What a piece has and what is shown of it -/

variable {limit : Nat} {secrets : List (List UInt8)} {pending bytes : List UInt8}

/-- The bytes of a piece are bytes of the output that it stands for. -/
theorem Piece.bytes_subset (piece : Piece) : piece.bytes ⊆ piece.source := by
  cases piece with
  | line bytes => exact List.subset_append_left bytes [10]
  | part bytes => exact List.Subset.refl bytes

/-- No piece that a stretch brings has a newline, and neither has what waits. -/
theorem feed_open (limit : Nat) (secrets : List (List UInt8)) (pending stretch : List UInt8) :
    (∀ piece ∈ (feed limit secrets pending stretch).1, 10 ∉ piece.bytes) ∧
      10 ∉ (feed limit secrets pending stretch).2 := by
  obtain ⟨lines, rest, h⟩ := exists_breaks (pending ++ stretch)
  have hcap := capFrom_source limit secrets rest.length rest
  have hopen := h.rest_open
  simp only [feed, h.finishedLines_eq, cap]
  constructor
  · intro piece hpiece hnewline
    obtain hpiece | hpiece := List.mem_append.mp hpiece
    · obtain ⟨line, hline, rfl⟩ := List.mem_map.mp hpiece
      exact h.lines_open line hline hnewline
    · -- A part is cut off what stands behind the last newline.
      have hsource := List.mem_flatMap.mpr ⟨piece, hpiece, piece.bytes_subset hnewline⟩
      rw [← hcap] at hopen
      exact hopen (List.mem_append_left _ hsource)
  · -- So is what waits: it is the end of that stretch.
    intro hnewline
    rw [← hcap] at hopen
    exact hopen (List.mem_append_right _ hnewline)

/-- No piece of an output has a newline. -/
theorem drainFrom_open (hpending : 10 ∉ pending) (deliveries : List Delivery) :
    ∀ piece ∈ piecesOf (drainFrom limit secrets pending deliveries), 10 ∉ piece.bytes :=
  forall_mem_piecesOf_drainFrom (fun pending stretch _ => feed_open limit secrets pending stretch)
    (fun _ hpending _ => hpending) hpending deliveries

/-- A line is shown without newlines if its bytes have none. -/
theorem newline_not_mem_shown (secrets : List String) (h : 10 ∉ bytes) :
    '\n' ∉ (shown secrets bytes).toList := by
  rw [shown, String.toList_ofList]
  refine Command.masked_induction (motive := fun text => '\n' ∉ text) (fun hmem => ?_)
    fun secret _ hne text htext hmem => ?_
  · exact Text.Utf8.newline_not_mem_decodeLossy h ((List.rdropWhile_prefix _ _).subset hmem)
  · obtain hmem | hmem := Text.mem_replaceAll (mt String.toList_eq_nil_iff.mp hne) hmem
    · exact htext hmem
    · simp [Command.mask] at hmem

/-- No line is shown with a carriage return at its end. -/
theorem getLast?_shown (secrets : List String) (bytes : List UInt8) :
    (shown secrets bytes).toList.getLast? ≠ some '\r' := by
  rw [shown, String.toList_ofList]
  refine Command.masked_induction (motive := fun text => text.getLast? ≠ some '\r')
    (fun hlast => ?_) fun secret _ hne text htext hlast => ?_
  · obtain ⟨hfull, hlast⟩ := List.mem_getLast?_eq_getLast hlast
    exact List.rdropWhile_last_not _ _ hfull (decide_eq_true hlast.symm)
  · obtain hlast | hlast :=
      Text.getLast?_replaceAll (mt String.toList_eq_nil_iff.mp hne) Command.mask_ne_nil hlast
    · exact htext hlast
    · simp [Command.mask] at hlast

/-! ### Transcripts -/

/-- The lines that events show. -/
def linesOf (events : List Event) : List (List Char) :=
  events.filterMap fun
    | .outputLine _ _ line => some line.toList
    | _ => none

/-- The lines that events show, each with a newline behind it. -/
def transcript (events : List Event) : List Char :=
  (linesOf events).flatMap (· ++ ['\n'])

/-- The lines that are shown of an output are its pieces. -/
theorem linesOf_events (limit : Nat) (command : Command) (stream : OutputStream)
    (deliveries : List Delivery) :
    linesOf (events limit command stream deliveries) =
      (piecesOf (drain limit (secretBytes command.secrets) deliveries)).map
        fun piece => (shown command.secrets piece.bytes).toList := by
  rw [linesOf, events, piecesOf, List.filterMap_map, List.map_filterMap]
  refine List.filterMap_congr fun emission _ => ?_
  cases emission <;> rfl

/-- The lines of an output whose lines are short. -/
theorem linesOf_map_lineEvent (command : Command) (stream : OutputStream)
    (lines : List (List UInt8)) :
    linesOf (lines.map (lineEvent command stream)) =
      lines.map fun line => (shown command.secrets line).toList := by
  rw [linesOf, List.filterMap_map, ← List.filterMap_eq_map]
  rfl

/-- A secret has no newline, or one behind a carriage return. -/
def Sheltered (secret : List Char) : Prop :=
  '\n' ∉ secret ∨ ['\r', '\n'] <:+: secret

instance (secret : List Char) : Decidable (Sheltered secret) :=
  inferInstanceAs (Decidable (_ ∨ _))

/-- No transcript has a sheltered secret of the command. -/
theorem not_infix_transcript {secret : String} (hne : secret ≠ "") (hstar : '*' ∉ secret.toList)
    (hsheltered : Sheltered secret.toList) (limit : Nat) {command : Command}
    (hmem : secret ∈ command.secrets) (stream : OutputStream) (deliveries : List Delivery) :
    ¬secret.toList <:+: transcript (events limit command stream deliveries) := by
  rw [transcript, linesOf_events]
  have hpieces : ∀ piece ∈ piecesOf (drain limit (secretBytes command.secrets) deliveries),
      10 ∉ piece.bytes := drainFrom_open List.not_mem_nil deliveries
  intro h
  -- A secret without a newline would be in one shown line. One with a carriage return before a
  -- newline would leave a line that ends with the carriage return, and none does.
  obtain hopen | hreturn := hsheltered
  · obtain ⟨line, hline, h⟩ :=
      exists_infix_of_infix_flatMap (mt String.toList_eq_nil_iff.mp hne) hopen h
    obtain ⟨piece, -, rfl⟩ := List.mem_map.mp hline
    rw [shown, String.toList_ofList] at h
    exact Command.not_infix_masked hmem hne hstar _ h
  · obtain ⟨line, hline, hlast⟩ := exists_getLast?_of_infix_flatMap (by
      intro line hline
      obtain ⟨piece, hpiece, rfl⟩ := List.mem_map.mp hline
      exact newline_not_mem_shown _ (hpieces piece hpiece)) (hreturn.trans h)
    obtain ⟨piece, -, rfl⟩ := List.mem_map.mp hline
    exact getLast?_shown _ _ hlast

/-! ### Secrets that are not sheltered -/

/-- The bytes of lines and of a rest break where the lines end. -/
theorem breaks_encode {lines : List (List Char)} {rest : List Char}
    (hlines : ∀ line ∈ lines, '\n' ∉ line) (hrest : '\n' ∉ rest) :
    Breaks (Text.Utf8.encode (lines.flatMap (· ++ ['\n']) ++ rest))
      (lines.map Text.Utf8.encode) (Text.Utf8.encode rest) where
  eq_append := by
    simp only [Text.Utf8.encode, List.flatMap_append, List.flatMap_assoc, List.flatMap_map]
    rfl
  lines_open bytes hbytes hnewline := by
    obtain ⟨line, hline, rfl⟩ := List.mem_map.mp hbytes
    exact hlines line hline (Text.Utf8.mem_of_byte_mem_encode (n := 10) (by omega) hnewline)
  rest_open hnewline :=
    hrest (Text.Utf8.mem_of_byte_mem_encode (n := 10) (by omega) hnewline)

/-- A line that is the form of a text is shown as that text if there is nothing to take off or to
mask. -/
theorem shown_encode {secrets : List String} {line : List Char}
    (hlast : line.getLast? ≠ some '\r')
    (hclean : ∀ secret ∈ secrets, secret ≠ "" → ¬secret.toList <:+: line) :
    (shown secrets (Text.Utf8.encode line)).toList = line := by
  rw [shown, String.toList_ofList, Text.Utf8.decodeLossy_encode,
    Text.trimRight_eq_self_iff.mpr hlast, Command.masked_eq_self hclean]

/-- The parts of an unsheltered secret: lines that do not end with carriage returns, and a rest. -/
theorem exists_lines_of_not_sheltered {secret : List Char} (h : ¬Sheltered secret) :
    ∃ lines rest, secret = lines.flatMap (· ++ ['\n']) ++ rest ∧ lines ≠ [] ∧
      (∀ line ∈ lines, '\n' ∉ line ∧ line.getLast? ≠ some '\r') ∧ '\n' ∉ rest := by
  obtain ⟨hnewline, hreturn⟩ := not_or.mp h
  obtain ⟨lines, rest, hjoined, hlines, hrest⟩ := Text.exists_flatMap_append '\n' secret
  refine ⟨lines, rest, hjoined, ?_, fun line hline => ⟨hlines line hline, fun hlast => ?_⟩, hrest⟩
  · rintro rfl
    rw [hjoined] at hnewline
    exact hnewline hrest
  · -- The newline of the line stands behind its carriage return.
    obtain ⟨start, rfl⟩ := List.getLast?_eq_some_iff.mp hlast
    obtain ⟨before, after, rfl⟩ := List.append_of_mem hline
    refine hreturn ?_
    rw [hjoined]
    refine ⟨before.flatMap (· ++ ['\n']) ++ start, after.flatMap (· ++ ['\n']) ++ rest, ?_⟩
    simp

/-- The output that is an unsheltered secret with one more character has short lines. -/
theorem short_of_not_sheltered {secret : String} {lines : List (List Char)} {rest : List Char}
    {limit : Nat} (hfull : secret ≠ "")
    (hjoined : secret.toList = lines.flatMap (· ++ ['\n']) ++ rest) (hne : lines ≠ [])
    (hlines : ∀ line ∈ lines, '\n' ∉ line) (hrest : '\n' ∉ rest) (hlimit : 1 ≤ limit) :
    Short (limit + longest (secretBytes [secret]))
      (Text.Utf8.encode (lines.flatMap (· ++ ['\n']) ++ (rest ++ ['x']))) := by
  have hinner := breaks_encode hlines hrest
  rw [← hjoined] at hinner
  have hlongest : (Text.Utf8.encode secret.toList).length ≤ longest (secretBytes [secret]) := by
    refine length_le_longest (List.mem_map_of_mem (List.mem_filter.mpr ⟨List.mem_cons_self, ?_⟩))
    simpa [String.isEmpty_iff] using hfull
  have hopen : '\n' ∉ rest ++ ['x'] := by simpa using hrest
  intro piece hpiece
  rw [(breaks_encode hlines hopen).splitOn] at hpiece
  obtain hpiece | hpiece := List.mem_append.mp hpiece
  · have hlt := hinner.length_lt hpiece
    omega
  · -- The character more takes no more room than the newline of the first line.
    obtain ⟨line, hline⟩ := List.exists_mem_of_ne_nil lines hne
    have hlt := hinner.length_lt (List.mem_map_of_mem hline)
    have hone : (Text.Utf8.encode (rest ++ ['x'])).length = (Text.Utf8.encode rest).length + 1 := by
      rw [Text.Utf8.encode, List.flatMap_append, List.length_append]
      rfl
    rw [List.mem_singleton.mp hpiece, hone]
    omega

/-- An unsheltered secret is shown with one more character behind it. -/
theorem transcript_of_not_sheltered {secret : String} (h : ¬Sheltered secret.toList) {limit : Nat}
    (hlimit : 1 ≤ limit) (program : String) (stream : OutputStream)
    {stretches : List (List UInt8)} (hstretches : ∀ stretch ∈ stretches, stretch ≠ [])
    (houtput : stretches.flatten = Text.Utf8.encode (secret.toList ++ ['x'])) :
    transcript (events limit { program, secrets := [secret] } stream (stretches.map .bytes)) =
      secret.toList ++ ['x', '\n'] := by
  have hnewline : '\n' ∈ secret.toList := not_not.mp (not_or.mp h).1
  obtain ⟨lines, rest, hjoined, hlines, hline, hrest⟩ := exists_lines_of_not_sheltered h
  have hopen : '\n' ∉ rest ++ ['x'] := by simpa using hrest
  have hbreaks := breaks_encode (fun line hmem => (hline line hmem).1) hopen
  have hfull : secret ≠ "" := by
    rintro rfl
    cases hnewline
  have hshort := short_of_not_sheltered hfull hjoined hlines
    (fun line hmem => (hline line hmem).1) hrest hlimit
  rw [hjoined, List.append_assoc] at houtput
  rw [← houtput] at hbreaks hshort
  have hwhole : wholeLines stretches.flatten =
      (lines ++ [rest ++ ['x']]).map Text.Utf8.encode := by
    have hlast : Text.Utf8.encode (rest ++ ['x']) ≠ [] := by
      rw [Ne, Text.Utf8.encode_eq_nil_iff]
      simp
    simp only [wholeLines, hbreaks.finishedLines_eq, List.isEmpty_iff, hlast, if_false,
      List.map_append, List.map_cons, List.map_nil]
  -- No line has the newline that the secret has, so nothing is masked.
  have hshown : ∀ line ∈ lines ++ [rest ++ ['x']],
      (shown [secret] (Text.Utf8.encode line)).toList = line := by
    intro line hmem
    refine shown_encode ?_ ?_
    · obtain hmem | hmem := List.mem_append.mp hmem
      · exact (hline line hmem).2
      · rw [List.mem_singleton.mp hmem, List.getLast?_concat]
        decide
    · intro other hother _ hinfix
      rw [List.mem_singleton.mp hother] at hinfix
      have hin := hinfix.subset hnewline
      obtain hmem | hmem := List.mem_append.mp hmem
      · exact (hline line hmem).1 hin
      · rw [List.mem_singleton.mp hmem] at hin
        exact hopen hin
  have hevents : linesOf ((wholeLines stretches.flatten).map
      (lineEvent { program, secrets := [secret] } stream)) = lines ++ [rest ++ ['x']] := by
    rw [linesOf_map_lineEvent, hwhole, List.map_map]
    exact (List.map_congr_left hshown).trans (List.map_id _)
  rw [events_of_short stream hstretches hshort, transcript, hevents, hjoined]
  simp

/-- Whether a secret without a star can be read in what is shown of outputs depends on its newlines.
A command that has a sheltered secret never has it in a transcript: a secret without a newline, or
with one behind a carriage return. Any other secret is in the transcript of the output that consists
of it and one more character, wherever the output is cut and however it is delivered. -/
theorem transcripts_hide_iff_sheltered (secret : String) (hne : secret ≠ "")
    (hstar : '*' ∉ secret.toList) :
    ((∀ limit command stream deliveries, 1 ≤ limit → secret ∈ command.secrets →
        ¬secret.toList <:+: transcript (events limit command stream deliveries)) ↔
      Sheltered secret.toList) ∧
    (¬Sheltered secret.toList → ∀ limit program stream (stretches : List (List UInt8)),
      1 ≤ limit → (∀ stretch ∈ stretches, stretch ≠ []) →
      stretches.flatten = Text.Utf8.encode (secret.toList ++ ['x']) →
        secret.toList <:+: transcript
          (events limit { program, secrets := [secret] } stream (stretches.map .bytes))) := by
  have hleak : ¬Sheltered secret.toList → ∀ limit program stream (stretches : List (List UInt8)),
      1 ≤ limit → (∀ stretch ∈ stretches, stretch ≠ []) →
      stretches.flatten = Text.Utf8.encode (secret.toList ++ ['x']) →
        secret.toList <:+: transcript
          (events limit { program, secrets := [secret] } stream (stretches.map .bytes)) := by
    intro h limit program stream stretches hlimit hstretches houtput
    rw [transcript_of_not_sheltered h hlimit program stream hstretches houtput]
    exact (List.prefix_append secret.toList ['x', '\n']).isInfix
  -- The leak is the converse too: one output in one stretch is enough to refute that all hide.
  refine ⟨⟨fun hhides => ?_, fun hsheltered limit command stream deliveries _ hmem => ?_⟩, hleak⟩
  · by_contra hopen
    refine hhides 1 { program := "", secrets := [secret] } .stdout _ (Nat.le_refl 1)
      List.mem_cons_self (hleak hopen 1 "" .stdout
        [Text.Utf8.encode (secret.toList ++ ['x'])] (Nat.le_refl 1) ?_ (List.append_nil _))
    intro stretch hstretch
    rw [List.mem_singleton.mp hstretch, Ne, Text.Utf8.encode_eq_nil_iff]
    simp
  · exact not_infix_transcript hne hstar hsheltered limit hmem stream deliveries

/-- A secret with a newline in the middle, and a line of output that has it. -/
theorem transcripts_hide_iff_sheltered_parted :
    ¬Sheltered "to\nken".toList ∧
      "to\nken".toList <:+: transcript
        (events 1 { program := "tell", secrets := ["to\nken"] } .stdout
          [.bytes [116, 111, 10, 107], .bytes [101, 110, 120]]) := by
  have hopen : ¬Sheltered "to\nken".toList := by decide
  refine ⟨hopen, (transcripts_hide_iff_sheltered "to\nken" (by decide) (by decide)).2 hopen 1 "tell"
    .stdout [[116, 111, 10, 107], [101, 110, 120]] (Nat.le_refl 1) (by decide) (by decide)⟩

/-- A token with a newline at its end is read in the line that it is. -/
theorem transcript_of_endedToken :
    let command : Command := { program := "oc", secrets := ["tok\n"] }
    '*' ∉ "tok\n".toList ∧ "tok\n" ∈ command.secrets ∧
      transcript (events defaultLimit command .stdout [.bytes [116, 111, 107, 10]]) =
        "tok\n".toList := by
  decide

end ConsoleKeeper.Output
