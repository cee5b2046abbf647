import ConsoleKeeper.Command.Output
import ConsoleKeeper.Proofs.Text.Split

/-!
# `ConsoleKeeper.Proofs.Command.Lines`: the lines of an output

Output comes in stretches that need not end where lines end. What stands behind the last newline of
a stretch waits for the next one. `Breaks` says what the finished lines of some bytes are and what
waits; it goes from a stretch to the next one (`Breaks.append`), so that it is the same for the
whole output as for its stretches one after the other.

`events_eq_lines` is the result. As long as no line reaches the length from which it is cut, the
events of an output are its lines: the output is split at its newlines, and each line is read as
text, loses the carriage returns at its end, and is masked. How the output was delivered makes no
difference.
-/

set_option autoImplicit false

namespace ConsoleKeeper.Output

variable {bytes rest : List UInt8} {lines : List (List UInt8)} {limit : Nat}
  {secrets : List (List UInt8)}

/-! ### Finished lines -/

/-- The bytes are lines, each with its newline behind it, and a rest without a newline. -/
structure Breaks (bytes : List UInt8) (lines : List (List UInt8)) (rest : List UInt8) : Prop where
  eq_append : bytes = lines.flatMap (· ++ [10]) ++ rest
  lines_open : ∀ line ∈ lines, 10 ∉ line
  rest_open : 10 ∉ rest

/-- Bytes without a newline are no line yet. -/
theorem breaks_of_not_mem (h : 10 ∉ rest) : Breaks rest [] rest :=
  ⟨rfl, fun _ hline => absurd hline List.not_mem_nil, h⟩

/-- The pieces between the newlines are the lines and the rest. -/
theorem Breaks.splitOn (h : Breaks bytes lines rest) : bytes.splitOn 10 = lines ++ [rest] := by
  rw [h.eq_append, Text.splitOn_flatMap_append h.lines_open, List.splitOn_eq_singleton h.rest_open]

/-- The finished lines are those between breaks. -/
theorem Breaks.finishedLines_eq (h : Breaks bytes lines rest) :
    finishedLines bytes = (lines, rest) := by
  simp only [finishedLines, Text.splitOn_eq, h.splitOn, List.dropLast_concat,
    List.getLast?_concat, Option.getD_some]

/-- There is one way to break bytes into lines. -/
theorem Breaks.unique {lines' : List (List UInt8)} {rest' : List UInt8}
    (h : Breaks bytes lines rest) (h' : Breaks bytes lines' rest') :
    lines = lines' ∧ rest = rest' :=
  Prod.mk.inj (h.finishedLines_eq.symm.trans h'.finishedLines_eq)

/-- All bytes can be broken into lines. -/
theorem exists_breaks (bytes : List UInt8) : ∃ lines rest, Breaks bytes lines rest := by
  obtain ⟨lines, rest, hjoined, hlines, hrest⟩ := Text.exists_flatMap_append 10 bytes
  exact ⟨lines, rest, hjoined, hlines, hrest⟩

/-- A line and the rest are shorter together than the bytes. -/
theorem Breaks.length_lt {line : List UInt8} (h : Breaks bytes lines rest) (hmem : line ∈ lines) :
    line.length + rest.length < bytes.length := by
  obtain ⟨before, after, rfl⟩ := List.append_of_mem hmem
  rw [h.eq_append]
  simp only [List.flatMap_append, List.flatMap_cons, List.length_append, List.length_singleton]
  omega

/-- What waits is broken together with what comes next. -/
theorem Breaks.append {more rest' : List UInt8} {lines' : List (List UInt8)}
    (h : Breaks bytes lines rest) (h' : Breaks (rest ++ more) lines' rest') :
    Breaks (bytes ++ more) (lines ++ lines') rest' where
  eq_append := by
    rw [h.eq_append, List.append_assoc, h'.eq_append, List.flatMap_append, List.append_assoc]
  lines_open line hline := by
    obtain hline | hline := List.mem_append.mp hline
    · exact h.lines_open line hline
    · exact h'.lines_open line hline
  rest_open := h'.rest_open

/-- Nothing behind the last newline is no line. -/
theorem wholeLines_eq (bytes : List UInt8) :
    wholeLines bytes =
      if (bytes.splitOn 10).getLast? = some [] then (bytes.splitOn 10).dropLast
      else bytes.splitOn 10 := by
  obtain ⟨lines, rest, h⟩ := exists_breaks bytes
  simp only [wholeLines, h.finishedLines_eq, h.splitOn, List.getLast?_concat, List.dropLast_concat,
    Option.some.injEq, List.isEmpty_iff]

/-! ### Short lines -/

/-- Every line of the bytes is shorter than a bound, what stands behind the last newline too. -/
def Short (bound : Nat) (bytes : List UInt8) : Prop :=
  ∀ line ∈ bytes.splitOn 10, line.length < bound

instance (bound : Nat) (bytes : List UInt8) : Decidable (Short bound bytes) :=
  List.decidableBAll _ _

/-- Where all lines of the output are short, what waits is short, and so are the lines that it is
the start of. -/
theorem Short.of_append {bound : Nat} {more : List UInt8} (h : Short bound (bytes ++ more))
    (hbreaks : Breaks bytes lines rest) : Short bound (rest ++ more) ∧ rest.length < bound := by
  have hpieces : (bytes ++ more).splitOn 10 = lines ++ (rest ++ more).splitOn 10 := by
    rw [hbreaks.eq_append, List.append_assoc, Text.splitOn_flatMap_append hbreaks.lines_open]
  have hshort : Short bound (rest ++ more) := by
    intro line hline
    exact h line (by rw [hpieces]; exact List.mem_append_right lines hline)
  refine ⟨hshort, ?_⟩
  -- The rest is the start of the first line that is still to come.
  rw [Short, Text.splitOn_append_of_not_mem hbreaks.rest_open] at hshort
  cases hmore : more.splitOn 10 with
  | nil => exact absurd hmore (List.splitOn_ne_nil 10 more)
  | cons first others =>
    rw [hmore] at hshort
    have hfirst := hshort (rest ++ first) List.mem_cons_self
    rw [List.length_append] at hfirst
    omega

/-- No part is cut off a line that is not too long. -/
theorem cap_of_lt (h : rest.length < limit + longest secrets) :
    cap limit secrets rest = ([], rest) := by
  unfold cap
  cases rest.length with
  | zero => rfl
  | succ fuel => rw [capFrom, if_pos h]

/-- A stretch after which no line is too long brings the lines that it finishes. -/
theorem feed_of_lt {pending stretch : List UInt8} (h : Breaks (pending ++ stretch) lines rest)
    (hlt : rest.length < limit + longest secrets) :
    feed limit secrets pending stretch = (lines.map .line, rest) := by
  simp only [feed, h.finishedLines_eq, cap_of_lt hlt, List.append_nil]

/-- Where all lines are short, draining gives the lines of what waits and of all stretches together,
and then what is left. -/
theorem drainFrom_of_short {pending : List UInt8} {stretches : List (List UInt8)}
    (hpending : 10 ∉ pending) (hstretches : ∀ stretch ∈ stretches, stretch ≠ [])
    (hshort : Short (limit + longest secrets) (pending ++ stretches.flatten))
    (hbreaks : Breaks (pending ++ stretches.flatten) lines rest) :
    drainFrom limit secrets pending (stretches.map .bytes) =
      lines.map (fun line => .piece (.line line)) ++ leftover rest := by
  induction stretches generalizing pending lines rest with
  | nil =>
    rw [List.flatten_nil, List.append_nil] at hbreaks
    obtain ⟨rfl, rfl⟩ := (breaks_of_not_mem hpending).unique hbreaks
    rfl
  | cons stretch stretches ih =>
    have hne : stretch ≠ [] := hstretches stretch List.mem_cons_self
    rw [List.flatten_cons, ← List.append_assoc] at hshort hbreaks
    -- The lines that this stretch finishes come first; what it leaves waits for the next ones.
    obtain ⟨finished, waiting, hfirst⟩ := exists_breaks (pending ++ stretch)
    obtain ⟨hlater, hlt⟩ := hshort.of_append hfirst
    obtain ⟨others, last, hothers⟩ := exists_breaks (waiting ++ stretches.flatten)
    obtain ⟨rfl, rfl⟩ := (hfirst.append hothers).unique hbreaks
    have hrest := ih hfirst.rest_open
      (fun s hs => hstretches s (List.mem_cons_of_mem stretch hs)) hlater hothers
    simp only [List.map_cons, drainFrom, List.isEmpty_iff, hne, if_false, feed_of_lt hfirst hlt,
      hrest, List.map_append, List.map_map, List.append_assoc]
    rfl

/-- The event of a line of output. -/
def lineEvent (command : Command) (stream : OutputStream) (line : List UInt8) : Event :=
  .outputLine stream command.program (shown command.secrets line)

/-- The events of an output whose lines are short. -/
theorem events_of_short {command : Command} (stream : OutputStream) {stretches : List (List UInt8)}
    (hstretches : ∀ stretch ∈ stretches, stretch ≠ [])
    (hshort : Short (limit + longest (secretBytes command.secrets)) stretches.flatten) :
    events limit command stream (stretches.map .bytes) =
      (wholeLines stretches.flatten).map (lineEvent command stream) := by
  obtain ⟨lines, rest, h⟩ := exists_breaks stretches.flatten
  have hdrain := drainFrom_of_short List.not_mem_nil hstretches hshort h
  rw [events, drain, hdrain]
  simp only [wholeLines, h.finishedLines_eq, leftover]
  split <;> simp [lineEvent, eventOf, Piece.bytes]

/-- Where the deliveries of an output end does not show. If every line of an output is shorter than
the limit and the longest secret together, then its events are its lines. The output is split at its
newlines, without the last piece if that is empty; each line is read as text, loses the carriage
returns at its end, and is masked. Another delivery of the same output has the same events. -/
theorem events_eq_lines (limit : Nat) (command : Command) (stream : OutputStream)
    (stretches : List (List UInt8)) (hstretches : ∀ stretch ∈ stretches, stretch ≠ [])
    (hshort : Short (limit + longest (secretBytes command.secrets)) stretches.flatten) :
    let pieces := stretches.flatten.splitOn 10
    let lines := if pieces.getLast? = some [] then pieces.dropLast else pieces
    (events limit command stream (stretches.map .bytes) =
      lines.map fun line => .outputLine stream command.program (String.ofList
        (Command.masked command.secrets
          (Text.trimRight (· = '\r') (Text.Utf8.decodeLossy line))))) ∧
      ∀ others : List (List UInt8), (∀ stretch ∈ others, stretch ≠ []) →
        others.flatten = stretches.flatten →
          events limit command stream (others.map .bytes) =
            events limit command stream (stretches.map .bytes) := by
  intro pieces lines
  have hevents := events_of_short stream hstretches hshort
  refine ⟨?_, fun others hothers hsame => ?_⟩
  · rw [hevents, wholeLines_eq]
    rfl
  · rw [hevents, events_of_short stream hothers (hsame ▸ hshort), hsame]

/-- A command with a secret. -/
def telling : Command where
  program := "tell"
  secrets := ["ab"]

/-- Four lines. The stretches end inside a secret, inside a character, and before a newline. -/
def brokenOutput : List (List UInt8) :=
  [[116, 111, 97], [98, 13, 10, 10, 195], [169, 10, 97, 98]]

/-- The lines of this output, the last of which no newline ends. -/
theorem events_eq_lines_brokenOutput :
    (∀ stretch ∈ brokenOutput, stretch ≠ []) ∧
      Short (4 + longest (secretBytes telling.secrets)) brokenOutput.flatten ∧
      events 4 telling .stdout (brokenOutput.map .bytes) =
        ["to*****", "", "é", "*****"].map (.outputLine .stdout "tell") := by
  have hstretches : ∀ stretch ∈ brokenOutput, stretch ≠ [] := by decide
  have hshort : Short (4 + longest (secretBytes telling.secrets)) brokenOutput.flatten := by
    decide +kernel
  have hevents := (events_eq_lines 4 telling .stdout brokenOutput hstretches hshort).1
  exact ⟨hstretches, hshort, hevents.trans rfl⟩

end ConsoleKeeper.Output
