import ConsoleKeeper.Proofs.Command.Rounds
import ConsoleKeeper.Proofs.Command.Transcript

/-!
# `ConsoleKeeper.Proofs.Command.Pieces`: all of an output and nothing else

Draining turns an output into pieces while the output is still coming in. What is finished of a
stretch is reported, and the rest waits for the next stretch. At every moment the pieces so far and
what waits make up what has come (`feed_source`), whatever the secrets are and wherever they make a
line be cut.

`drain_keeps_output` is what that means for a whole output, up to its end or to the point where it
cannot be read further: the pieces make up what was read, in order, and there is a line in the log
for each of them.
-/

set_option autoImplicit false

namespace ConsoleKeeper.Output

variable {limit : Nat} {secrets : List (List UInt8)} {pending stretch : List UInt8}

/-! ### No piece is empty -/

/-- A piece that has bytes stands for them at least. -/
theorem Piece.source_ne_nil {piece : Piece} (h : piece.bytes ≠ []) : piece.source ≠ [] := by
  cases piece with
  | line bytes => exact List.append_ne_nil_of_left_ne_nil h _
  | part bytes => exact h

/-- Each piece that a stretch brings stands for a byte at least. -/
theorem feed_filled (hlimit : 1 ≤ limit) (secrets : List (List UInt8))
    (pending stretch : List UInt8) :
    ∀ piece ∈ (feed limit secrets pending stretch).1, piece.source ≠ [] := by
  obtain ⟨lines, line, hbreaks⟩ := exists_breaks (pending ++ stretch)
  obtain ⟨parts, rest, hfeed, hrounds, -⟩ := feed_rounds hlimit secrets hbreaks
  rw [hfeed]
  intro piece hpiece
  obtain hpiece | hpiece := List.mem_append.mp hpiece
  · obtain ⟨line, -, rfl⟩ := List.mem_map.mp hpiece
    exact List.append_ne_nil_of_right_ne_nil _ (List.cons_ne_nil _ _)
  · exact Piece.source_ne_nil (hrounds.filled hlimit piece hpiece)

/-- No piece of an output is empty. -/
theorem drainFrom_filled (hlimit : 1 ≤ limit) (deliveries : List Delivery) :
    ∀ piece ∈ piecesOf (drainFrom limit secrets pending deliveries), piece.source ≠ [] := by
  have hfeed (pending stretch : List UInt8) (_ : True) :
      (∀ piece ∈ (feed limit secrets pending stretch).1, piece.source ≠ []) ∧ True :=
    ⟨feed_filled hlimit secrets pending stretch, trivial⟩
  exact forall_mem_piecesOf_drainFrom hfeed (fun _ _ hfull => hfull) trivial deliveries

/-! ### The pieces make up the output -/

/-- What is left at the end is what waited. -/
theorem leftover_source (pending : List UInt8) :
    (piecesOf (leftover pending)).flatMap Piece.source = pending := by
  unfold leftover
  split
  · next hempty => exact (List.isEmpty_iff.mp hempty).symm
  · exact List.append_nil pending

/-- The pieces make up what waited and what came. -/
theorem drainFrom_source (limit : Nat) (secrets : List (List UInt8)) (pending : List UInt8)
    (deliveries : List Delivery) :
    (piecesOf (drainFrom limit secrets pending deliveries)).flatMap Piece.source =
      pending ++ received deliveries := by
  -- By induction on what comes, for all that may wait in front of it.
  induction deliveries generalizing pending with
  | nil => exact (leftover_source pending).trans (List.append_nil pending).symm
  | cons delivery deliveries ih =>
    cases delivery with
    | refused message => exact (leftover_source pending).trans (List.append_nil pending).symm
    | bytes stretch =>
      rw [drainFrom, received]
      split
      · -- An empty stretch is the end of the output.
        rw [leftover_source, List.append_nil]
      · -- What waits behind this stretch is what the later pieces start with.
        rw [piecesOf_append, List.flatMap_append, ih, ← List.append_assoc, feed_source,
          List.append_assoc]

/-! ### Outputs that end or cannot be read further -/

/-- The stretches of an output, and the refusal that reading it ends with, if there is one. -/
def deliveriesOf (stretches : List (List UInt8)) (refusal : Option String) : List Delivery :=
  stretches.map .bytes ++ (refusal.map .refused).toList

variable {stretches : List (List UInt8)}

/-- All stretches are received, whether or not a refusal comes behind them. -/
theorem received_deliveriesOf (h : ∀ stretch ∈ stretches, stretch ≠ []) (refusal : Option String) :
    received (deliveriesOf stretches refusal) = stretches.flatten := by
  induction stretches with
  | nil => cases refusal <;> rfl
  | cons stretch stretches ih =>
    have hne : stretch ≠ [] := h stretch List.mem_cons_self
    have hrest := ih fun s hs => h s (List.mem_cons_of_mem stretch hs)
    rw [List.flatten_cons, ← hrest, deliveriesOf, List.map_cons, List.cons_append, received,
      if_neg (by simpa using hne), deliveriesOf]

/-- Nothing of an output is lost, shown twice or put in another place. Whatever the limit and the
secrets of the command are, wherever the stretches of the output end, and whether reading ends with
the output or with a refusal: the pieces make up what was read, one behind the other, if each line
gets its newline back. No piece has a newline of its own, none is empty, and the log has a line for
each of them. -/
theorem drain_keeps_output (limit : Nat) (command : Command) (stream : OutputStream)
    (stretches : List (List UInt8)) (refusal : Option String) (hlimit : 1 ≤ limit)
    (hstretches : ∀ stretch ∈ stretches, stretch ≠ []) :
    let deliveries := deliveriesOf stretches refusal
    let pieces := piecesOf (drain limit (secretBytes command.secrets) deliveries)
    pieces.flatMap Piece.source = stretches.flatten ∧
      (∀ piece ∈ pieces, 10 ∉ piece.bytes ∧ piece.source ≠ []) ∧
      linesOf (events limit command stream deliveries) =
        pieces.map fun piece => (shown command.secrets piece.bytes).toList := by
  intro deliveries pieces
  have hsource := drainFrom_source limit (secretBytes command.secrets) [] deliveries
  rw [List.nil_append, received_deliveriesOf hstretches] at hsource
  have hopen : ∀ piece ∈ pieces, 10 ∉ piece.bytes := drainFrom_open List.not_mem_nil deliveries
  have hfilled : ∀ piece ∈ pieces, piece.source ≠ [] := drainFrom_filled hlimit deliveries
  exact ⟨hsource, fun piece hpiece => ⟨hopen piece hpiece, hfilled piece hpiece⟩,
    linesOf_events limit command stream deliveries⟩

/-- A command with secrets that overlap. -/
def overlapping : Command where
  program := "tell"
  secrets := ["aba", "", "bab"]

/-- An output that cannot be read to its end. One of its lines is full of secrets, and the stretches
end inside them. -/
def brokenOff : List (List UInt8) :=
  [[120, 10, 97, 98], [97, 98, 97, 98, 97], [98, 10], [10, 99]]

/-- The pieces of this output. The long line is cut in front of a secret and behind one, although
they overlap. -/
theorem drain_keeps_output_brokenOff :
    let pieces : List Piece :=
      [.line [120], .part [97], .part [98, 97, 98], .line [97, 98, 97, 98], .line [], .part [99]]
    (∀ stretch ∈ brokenOff, stretch ≠ []) ∧
      piecesOf (drain 2 (secretBytes overlapping.secrets) (deliveriesOf brokenOff (some "gone"))) =
        pieces ∧
      pieces.flatMap Piece.source = brokenOff.flatten := by
  intro pieces
  have hstretches : ∀ stretch ∈ brokenOff, stretch ≠ [] := by decide
  have hpieces : piecesOf (drain 2 (secretBytes overlapping.secrets)
      (deliveriesOf brokenOff (some "gone"))) = pieces := by
    decide +kernel
  have hkept := (drain_keeps_output 2 overlapping .stderr brokenOff (some "gone") (by omega)
    hstretches).1
  rw [hpieces] at hkept
  exact ⟨hstretches, hpieces, hkept⟩

end ConsoleKeeper.Output
