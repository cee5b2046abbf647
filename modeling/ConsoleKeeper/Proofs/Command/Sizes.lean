import ConsoleKeeper.Proofs.Command.Pieces

/-!
# `ConsoleKeeper.Proofs.Command.Sizes`: how long the pieces of a line are

A line that gets too long is cut into parts. The limit says how long a part may be; a part that
begins with a secret may have the length of that secret instead (`cut_le`).

A line is cut only if it is as long as the limit and the longest secret together. What waits at the
end of the output is shorter than that, and it becomes a piece without being cut. So that last piece
may be longer than every part.

`pieces_bounded_iff` says for which limits and secrets this matters: the bound of the parts is a
bound of all pieces of all outputs exactly if the limit is one byte or no secret is longer than one.
In all other cases an output that is one byte too short to be cut is one piece that is too long.
-/

set_option autoImplicit false

namespace ConsoleKeeper.Output

variable {limit : Nat} {secrets : List (List UInt8)} {pending : List UInt8}

/-! ### The parts of a line -/

section Parts

variable {fine : List UInt8 → Prop}
  (hfine : ∀ line : List UInt8, limit + longest secrets ≤ line.length →
    fine (line.take (cut limit secrets line)))
include hfine

/-- Bytes without a newline finish no line: a stretch of them brings parts, and a rest that is too
short to be cut. -/
theorem feed_parts (hlimit : 1 ≤ limit) {stretch : List UInt8} (hopen : 10 ∉ pending ++ stretch) :
    ∃ parts : List (List UInt8), (feed limit secrets pending stretch).1 = parts.map .part ∧
      (∀ part ∈ parts, fine part) ∧
      (feed limit secrets pending stretch).2.length < limit + longest secrets := by
  obtain ⟨pieces, rest, hfeed, hrounds, hrest⟩ :=
    feed_rounds hlimit secrets (breaks_of_not_mem hopen)
  obtain ⟨parts, rfl, hall⟩ := hrounds.forall_parts fine hfine
  rw [hfeed]
  exact ⟨parts, rfl, hall, hrest⟩

/-- The pieces of an output without newlines are parts, and then what is left. -/
theorem drainFrom_parts (hlimit : 1 ≤ limit) {deliveries : List Delivery}
    (hpending : pending.length < limit + longest secrets)
    (hopen : 10 ∉ pending ++ received deliveries) :
    ∃ (parts : List (List UInt8)) (rest : List UInt8),
      piecesOf (drainFrom limit secrets pending deliveries) =
        parts.map .part ++ piecesOf (leftover rest) ∧
      (∀ part ∈ parts, fine part) ∧ rest.length < limit + longest secrets := by
  induction deliveries generalizing pending with
  | nil => exact ⟨[], pending, rfl, List.forall_mem_nil _, hpending⟩
  | cons delivery deliveries ih =>
    cases delivery with
    | refused message => exact ⟨[], pending, rfl, List.forall_mem_nil _, hpending⟩
    | bytes stretch =>
      rw [received] at hopen
      rw [drainFrom]
      split
      · exact ⟨[], pending, rfl, List.forall_mem_nil _, hpending⟩
      · next hne =>
        rw [if_neg hne, ← List.append_assoc, ← feed_source limit secrets pending stretch,
          List.append_assoc] at hopen
        have hwhole : 10 ∉ pending ++ stretch := by
          rw [← feed_source limit secrets pending stretch]
          exact fun hmem => hopen (by
            rw [← List.append_assoc]
            exact List.mem_append_left _ hmem)
        obtain ⟨parts, hparts, hall, hrest⟩ := feed_parts hfine hlimit hwhole
        -- What waits behind this stretch is what the later pieces start with.
        obtain ⟨later, rest, hlater, hall', hlast⟩ :=
          ih hrest fun hmem => hopen (List.mem_append_right _ hmem)
        refine ⟨parts ++ later, rest, ?_, ?_, hlast⟩
        · rw [piecesOf_append, hparts, hlater, List.map_append, List.append_assoc]
        · exact List.forall_mem_append.mpr ⟨hall, hall'⟩

end Parts

/-! ### Bounded pieces -/

/-- What is left at the end is one piece. -/
theorem piecesOf_leftover_of_ne_nil {rest : List UInt8} (h : rest ≠ []) :
    piecesOf (leftover rest) = [.part rest] := by
  rw [leftover, if_neg (by simpa using h)]
  rfl

/-- Where nothing is left, there is no piece. -/
theorem piecesOf_leftover_nil : piecesOf (leftover []) = [] := rfl

/-- An output without newlines that is too short to be cut is one piece. -/
theorem piecesOf_drain_of_short {stretches : List (List UInt8)}
    (hstretches : ∀ stretch ∈ stretches, stretch ≠ []) (hopen : 10 ∉ stretches.flatten)
    (hshort : stretches.flatten.length < limit + longest secrets) :
    piecesOf (drain limit secrets (stretches.map .bytes)) =
      piecesOf (leftover stretches.flatten) := by
  have hlines : Short (limit + longest secrets) ([] ++ stretches.flatten) := by
    rw [List.nil_append, Short, List.splitOn_eq_singleton hopen]
    simpa using hshort
  rw [drain, drainFrom_of_short List.not_mem_nil hstretches hlines (breaks_of_not_mem hopen)]
  rfl

/-- What is known of the length of pieces without a bound for the last one: there is a byte in each,
all but the last are parts, and the last is a part or too short to be cut. -/
structure Sized (limit longest : Nat) (pieces : List Piece) : Prop where
  filled : ∀ piece ∈ pieces, 1 ≤ piece.bytes.length
  inner : ∀ piece ∈ pieces.dropLast, piece.bytes.length ≤ max limit longest
  last : ∀ piece ∈ pieces.getLast?, piece.bytes.length ≤ max limit longest ∨
    piece.bytes.length < limit + longest

/-- Where the limit or the longest secret is one byte at most, what is too short to be cut is not
longer than a part. -/
theorem Sized.le {longest : Nat} {pieces : List Piece} (h : Sized limit longest pieces)
    (hsmall : limit ≤ 1 ∨ longest ≤ 1) {piece : Piece} (hmem : piece ∈ pieces) :
    piece.bytes.length ≤ max limit longest := by
  obtain ⟨front, last, rfl⟩ : ∃ front last, pieces = front ++ [last] :=
    (List.eq_nil_or_concat' pieces).resolve_left (List.ne_nil_of_mem hmem)
  have hinner := h.inner
  have hlast := h.last last (by simp)
  rw [List.dropLast_concat] at hinner
  obtain hmem | hmem := List.mem_append.mp hmem
  · exact hinner piece hmem
  · rw [List.mem_singleton.mp hmem]
    omega

/-- A part is not empty, and it has as many bytes at most as the limit or the longest secret. -/
structure PartSized (limit longest : Nat) (part : List UInt8) : Prop where
  filled : 1 ≤ part.length
  bounded : part.length ≤ max limit longest

/-- What a cut takes from a line that is too long has the size of a part. -/
theorem partSized_take_cut (hlimit : 1 ≤ limit) {line : List UInt8}
    (hlong : limit + longest secrets ≤ line.length) :
    PartSized limit (longest secrets) (line.take (cut limit secrets line)) := by
  have hpos := cut_pos hlimit secrets line
  have hle := cut_le limit secrets line
  constructor
  · rw [List.length_take]
    omega
  · rw [List.length_take]
    exact (Nat.min_le_left _ _).trans hle

/-- The pieces of an output without newlines are parts, and one more if something is left. -/
theorem drain_sized (hlimit : 1 ≤ limit) (secrets : List (List UInt8)) {deliveries : List Delivery}
    (hopen : 10 ∉ received deliveries) :
    Sized limit (longest secrets) (piecesOf (drain limit secrets deliveries)) := by
  have hempty : ([] : List UInt8).length < limit + longest secrets := Nat.lt_add_right _ hlimit
  obtain ⟨parts, rest, hpieces, hparts, hrest⟩ :=
    drainFrom_parts (fun _ hlong => partSized_take_cut hlimit hlong) hlimit hempty hopen
  have hsized : ∀ piece ∈ parts.map Piece.part, PartSized limit (longest secrets) piece.bytes := by
    intro piece hpiece
    obtain ⟨part, hpart, rfl⟩ := List.mem_map.mp hpiece
    exact hparts part hpart
  rw [drain, hpieces]
  by_cases hnone : rest = []
  · -- The output ended right behind a part.
    rw [hnone, piecesOf_leftover_nil, List.append_nil]
    exact ⟨fun piece hpiece => (hsized piece hpiece).filled,
      fun piece hpiece => (hsized piece (List.mem_of_mem_dropLast hpiece)).bounded,
      fun piece hpiece => .inl (hsized piece (List.mem_of_mem_getLast? hpiece)).bounded⟩
  · rw [piecesOf_leftover_of_ne_nil hnone]
    have hpos : 1 ≤ rest.length := List.length_pos_iff.mpr hnone
    refine ⟨fun piece hpiece => ?_, fun piece hpiece => ?_, fun piece hpiece => .inr ?_⟩
    · obtain hpiece | hpiece := List.mem_append.mp hpiece
      · exact (hsized piece hpiece).filled
      · rwa [List.mem_singleton.mp hpiece]
    · rw [List.dropLast_concat] at hpiece
      exact (hsized piece hpiece).bounded
    · rw [List.getLast?_concat, Option.mem_some_iff] at hpiece
      rwa [← hpiece]

/-- An output without newlines that is too short to be cut is one piece, and all that it is. -/
theorem piecesOf_drain_eq_singleton {stretches : List (List UInt8)} (hne : stretches ≠ [])
    (hstretches : ∀ stretch ∈ stretches, stretch ≠ []) (hopen : 10 ∉ stretches.flatten)
    (hshort : stretches.flatten.length < limit + longest secrets) :
    piecesOf (drain limit secrets (deliveriesOf stretches none)) = [.part stretches.flatten] := by
  have hfull : stretches.flatten ≠ [] := by
    obtain ⟨stretch, hmem⟩ := List.exists_mem_of_ne_nil stretches hne
    exact fun hnil => hstretches stretch hmem (List.flatten_eq_nil_iff.mp hnil stretch hmem)
  have hnone : deliveriesOf stretches none = stretches.map .bytes := List.append_nil _
  rw [hnone, piecesOf_drain_of_short hstretches hopen hshort, piecesOf_leftover_of_ne_nil hfull]

/-- Unless the limit or the longest secret is one byte at most, an output that is one byte too short
to be cut is longer than a part. -/
theorem exists_stretch_beyond_bound (hlimit : 1 < limit) (hsecrets : 1 < longest secrets) :
    ∃ output : List UInt8, output ≠ [] ∧ 10 ∉ output ∧
      output.length < limit + longest secrets ∧ max limit (longest secrets) < output.length := by
  refine ⟨List.replicate (limit + longest secrets - 1) 120, ?_, ?_, ?_, ?_⟩
  · rw [← List.length_pos_iff, List.length_replicate]
    omega
  · exact fun hmem => absurd (List.eq_of_mem_replicate hmem) (by decide)
  · rw [List.length_replicate]
    omega
  · rw [List.length_replicate]
    omega

/-- The limit bounds the parts of a line, but not what is left of it. In an output without newlines
each piece has a byte at least, and each but the last has as many bytes at most as the limit or the
longest secret, whichever is more. The last one may also be what was too short to be cut. An output
that is too short to be cut is one piece, however it is delivered. So the bound of the other pieces
holds for the last piece of every output exactly if the limit or the longest secret is one byte at
most. -/
theorem pieces_bounded_iff (limit : Nat) (secrets : List String) (hlimit : 1 ≤ limit) :
    let encoded := secretBytes secrets
    (∀ (stretches : List (List UInt8)) (refusal : Option String),
      (∀ stretch ∈ stretches, stretch ≠ []) → 10 ∉ stretches.flatten →
        Sized limit (longest encoded)
          (piecesOf (drain limit encoded (deliveriesOf stretches refusal)))) ∧
    (∀ stretches : List (List UInt8), stretches ≠ [] →
      (∀ stretch ∈ stretches, stretch ≠ []) → 10 ∉ stretches.flatten →
      stretches.flatten.length < limit + longest encoded →
        piecesOf (drain limit encoded (deliveriesOf stretches none)) =
          [.part stretches.flatten]) ∧
    ((∀ (stretches : List (List UInt8)) (refusal : Option String),
      (∀ stretch ∈ stretches, stretch ≠ []) → 10 ∉ stretches.flatten →
        ∀ piece ∈ piecesOf (drain limit encoded (deliveriesOf stretches refusal)),
          piece.bytes.length ≤ max limit (longest encoded)) ↔
      limit ≤ 1 ∨ longest encoded ≤ 1) := by
  intro encoded
  have hsized : ∀ (stretches : List (List UInt8)) (refusal : Option String),
      (∀ stretch ∈ stretches, stretch ≠ []) → 10 ∉ stretches.flatten →
        Sized limit (longest encoded)
          (piecesOf (drain limit encoded (deliveriesOf stretches refusal))) := by
    intro stretches refusal hstretches hopen
    rw [← received_deliveriesOf hstretches refusal] at hopen
    exact drain_sized hlimit encoded hopen
  refine ⟨hsized, fun stretches => piecesOf_drain_eq_singleton, fun hbounded => ?_, ?_⟩
  · by_contra hlarge
    obtain ⟨hlimit', hsecrets⟩ : 1 < limit ∧ 1 < longest encoded := by omega
    obtain ⟨output, hne, hopen, hshort, hlong⟩ := exists_stretch_beyond_bound hlimit' hsecrets
    have hflat : [output].flatten = output := List.append_nil output
    rw [← hflat] at hopen hshort hlong
    have hstretches : ∀ stretch ∈ [output], stretch ≠ [] := List.forall_mem_singleton.mpr hne
    have hpieces := piecesOf_drain_eq_singleton (List.cons_ne_nil _ _) hstretches hopen hshort
    have hle := hbounded [output] none hstretches hopen (.part [output].flatten) (by
      rw [hpieces]
      exact List.mem_singleton_self _)
    exact absurd hle (Nat.not_le_of_lt hlong)
  · intro hsmall stretches refusal hstretches hopen piece hpiece
    exact (hsized stretches refusal hstretches hopen).le hsmall hpiece

/-- Three bytes in two stretches, and a secret of two that is not among them. -/
theorem pieces_bounded_iff_shortOutput :
    (∀ stretch ∈ ([[120], [121, 122]] : List (List UInt8)), stretch ≠ []) ∧
      piecesOf (drain 2 (secretBytes ["ab"]) (deliveriesOf [[120], [121, 122]] none)) =
        [.part [120, 121, 122]] := by
  have hstretches : ∀ stretch ∈ ([[120], [121, 122]] : List (List UInt8)), stretch ≠ [] := by decide
  exact ⟨hstretches, (pieces_bounded_iff 2 ["ab"] (by decide)).2.1 [[120], [121, 122]] (by decide)
    hstretches (by decide) (by decide +kernel)⟩

/-- Three bytes are not cut for a limit of two and a secret of two. -/
theorem piece_beyond_bound :
    let pieces := piecesOf (drain 2 (secretBytes ["ab"]) [.bytes [120, 121, 122]])
    ∃ piece ∈ pieces, ¬piece.bytes.length ≤ max 2 (longest (secretBytes ["ab"])) := by
  decide +kernel

end ConsoleKeeper.Output
