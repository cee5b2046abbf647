import ConsoleKeeper.Proofs.Command.Capping

/-!
# `ConsoleKeeper.Proofs.Command.Rounds`: capping a line comes to an end

A line that is too long loses a part, and what is left of it is looked at again. `Rounds` are such
rounds, one after the other. Nothing in them bounds their number. With a limit of zero a round may
take nothing of the line, and then there is always one more.

With any other limit a round takes a byte at least, since no secret moves the cut to the very front
(`cut_pos`). It takes no more than there is. A secret moves the cut to its own end at most
(`cut_le`), and a line is only cut if it is as long as the limit and the longest secret together. So
each round makes the line shorter, and their number is bounded by what the line is too long by
(`Rounds.length_le`).

`capFrom` gets a number of rounds that it may take, which `cap` sets to the length of the line. This
number never stops it: what `cap` gives is where the rounds lead if they go on as long as there is
one (`cap_eq_iff`). `capping_ends` puts this together for the stretches of an output. After each of
them the rounds have ended, and what waits is not too long.
-/

set_option autoImplicit false

namespace ConsoleKeeper.Output

variable {limit : Nat} {secrets : List (List UInt8)} {line rest pending stretch : List UInt8}
  {pieces : List Piece}

/-! ### Where a cut can be -/

/-- A secret does not move a cut to the very front. -/
theorem cutAround_pos {cut : Nat} (h : 1 ≤ cut) (pending secret : List UInt8) :
    1 ≤ cutAround pending cut secret := by
  cases hfound : Text.findFrom secret pending (cut + 1 - secret.length) with
  | none => rwa [cutAround_none hfound]
  | some start =>
    cases start with
    | zero =>
      -- The line begins with the secret, and the cut moves away from the front, if at all.
      rw [cutAround_zero hfound]
      omega
    | succ start =>
      rw [cutAround_succ hfound]
      split <;> omega

/-- A cut takes a byte at least, wherever the secrets are. -/
theorem cut_pos (hlimit : 1 ≤ limit) (secrets : List (List UInt8)) (pending : List UInt8) :
    1 ≤ cut limit secrets pending := by
  unfold cut
  induction secrets generalizing limit with
  | nil => exact hlimit
  | cons secret secrets ih => exact ih (cutAround_pos hlimit pending secret)

/-- A secret moves a cut back, or to its own end. -/
theorem cutAround_le (pending : List UInt8) (cut : Nat) (secret : List UInt8) :
    cutAround pending cut secret ≤ max cut secret.length := by
  cases hfound : Text.findFrom secret pending (cut + 1 - secret.length) with
  | none =>
    rw [cutAround_none hfound]
    exact Nat.le_max_left _ _
  | some start =>
    cases start with
    | zero => rw [cutAround_zero hfound]
    | succ start =>
      rw [cutAround_succ hfound]
      split <;> omega

/-- Secrets that are not longer than a bound do not move a cut beyond it. -/
theorem foldl_cutAround_le {bound cut : Nat} (hcut : cut ≤ bound)
    (hsecrets : ∀ secret ∈ secrets, secret.length ≤ bound) :
    secrets.foldl (cutAround pending) cut ≤ bound := by
  induction secrets generalizing cut with
  | nil => exact hcut
  | cons secret secrets ih =>
    have hsecret : secret.length ≤ bound := hsecrets secret List.mem_cons_self
    have hmoved : cutAround pending cut secret ≤ bound :=
      (cutAround_le pending cut secret).trans (max_le hcut hsecret)
    exact ih hmoved fun other hother => hsecrets other (List.mem_cons_of_mem secret hother)

/-- A cut is not behind the limit, unless it is at the end of a secret. -/
theorem cut_le (limit : Nat) (secrets : List (List UInt8)) (pending : List UInt8) :
    cut limit secrets pending ≤ max limit (longest secrets) :=
  foldl_cutAround_le (Nat.le_max_left _ _) fun _ hmem =>
    (length_le_longest hmem).trans (Nat.le_max_right _ _)

/-- A line that is too long is cut behind its first byte, and not farther than it reaches. -/
theorem cut_inside (hlimit : 1 ≤ limit) (hlong : limit + longest secrets ≤ line.length) :
    1 ≤ cut limit secrets line ∧ cut limit secrets line ≤ line.length := by
  have hpos := cut_pos hlimit secrets line
  have hle := cut_le limit secrets line
  omega

/-! ### Rounds -/

/-- Rounds of capping, one after the other, from a line to what is left of it. Each needs a line that
is too long: what stands in front of the cut is a piece, and the line goes on behind it. Their number
is not bounded, and they may stop at any time. -/
inductive Rounds (limit : Nat) (secrets : List (List UInt8)) :
    List UInt8 → List Piece → List UInt8 → Prop where
  | stop (line : List UInt8) : Rounds limit secrets line [] line
  | round {line rest : List UInt8} {pieces : List Piece}
      (hlong : limit + longest secrets ≤ line.length)
      (h : Rounds limit secrets (line.drop (cut limit secrets line)) pieces rest) :
      Rounds limit secrets line (.part (line.take (cut limit secrets line)) :: pieces) rest

namespace Rounds

/-- A line has at most as many rounds as it has bytes too many. -/
theorem length_le (hlimit : 1 ≤ limit) (h : Rounds limit secrets line pieces rest) :
    pieces.length ≤ line.length + 1 - (limit + longest secrets) := by
  induction h with
  | stop line => exact Nat.zero_le _
  | @round line rest pieces hlong h ih =>
    -- The line of the later rounds is shorter, by the bytes that the first one takes.
    have hcut := cut_pos hlimit secrets line
    rw [List.length_drop] at ih
    rw [List.length_cons]
    omega

/-- What holds of all that a cut takes from a line that is too long holds of the pieces. -/
theorem forall_parts (fine : List UInt8 → Prop) (h : Rounds limit secrets line pieces rest)
    (hfine : ∀ line : List UInt8, limit + longest secrets ≤ line.length →
      fine (line.take (cut limit secrets line))) :
    ∃ parts : List (List UInt8), pieces = parts.map .part ∧ ∀ part ∈ parts, fine part := by
  induction h with
  | stop line => exact ⟨[], rfl, List.forall_mem_nil _⟩
  | @round line rest pieces hlong h ih =>
    obtain ⟨parts, rfl, hall⟩ := ih
    exact ⟨line.take (cut limit secrets line) :: parts, rfl,
      List.forall_mem_cons.mpr ⟨hfine line hlong, hall⟩⟩

/-- No round gives an empty piece. -/
theorem filled (hlimit : 1 ≤ limit) (h : Rounds limit secrets line pieces rest) :
    ∀ piece ∈ pieces, piece.bytes ≠ [] := by
  have hfine (line : List UInt8) (hlong : limit + longest secrets ≤ line.length) :
      line.take (cut limit secrets line) ≠ [] := by
    obtain ⟨hpos, hle⟩ := cut_inside hlimit hlong
    rw [← List.length_pos_iff, List.length_take_of_le hle]
    exact hpos
  obtain ⟨parts, rfl, hall⟩ := h.forall_parts (· ≠ []) hfine
  intro piece hpiece
  obtain ⟨part, hpart, rfl⟩ := List.mem_map.mp hpiece
  exact hall part hpart

/-- Rounds that go on as long as there is one lead to what `capFrom` gives, if it may take as many.
-/
theorem capFrom_eq (h : Rounds limit secrets line pieces rest)
    (hshort : rest.length < limit + longest secrets) {fuel : Nat} (hfuel : pieces.length ≤ fuel) :
    capFrom limit secrets fuel line = (pieces, rest) := by
  induction h generalizing fuel with
  | stop line =>
    cases fuel with
    | zero => rfl
    | succ fuel => rw [capFrom, if_pos hshort]
  | @round line rest pieces hlong h ih =>
    -- A round takes one unit of fuel, and there is one for each piece.
    cases fuel with
    | zero => exact absurd hfuel (Nat.not_succ_le_zero _)
    | succ fuel =>
      rw [capFrom, if_neg (Nat.not_lt.mpr hlong)]
      simp only [ih hshort (Nat.le_of_succ_le_succ hfuel)]

end Rounds

/-- What `capFrom` gives is where some rounds lead. -/
theorem rounds_capFrom (limit : Nat) (secrets : List (List UInt8)) (fuel : Nat)
    (line : List UInt8) :
    Rounds limit secrets line (capFrom limit secrets fuel line).1
      (capFrom limit secrets fuel line).2 := by
  induction fuel generalizing line with
  | zero => exact .stop line
  | succ fuel ih =>
    rw [capFrom]
    split
    · exact .stop line
    · next hlong => exact .round (Nat.le_of_not_lt hlong) (ih _)

/-- What is left of a line when parts were cut off is not long enough to be cut again. -/
theorem capFrom_rest (hlimit : 1 ≤ limit) (secrets : List (List UInt8)) {fuel : Nat}
    (hfuel : line.length ≤ fuel) :
    (capFrom limit secrets fuel line).2.length < limit + longest secrets := by
  induction fuel generalizing line with
  | zero =>
    show line.length < limit + longest secrets
    omega
  | succ fuel ih =>
    rw [capFrom]
    split
    · next hshort => exact hshort
    · -- Each part takes a byte from the line, so the fuel does not run out.
      have hcut := cut_pos hlimit secrets line
      refine ih ?_
      rw [List.length_drop]
      omega

/-- What `cap` gives is the one place where the rounds of a line end. -/
theorem cap_eq_iff (hlimit : 1 ≤ limit) :
    cap limit secrets line = (pieces, rest) ↔
      Rounds limit secrets line pieces rest ∧ rest.length < limit + longest secrets := by
  constructor
  · intro hcap
    have hrounds := rounds_capFrom limit secrets line.length line
    have hrest := capFrom_rest hlimit secrets (Nat.le_refl line.length)
    rw [cap] at hcap
    rw [hcap] at hrounds hrest
    exact ⟨hrounds, hrest⟩
  · rintro ⟨hrounds, hrest⟩
    have hlength := hrounds.length_le hlimit
    exact hrounds.capFrom_eq hrest (by omega)

/-! ### The rounds after each stretch -/

/-- After a stretch of output its lines are finished, and the rounds of the line that goes on come to
their end. -/
theorem feed_rounds (hlimit : 1 ≤ limit) (secrets : List (List UInt8)) {lines : List (List UInt8)}
    (h : Breaks (pending ++ stretch) lines line) :
    ∃ parts rest, feed limit secrets pending stretch = (lines.map .line ++ parts, rest) ∧
      Rounds limit secrets line parts rest ∧ rest.length < limit + longest secrets := by
  obtain ⟨parts, rest, hcap⟩ : ∃ parts rest, cap limit secrets line = (parts, rest) :=
    ⟨_, _, rfl⟩
  refine ⟨parts, rest, ?_, (cap_eq_iff hlimit).mp hcap⟩
  simp only [feed, h.finishedLines_eq, hcap]

/-- Between two stretches of an output the pieces so far and what waits make up what has come, and
what waits is not too long. -/
theorem drainFrom_waits (hlimit : 1 ≤ limit) {before : List (List UInt8)} (after : List Delivery)
    (hbefore : ∀ stretch ∈ before, stretch ≠ [])
    (hpending : pending.length < limit + longest secrets) :
    ∃ (pieces : List Piece) (waits : List UInt8),
      drainFrom limit secrets pending (before.map .bytes ++ after) =
        pieces.map .piece ++ drainFrom limit secrets waits after ∧
      pieces.flatMap Piece.source ++ waits = pending ++ before.flatten ∧
      waits.length < limit + longest secrets := by
  induction before generalizing pending with
  | nil => exact ⟨[], pending, rfl, (List.append_nil pending).symm, hpending⟩
  | cons stretch before ih =>
    have hne : stretch ≠ [] := hbefore stretch List.mem_cons_self
    have hlater : ∀ s ∈ before, s ≠ [] := fun s hs => hbefore s (List.mem_cons_of_mem stretch hs)
    obtain ⟨lines, line, hbreaks⟩ := exists_breaks (pending ++ stretch)
    obtain ⟨parts, rest, hfeed, -, hrest⟩ := feed_rounds hlimit secrets hbreaks
    have hsource := feed_source limit secrets pending stretch
    rw [hfeed] at hsource
    -- What is left after this stretch waits for the next one.
    obtain ⟨pieces, waits, hdrain, hpieces, hwaits⟩ := ih hlater hrest
    refine ⟨lines.map .line ++ parts ++ pieces, waits, ?_, ?_, hwaits⟩
    · simp only [List.map_cons, List.cons_append, drainFrom, List.isEmpty_iff, hne, if_false, hfeed,
        hdrain, List.map_append, List.append_assoc]
    · rw [List.flatMap_append, List.append_assoc, hpieces, ← List.append_assoc, hsource,
        List.flatten_cons, List.append_assoc]

/-- Capping always comes to an end. Let the limit be a byte or more, and the secrets as they are.
Then a line that is as long as the limit and the longest secret together is cut behind its first
byte, and not farther than it reaches. However rounds of capping follow each other, their number is
bounded by the length of the line, each piece has a byte at least, and if they go on to where the
line is not too long, they lead to what `cap` gives. They do go on to there after each stretch of
output, whatever has waited for it. So between two stretches of an output all that has come is in
the pieces but for what waits, and that is shorter than the limit and the longest secret together. -/
theorem capping_ends (limit : Nat) (secrets : List (List UInt8)) (hlimit : 1 ≤ limit) :
    let bound := limit + longest secrets
    (∀ line : List UInt8, bound ≤ line.length →
      1 ≤ cut limit secrets line ∧ cut limit secrets line ≤ line.length) ∧
    (∀ line pieces rest, Rounds limit secrets line pieces rest →
      pieces.length ≤ line.length + 1 - bound ∧ (∀ piece ∈ pieces, piece.bytes ≠ []) ∧
        (rest.length < bound → cap limit secrets line = (pieces, rest))) ∧
    (∀ pending stretch lines line, Breaks (pending ++ stretch) lines line →
      ∃ parts rest, feed limit secrets pending stretch = (lines.map .line ++ parts, rest) ∧
        Rounds limit secrets line parts rest ∧ rest.length < bound) ∧
    ∀ (before : List (List UInt8)) (after : List Delivery), (∀ stretch ∈ before, stretch ≠ []) →
      ∃ (pieces : List Piece) (waits : List UInt8),
        drain limit secrets (before.map .bytes ++ after) =
          pieces.map .piece ++ drainFrom limit secrets waits after ∧
        pieces.flatMap Piece.source ++ waits = before.flatten ∧ waits.length < bound := by
  intro bound
  refine ⟨fun line => cut_inside hlimit, fun line pieces rest hrounds => ?_, ?_, ?_⟩
  · exact ⟨hrounds.length_le hlimit, hrounds.filled hlimit,
      fun hrest => (cap_eq_iff hlimit).mpr ⟨hrounds, hrest⟩⟩
  · intro pending stretch lines line hbreaks
    exact feed_rounds hlimit secrets hbreaks
  · intro before after hbefore
    have hempty : ([] : List UInt8).length < limit + longest secrets := Nat.lt_add_right _ hlimit
    exact drainFrom_waits hlimit after hbefore hempty

/-- Two secrets that overlap. -/
def overlappingSecrets : List (List UInt8) := [[97, 98, 97], [98, 97, 98]]

/-- A line of which they leave three bytes after two rounds. The first cut lies in one of them. -/
theorem capping_ends_overlappingSecrets :
    let line : List UInt8 := [97, 98, 97, 98, 97, 98, 120]
    let parts : List Piece := [.part [97], .part [98, 97, 98]]
    (1 ≤ cut 2 overlappingSecrets line ∧ cut 2 overlappingSecrets line ≤ line.length) ∧
      feed 2 overlappingSecrets [97, 98] (line.drop 2) = (parts, [97, 98, 120]) ∧
      Rounds 2 overlappingSecrets line parts [97, 98, 120] := by
  intro line parts
  obtain ⟨hcut, -, hstretch, -⟩ := capping_ends 2 overlappingSecrets (by decide)
  have hgiven : feed 2 overlappingSecrets [97, 98] (line.drop 2) = (parts, [97, 98, 120]) := by
    decide +kernel
  obtain ⟨found, rest, hfeed, hrounds, -⟩ :=
    hstretch [97, 98] (line.drop 2) [] line (breaks_of_not_mem (by decide))
  obtain ⟨rfl, rfl⟩ := Prod.mk.inj (hfeed.symm.trans hgiven)
  exact ⟨hcut line (by decide), hgiven, hrounds⟩

end ConsoleKeeper.Output
