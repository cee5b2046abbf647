import Mathlib.Data.List.Infix
import ConsoleKeeper.Proofs.Command.Lines
import ConsoleKeeper.Proofs.Text.Find
import ConsoleKeeper.Proofs.Text.Utf8

/-!
# `ConsoleKeeper.Proofs.Command.Capping`: no secret is cut in two

A line that gets too long is cut into parts before its end is known. A secret that goes across such
a cut would be masked in neither part. A place of an output is `Clear` if no secret goes across it.

The cut starts at the limit, and each secret in turn moves it: back to where the secret begins, or
behind the secret where nothing stands in front of it. If no two secrets of the output overlap, such
a move does not bring the cut into another secret, so the place is clear in the end (`cut_spec`).
What is still to come does not change that: a secret that goes across the cut ends before the line
does, since the line is as much longer than the limit as the longest secret is long.

`Parted` pieces make up an output, and the places between them are clear. Each stretch keeps it so
(`feed_parted`), and hence the whole output does. `drain_cuts_no_secret` is the result: no secret
goes across a place where a piece ends or begins, so each secret lies in one piece.
-/

set_option autoImplicit false

namespace ConsoleKeeper.Output

open Text (OccursAt)

variable {secrets : List (List UInt8)} {bytes front pending more : List UInt8} {limit place : Nat}

/-! ### Secrets in an output -/

/-- Two occurrences are one and the same, or one of them ends before the other begins. -/
def Separate (first : List UInt8) (i : Nat) (second : List UInt8) (j : Nat) : Prop :=
  (i = j ∧ first = second) ∨ i + first.length ≤ j ∨ j + second.length ≤ i

/-- The secrets in an output do not overlap. -/
def Apart (secrets : List (List UInt8)) (bytes : List UInt8) : Prop :=
  ∀ first ∈ secrets, ∀ second ∈ secrets, ∀ i < bytes.length, ∀ j < bytes.length,
    OccursAt first bytes i → OccursAt second bytes j → Separate first i second j

/-- No secret of the output goes across a place: each one begins there or behind it, or has ended.
-/
def Clear (secrets : List (List UInt8)) (bytes : List UInt8) (place : Nat) : Prop :=
  ∀ secret ∈ secrets, ∀ i, OccursAt secret bytes i → place ≤ i ∨ i + secret.length ≤ place

instance (first : List UInt8) (i : Nat) (second : List UInt8) (j : Nat) :
    Decidable (Separate first i second j) :=
  inferInstanceAs (Decidable (_ ∨ _))

instance (secrets : List (List UInt8)) (bytes : List UInt8) : Decidable (Apart secrets bytes) :=
  inferInstanceAs (Decidable (∀ first ∈ secrets, ∀ second ∈ secrets, ∀ i < bytes.length,
    ∀ j < bytes.length, OccursAt first bytes i → OccursAt second bytes j →
      Separate first i second j))

/-- The secrets at the end of an output are secrets of the output. -/
theorem Apart.of_append (h : Apart secrets (front ++ bytes)) : Apart secrets bytes := by
  intro first hfirst second hsecond i hi j hj hoccurs hoccurs'
  rw [Apart, List.length_append] at h
  obtain ⟨hsame, heq⟩ | hbefore | hbehind :=
    h first hfirst second hsecond (front.length + i) (by omega) (front.length + j) (by omega)
      (Text.occursAt_append_iff.mpr hoccurs) (Text.occursAt_append_iff.mpr hoccurs')
  · exact .inl ⟨Nat.add_left_cancel hsame, heq⟩
  · exact .inr (.inl (by omega))
  · exact .inr (.inr (by omega))

/-- Of two places in a row, the second is as clear as it is behind the first. -/
theorem Clear.append (h : Clear secrets bytes place)
    (hfront : Clear secrets (front ++ bytes) front.length) :
    Clear secrets (front ++ bytes) (front.length + place) := by
  intro secret hmem i hoccurs
  obtain hle | hended := hfront secret hmem i hoccurs
  · obtain ⟨k, rfl⟩ := Nat.exists_eq_add_of_le hle
    have hk := h secret hmem k (Text.occursAt_append_iff.mp hoccurs)
    omega
  · omega

/-- Where secrets do not overlap, the places are clear where one of them begins and where it ends.
-/
theorem Apart.clear {secret : List UInt8} {i : Nat} (h : Apart secrets bytes)
    (hfull : ∀ secret ∈ secrets, secret ≠ []) (hmem : secret ∈ secrets)
    (hoccurs : OccursAt secret bytes i) (hplace : place = i ∨ place = i + secret.length) :
    Clear secrets bytes place := by
  intro other hother j hoccurs'
  have hpos : 0 < secret.length := List.length_pos_iff.mpr (hfull secret hmem)
  have hpos' : 0 < other.length := List.length_pos_iff.mpr (hfull other hother)
  have hend := hoccurs.le_length (hfull secret hmem)
  have hend' := hoccurs'.le_length (hfull other hother)
  -- Two occurrences are the same one, or one ends before the other begins. In each case neither
  -- end of the first is inside the second.
  obtain ⟨rfl, rfl⟩ | hbefore | hbehind :=
    h secret hmem other hother i (by omega) j (by omega) hoccurs hoccurs'
  · omega
  · omega
  · omega

/-- A secret without newlines does not go across one. -/
theorem clear_of_newline (hopen : ∀ secret ∈ secrets, 10 ∉ secret)
    (h : bytes[place]? = some 10) :
    Clear secrets bytes place ∧ Clear secrets bytes (place + 1) := by
  -- An occurrence that begins at or before the newline must end before it, since no secret has
  -- one.
  have hcovered : ∀ secret ∈ secrets, ∀ i, OccursAt secret bytes i → i ≤ place →
      i + secret.length ≤ place := by
    intro secret hmem i hoccurs hle
    by_contra hlt
    exact hopen secret hmem (hoccurs.mem hle (by omega) h)
  constructor
  · intro secret hmem i hoccurs
    have := hcovered secret hmem i hoccurs
    omega
  · intro secret hmem i hoccurs
    have := hcovered secret hmem i hoccurs
    omega

/-! ### Where a line is cut -/

/-- No secret is longer than the longest. -/
theorem length_le_longest {secret : List UInt8} (h : secret ∈ secrets) :
    secret.length ≤ longest secrets := by
  rw [longest, List.foldl_max]
  exact (List.le_max?_getD_of_mem (List.mem_map_of_mem h)).trans (Nat.le_max_right _ _)

section Around

variable {cut start : Nat} {secret : List UInt8}

/-- A secret that is not there leaves the cut. -/
theorem cutAround_none (h : Text.findFrom secret pending (cut + 1 - secret.length) = none) :
    cutAround pending cut secret = cut := by
  rw [cutAround, h]

/-- A secret in front moves the cut to its end, if it reaches so far. -/
theorem cutAround_zero (h : Text.findFrom secret pending (cut + 1 - secret.length) = some 0) :
    cutAround pending cut secret = max cut secret.length := by
  rw [cutAround, h]
  rfl

/-- A secret that begins before the cut moves the cut to its beginning. -/
theorem cutAround_succ
    (h : Text.findFrom secret pending (cut + 1 - secret.length) = some (start + 1)) :
    cutAround pending cut secret = if start + 1 < cut then start + 1 else cut := by
  rw [cutAround, h]
  rfl

end Around

/-- Where the cut of a line stands while the secrets move it: not at the very front, and at the
limit at most, unless it stands behind a secret that the line begins with. -/
structure Standing (limit : Nat) (secrets : List (List UInt8)) (pending : List UInt8) (cut : Nat) :
    Prop where
  pos : 1 ≤ cut
  le : cut ≤ limit ∨ ∃ secret ∈ secrets, OccursAt secret pending 0 ∧ cut = secret.length

section Cut

variable {cut : Nat} {secret : List UInt8} (hfull : ∀ secret ∈ secrets, secret ≠ [])
  (hlong : limit + longest secrets ≤ pending.length) (hapart : Apart secrets (pending ++ more))
include hfull hlong hapart

/-- A secret that goes across the cut lies in the part of the line that is known. -/
theorem Standing.occursAt {i : Nat} (h : Standing limit secrets pending cut)
    (hmem : secret ∈ secrets) (hoccurs : OccursAt secret (pending ++ more) i) (hlt : i < cut)
    (hlt' : cut < i + secret.length) : OccursAt secret pending i := by
  refine hoccurs.of_append ?_
  obtain hle | ⟨first, hfirst, hfront, rfl⟩ := h.le
  · have := length_le_longest hmem
    omega
  · -- Nothing goes across the end of the secret with which the line begins.
    have hclear := hapart.clear hfull hfirst (hfront.append_right more) (.inr rfl)
    have := hclear secret hmem i hoccurs
    omega

/-- A secret moves the cut to a place that is clear, or the cut stays and is clear of that secret.
-/
theorem cutAround_spec (h : Standing limit secrets pending cut) (hmem : secret ∈ secrets) :
    Standing limit secrets pending (cutAround pending cut secret) ∧
      (Clear secrets (pending ++ more) (cutAround pending cut secret) ∨
        cutAround pending cut secret = cut ∧ Clear [secret] (pending ++ more) cut) := by
  -- An occurrence across the cut begins where the search begins, or behind that.
  have stays : (∀ i, cut + 1 - secret.length ≤ i → i < cut → ¬OccursAt secret pending i) →
      Clear [secret] (pending ++ more) cut := by
    intro hpassed other hother i hoccurs
    rw [List.mem_singleton.mp hother] at hoccurs ⊢
    by_contra hacross
    have hknown := h.occursAt hfull hlong hapart hmem hoccurs (by omega) (by omega)
    exact hpassed i (by omega) (by omega) hknown
  cases hfound : Text.findFrom secret pending (cut + 1 - secret.length) with
  | none =>
    rw [cutAround_none hfound]
    exact ⟨h, .inr ⟨rfl, stays fun i hle _ => Text.findFrom_eq_none hfound hle⟩⟩
  | some start =>
    obtain ⟨hle, hoccurs, hpassed⟩ := Text.findFrom_eq_some hfound
    have hwhole := hoccurs.append_right more
    cases start with
    | zero =>
      -- The line begins with the secret, which reaches farther than the cut.
      have hfarther : cut < secret.length := by omega
      rw [cutAround_zero hfound, Nat.max_eq_right hfarther.le]
      refine ⟨⟨by omega, .inr ⟨secret, hmem, hoccurs, rfl⟩⟩, .inl ?_⟩
      exact hapart.clear hfull hmem hwhole (.inr (Nat.zero_add _).symm)
    | succ start =>
      rw [cutAround_succ hfound]
      split
      · next hlt =>
        have hclear := hapart.clear hfull hmem hwhole (.inl rfl)
        refine ⟨⟨by omega, ?_⟩, .inl hclear⟩
        obtain hlimit | ⟨first, hfirst, hfront, rfl⟩ := h.le
        · exact .inl (by omega)
        · -- The secret would begin inside the one with which the line begins.
          have := hclear first hfirst 0 (hfront.append_right more)
          omega
      · next hge =>
        exact ⟨h, .inr ⟨rfl, stays fun i hle hlt => hpassed i hle (by omega)⟩⟩

/-- After some secrets have moved the cut, it is clear of all of them. -/
theorem foldl_cutAround_spec (done todo : List (List UInt8))
    (h : Standing limit secrets pending cut) (hsub : ∀ secret ∈ done ++ todo, secret ∈ secrets)
    (hclear : Clear done (pending ++ more) cut) :
    Standing limit secrets pending (todo.foldl (cutAround pending) cut) ∧
      Clear (done ++ todo) (pending ++ more) (todo.foldl (cutAround pending) cut) := by
  -- The secrets that were looked at stay clear: a step leaves the cut where it was, or moves it
  -- to an end of an occurrence, and that is clear of all secrets at once.
  induction todo generalizing done cut with
  | nil => exact ⟨h, by rwa [List.append_nil]⟩
  | cons secret todo ih =>
    rw [List.append_cons] at hsub ⊢
    have hmem : secret ∈ secrets := hsub secret (by simp)
    obtain ⟨hstanding, hall | ⟨hstays, hone⟩⟩ := cutAround_spec hfull hlong hapart h hmem
    · refine ih _ hstanding hsub fun other hother => hall other (hsub other ?_)
      exact List.mem_append_left todo hother
    · refine ih _ hstanding hsub fun other hother => ?_
      rw [hstays]
      obtain hother | hother := List.mem_append.mp hother
      · exact hclear other hother
      · exact hone other hother

/-- A line that is too long is cut behind its front, where it is known and clear. -/
theorem cut_spec (hlimit : 1 ≤ limit) :
    1 ≤ Output.cut limit secrets pending ∧ Output.cut limit secrets pending ≤ pending.length ∧
      Clear secrets (pending ++ more) (Output.cut limit secrets pending) := by
  have hstart : Standing limit secrets pending limit := ⟨hlimit, .inl (Nat.le_refl limit)⟩
  obtain ⟨⟨hpos, hle⟩, hclear⟩ := foldl_cutAround_spec hfull hlong hapart [] secrets
    hstart (fun _ hmem => hmem) (fun _ hmem => by cases hmem)
  refine ⟨hpos, ?_, hclear⟩
  obtain hle | ⟨secret, hmem, hoccurs, heq⟩ := hle
  · exact hle.trans (by omega)
  · have hend := hoccurs.le_length (hfull secret hmem)
    rw [Output.cut, heq]
    omega

end Cut

/-! ### Pieces of an output -/

/-- The pieces make up the output, one behind the other, and the places between them are clear. -/
inductive Parted (secrets : List (List UInt8)) : List Piece → List UInt8 → Prop where
  | nil : Parted secrets [] []
  | cons (piece : Piece) {pieces : List Piece} {rest : List UInt8}
      (hclear : Clear secrets (piece.source ++ rest) piece.source.length)
      (h : Parted secrets pieces rest) : Parted secrets (piece :: pieces) (piece.source ++ rest)

namespace Parted

variable {pieces before after : List Piece}

/-- Pieces of an output make up the output. -/
theorem flatMap_source (h : Parted secrets pieces bytes) :
    pieces.flatMap Piece.source = bytes := by
  induction h with
  | nil => rfl
  | cons _ _ _ ih => rw [List.flatMap_cons, ih]

/-- The place behind some of the pieces. -/
theorem clear (h : Parted secrets (before ++ after) bytes) :
    Clear secrets bytes (before.flatMap Piece.source).length := by
  induction before generalizing bytes with
  | nil => exact fun _ _ i _ => .inl (Nat.zero_le i)
  | cons piece before ih =>
    cases h with
    | cons _ hclear h =>
      rw [List.flatMap_cons, List.length_append]
      exact (ih h).append hclear

/-- A secret without newlines lies in one piece. -/
theorem occursAt {secret : List UInt8} {i : Nat} (h : Parted secrets pieces bytes)
    (hmem : secret ∈ secrets) (hne : secret ≠ []) (hopen : 10 ∉ secret)
    (hoccurs : OccursAt secret bytes i) :
    ∃ before piece after k, pieces = before ++ piece :: after ∧
      i = (before.flatMap Piece.source).length + k ∧ OccursAt secret piece.bytes k := by
  induction h generalizing i with
  | nil =>
    have hend := hoccurs.le_length hne
    have hpos : 0 < secret.length := List.length_pos_iff.mpr hne
    simp only [List.length_nil] at hend
    omega
  | cons piece hclear _ ih =>
    obtain hle | hended := hclear secret hmem i hoccurs
    · -- It begins behind the first piece.
      obtain ⟨k, rfl⟩ := Nat.exists_eq_add_of_le hle
      obtain ⟨before, found, after, k', rfl, rfl, hfound⟩ :=
        ih (Text.occursAt_append_iff.mp hoccurs)
      refine ⟨piece :: before, found, after, k', rfl, ?_, hfound⟩
      rw [List.flatMap_cons, List.length_append, Nat.add_assoc]
    · refine ⟨[], piece, _, i, rfl, by simp, ?_⟩
      have hsource := hoccurs.of_append hended
      cases piece with
      | part bytes => exact hsource
      | line bytes =>
        -- It ends before the newline, or it would have one.
        have hnewline : (Piece.line bytes).source[bytes.length]? = some 10 := by
          simp [Piece.source]
        have hends : i + secret.length ≤ bytes.length := by
          by_contra hlt
          simp only [Piece.source, List.length_append, List.length_singleton] at hended
          have hpos : 0 < secret.length := List.length_pos_iff.mpr hne
          exact hopen (hsource.mem (by omega) (by omega) hnewline)
        exact hsource.of_append hends

end Parted

/-! ### Draining -/

/-- The parts that are cut off a line make it up with the rest. -/
theorem capFrom_source (limit : Nat) (secrets : List (List UInt8)) (fuel : Nat)
    (pending : List UInt8) :
    (capFrom limit secrets fuel pending).1.flatMap Piece.source ++
      (capFrom limit secrets fuel pending).2 = pending := by
  induction fuel generalizing pending with
  | zero => rfl
  | succ fuel ih =>
    rw [capFrom]
    split
    · rfl
    · simp only [List.flatMap_cons, List.append_assoc, ih]
      exact List.take_append_drop _ pending

/-- The pieces of a stretch and what has to wait make up what waited and the stretch. -/
theorem feed_source (limit : Nat) (secrets : List (List UInt8)) (pending stretch : List UInt8) :
    (feed limit secrets pending stretch).1.flatMap Piece.source ++
      (feed limit secrets pending stretch).2 = pending ++ stretch := by
  obtain ⟨lines, rest, h⟩ := exists_breaks (pending ++ stretch)
  have hlines : (lines.map Piece.line).flatMap Piece.source = lines.flatMap (· ++ [10]) := by
    rw [List.flatMap_map]
    rfl
  simp only [feed, h.finishedLines_eq, List.flatMap_append, hlines, List.append_assoc, cap,
    capFrom_source]
  exact h.eq_append.symm

section Drain

variable {pieces : List Piece} (hfull : ∀ secret ∈ secrets, secret ≠ [])

/-- Lines in front of parted pieces. -/
theorem parted_lines {lines : List (List UInt8)} (hopen : ∀ secret ∈ secrets, 10 ∉ secret)
    (h : Parted secrets pieces bytes) :
    Parted secrets (lines.map .line ++ pieces) (lines.flatMap (· ++ [10]) ++ bytes) := by
  induction lines with
  | nil => exact h
  | cons line lines ih =>
    rw [List.map_cons, List.cons_append, List.flatMap_cons, List.append_assoc]
    refine .cons (.line line) ?_ ih
    -- The boundary is just behind a newline, which is in no secret.
    have hnewline : ((Piece.line line).source ++
        (lines.flatMap (· ++ [10]) ++ bytes))[line.length]? = some 10 := by
      simp [Piece.source]
    have hlength : (Piece.line line).source.length = line.length + 1 := by
      simp [Piece.source]
    rw [hlength]
    exact (clear_of_newline hopen hnewline).2

include hfull

/-- The parts of a line in front of parted pieces of what it leaves. -/
theorem capFrom_parted (hlimit : 1 ≤ limit) {fuel : Nat} (hapart : Apart secrets (pending ++ more))
    (h : Parted secrets pieces ((capFrom limit secrets fuel pending).2 ++ more)) :
    Parted secrets ((capFrom limit secrets fuel pending).1 ++ pieces) (pending ++ more) := by
  induction fuel generalizing pending with
  | zero => exact h
  | succ fuel ih =>
    rw [capFrom] at h ⊢
    split at h
    · next hshort =>
      rw [if_pos hshort]
      exact h
    · next hlong =>
      rw [if_neg hlong]
      obtain ⟨-, hle, hclear⟩ := cut_spec hfull (Nat.le_of_not_lt hlong) hapart hlimit
      have hparts : pending.take (cut limit secrets pending) ++
          (pending.drop (cut limit secrets pending) ++ more) = pending ++ more := by
        rw [← List.append_assoc, List.take_append_drop]
      -- The rest keeps the premise: secrets that are apart in the whole are apart in what is left
      -- of it.
      have hrest : Apart secrets (pending.drop (cut limit secrets pending) ++ more) := by
        rw [← hparts] at hapart
        exact hapart.of_append
      have hparted := Parted.cons (.part (pending.take (cut limit secrets pending)))
        (by rwa [Piece.source, hparts, List.length_take, Nat.min_eq_left hle]) (ih hrest h)
      rwa [Piece.source, hparts] at hparted

/-- A stretch of output in front of parted pieces of what it leaves. -/
theorem feed_parted (hlimit : 1 ≤ limit) (hopen : ∀ secret ∈ secrets, 10 ∉ secret)
    {stretch : List UInt8} (hapart : Apart secrets (pending ++ stretch ++ more))
    (h : Parted secrets pieces ((feed limit secrets pending stretch).2 ++ more)) :
    Parted secrets ((feed limit secrets pending stretch).1 ++ pieces)
      (pending ++ stretch ++ more) := by
  obtain ⟨lines, rest, hbreaks⟩ := exists_breaks (pending ++ stretch)
  simp only [feed, hbreaks.finishedLines_eq] at h ⊢
  rw [hbreaks.eq_append, List.append_assoc] at hapart ⊢
  rw [List.append_assoc]
  exact parted_lines hopen (capFrom_parted hfull hlimit hapart.of_append h)

end Drain

/-- The bytes that deliveries bring, to the end of the output or the first refusal. -/
def received : List Delivery → List UInt8
  | .bytes stretch :: rest => if stretch.isEmpty then [] else stretch ++ received rest
  | _ => []

/-- The piece that an emission reports. -/
def Emission.piece? : Emission → Option Piece
  | piece found => some found
  | unread _ => none

/-- The pieces that are reported. -/
def piecesOf (emissions : List Emission) : List Piece :=
  emissions.filterMap Emission.piece?

/-- Pieces in front of other emissions. -/
theorem piecesOf_append (pieces : List Piece) (emissions : List Emission) :
    piecesOf (pieces.map .piece ++ emissions) = pieces ++ piecesOf emissions := by
  have hpieces : Emission.piece? ∘ Emission.piece = some := rfl
  rw [piecesOf, List.filterMap_append, List.filterMap_map, hpieces, List.filterMap_some]
  rfl

/-- What holds of the pieces of each stretch and of what is left holds of all pieces, if what waits
between the stretches is as it should be. -/
theorem forall_mem_piecesOf_drainFrom {waits : List UInt8 → Prop} {fine : Piece → Prop}
    (hfeed : ∀ pending stretch, waits pending →
      (∀ piece ∈ (feed limit secrets pending stretch).1, fine piece) ∧
        waits (feed limit secrets pending stretch).2)
    (hleft : ∀ pending, waits pending → pending ≠ [] → fine (.part pending))
    (hpending : waits pending) (deliveries : List Delivery) :
    ∀ piece ∈ piecesOf (drainFrom limit secrets pending deliveries), fine piece := by
  -- The three ways for a drain to end give out what is left in the same way.
  have hleftover {pending : List UInt8} (hpending : waits pending) :
      ∀ piece ∈ piecesOf (leftover pending), fine piece := by
    unfold leftover
    split
    · nofun
    · next hfull =>
      intro piece hpiece
      rw [List.mem_singleton.mp hpiece]
      exact hleft pending hpending (by simpa using hfull)
  induction deliveries generalizing pending with
  | nil => exact hleftover hpending
  | cons delivery deliveries ih =>
    cases delivery with
    | refused message => exact hleftover hpending
    | bytes stretch =>
      rw [drainFrom]
      split
      · exact hleftover hpending
      · obtain ⟨hpieces, hrest⟩ := hfeed pending stretch hpending
        rw [piecesOf_append]
        intro piece hpiece
        exact (List.mem_append.mp hpiece).elim (hpieces piece) (ih hrest piece)

/-- What is left at the end is a piece. -/
theorem leftover_parted (hfull : ∀ secret ∈ secrets, secret ≠ []) (pending : List UInt8) :
    Parted secrets (piecesOf (leftover pending)) (pending ++ []) := by
  rw [leftover]
  split
  · next hempty =>
    rw [List.isEmpty_iff.mp hempty]
    exact .nil
  · refine .cons (.part pending) (fun secret hmem i hoccurs => .inr ?_) .nil
    have hend := hoccurs.le_length (hfull secret hmem)
    rwa [List.append_nil] at hend

/-- The pieces of an output are parted. -/
theorem drainFrom_parted (hfull : ∀ secret ∈ secrets, secret ≠ []) (hlimit : 1 ≤ limit)
    (hopen : ∀ secret ∈ secrets, 10 ∉ secret) {deliveries : List Delivery}
    (hapart : Apart secrets (pending ++ received deliveries)) :
    Parted secrets (piecesOf (drainFrom limit secrets pending deliveries))
      (pending ++ received deliveries) := by
  induction deliveries generalizing pending with
  | nil => exact leftover_parted hfull pending
  | cons delivery deliveries ih =>
    cases delivery with
    | refused message => exact leftover_parted hfull pending
    | bytes stretch =>
      rw [received] at hapart ⊢
      rw [drainFrom]
      split
      · exact leftover_parted hfull pending
      · next hne =>
        rw [if_neg hne, ← List.append_assoc] at hapart
        rw [← List.append_assoc, piecesOf_append]
        refine feed_parted hfull hlimit hopen hapart (ih ?_)
        -- `feed` hands its pieces out and keeps the rest, so what is to come is the end of what
        -- there was.
        rw [← feed_source limit secrets pending stretch, List.append_assoc] at hapart
        exact hapart.of_append

/-! ### Secrets of a command -/

/-- The bytes of a secret are the secret, which is not empty. -/
theorem mem_secretBytes {secrets : List String} {secret : List UInt8}
    (h : secret ∈ secretBytes secrets) :
    ∃ text ∈ secrets, text.toList ≠ [] ∧ secret = Text.Utf8.encode text.toList := by
  obtain ⟨text, htext, rfl⟩ := List.mem_map.mp h
  obtain ⟨hmem, hfull⟩ := List.mem_filter.mp htext
  exact ⟨text, hmem, by simpa using hfull, rfl⟩

/-- There are bytes in every secret. -/
theorem secretBytes_full (secrets : List String) :
    ∀ secret ∈ secretBytes secrets, secret ≠ [] := by
  intro secret hsecret
  obtain ⟨text, -, hfull, rfl⟩ := mem_secretBytes hsecret
  exact fun hempty => hfull (Text.Utf8.encode_eq_nil_iff.mp hempty)

/-- Where secrets have no newlines, their bytes have none. -/
theorem secretBytes_open {secrets : List String} (h : ∀ secret ∈ secrets, '\n' ∉ secret.toList) :
    ∀ secret ∈ secretBytes secrets, 10 ∉ secret := by
  intro secret hsecret hnewline
  obtain ⟨text, htext, -, rfl⟩ := mem_secretBytes hsecret
  exact h text htext (Text.Utf8.mem_of_byte_mem_encode (n := 10) (by omega) hnewline)

/-- No secret is cut in two. If the secrets of a command have no newlines, and those in an output do
not overlap, then whatever the limit and the deliveries are: the pieces of the output make it up, no
secret goes across a place where a piece begins or where its bytes end, and each secret in the
output lies in the bytes of one piece. -/
theorem drain_cuts_no_secret (limit : Nat) (secrets : List String) (deliveries : List Delivery)
    (hlimit : 1 ≤ limit) (hlines : ∀ secret ∈ secrets, '\n' ∉ secret.toList)
    (hapart : Apart (secretBytes secrets) (received deliveries)) :
    let pieces := piecesOf (drain limit (secretBytes secrets) deliveries)
    pieces.flatMap Piece.source = received deliveries ∧
      (∀ before piece after, pieces = before ++ piece :: after →
        let start := (before.flatMap Piece.source).length
        Clear (secretBytes secrets) (received deliveries) start ∧
          Clear (secretBytes secrets) (received deliveries) (start + piece.bytes.length)) ∧
      ∀ secret ∈ secretBytes secrets, ∀ i, OccursAt secret (received deliveries) i →
        ∃ before piece after k, pieces = before ++ piece :: after ∧
          i = (before.flatMap Piece.source).length + k ∧ OccursAt secret piece.bytes k := by
  intro pieces
  have hfull := secretBytes_full secrets
  have hopen := secretBytes_open hlines
  have hall : Apart (secretBytes secrets) ([] ++ received deliveries) := hapart
  have hparted : Parted (secretBytes secrets) pieces (received deliveries) :=
    drainFrom_parted hfull hlimit hopen hall
  refine ⟨hparted.flatMap_source, fun before piece after hpieces => ?_, ?_⟩
  · rw [hpieces] at hparted
    refine ⟨hparted.clear, ?_⟩
    cases piece with
    | part bytes =>
      have hbehind : Parted (secretBytes secrets) ((before ++ [.part bytes]) ++ after)
          (received deliveries) := by
        rwa [List.append_assoc]
      simpa [Piece.source, Piece.bytes] using hbehind.clear
    | line bytes =>
      -- The newline of the piece stands at its end.
      have hnewline : (received deliveries)[(before.flatMap Piece.source).length +
          bytes.length]? = some 10 := by
        simp [← hparted.flatMap_source, Piece.source]
      exact (clear_of_newline hopen hnewline).1
  · intro secret hsecret i hoccurs
    exact hparted.occursAt hsecret (hfull secret hsecret) (hopen secret hsecret) hoccurs

/-- Two secrets. -/
def twoSecrets : List String := ["ab", "cdé"]

/-- A line that is cut in front of secrets and behind them. The stretches end inside secrets. -/
def crowdedOutput : List Delivery :=
  [.bytes [120, 97, 98, 99, 100, 195], .bytes [169, 97, 98, 121], .bytes [121, 121, 10, 97],
    .bytes [98, 121]]

/-- The pieces of this output, cut from two bytes on. No secret goes across the ends of the second
one. -/
theorem drain_cuts_no_secret_crowdedOutput :
    (∀ secret ∈ twoSecrets, '\n' ∉ secret.toList) ∧
      Apart (secretBytes twoSecrets) (received crowdedOutput) ∧
      piecesOf (drain 2 (secretBytes twoSecrets) crowdedOutput) =
        [.part [120], .part [97, 98], .part [99, 100, 195, 169], .line [97, 98, 121, 121, 121],
          .part [97, 98, 121]] ∧
      Clear (secretBytes twoSecrets) (received crowdedOutput) 1 ∧
      Clear (secretBytes twoSecrets) (received crowdedOutput) 3 := by
  have hlines : ∀ secret ∈ twoSecrets, '\n' ∉ secret.toList := by decide
  have hapart : Apart (secretBytes twoSecrets) (received crowdedOutput) := by decide +kernel
  have hpieces : piecesOf (drain 2 (secretBytes twoSecrets) crowdedOutput) =
      [.part [120], .part [97, 98], .part [99, 100, 195, 169], .line [97, 98, 121, 121, 121],
        .part [97, 98, 121]] := by
    decide +kernel
  obtain ⟨-, hclear, -⟩ := drain_cuts_no_secret 2 twoSecrets crowdedOutput (by omega) hlines hapart
  exact ⟨hlines, hapart, hpieces, hclear [.part [120]] (.part [97, 98]) _ hpieces⟩

end ConsoleKeeper.Output
