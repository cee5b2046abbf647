import ConsoleKeeper.Proofs.Command.Sizes
import ConsoleKeeper.Proofs.Text.Cutting

/-!
# `ConsoleKeeper.Proofs.Command.Seams`: a text whose long line is cut

A command without secrets writes a text without newlines. Its one line is cut wherever as many bytes
have gathered as the limit says, so the parts meet at the multiples of the limit (`drain_seams`).
Each part is read by itself and loses the carriage returns at its end.

The parts are shown as the text itself if and only if each such place is a `Seam`: it does not lie
inside a character, nor behind a carriage return. `capped_text_kept_iff` says this for all texts,
limits and deliveries.
-/

set_option autoImplicit false

namespace ConsoleKeeper.Output

open Text.Utf8 (encode encode_append encode_flatten encode_eq_nil_iff trimmed
  flatMap_trimmed_eq_iff)

/-! ### Places where a text comes apart -/

/-- A number of bytes after which a text can be cut: a character ends there, and it is no carriage
return. -/
def Seam (text : List Char) (place : Nat) : Prop :=
  ∃ front back, text = front ++ back ∧ (encode front).length = place ∧
    front.getLast? ≠ some '\r'

variable {text front back : List Char} {place : Nat}

/-- A text can be cut in front of everything. -/
theorem seam_zero (text : List Char) : Seam text 0 :=
  ⟨[], text, rfl, rfl, nofun⟩

/-- A text comes apart at its end unless it ends with a carriage return. -/
theorem seam_length_iff : Seam text (encode text).length ↔ text.getLast? ≠ some '\r' := by
  refine ⟨fun ⟨front, back, hwhole, hplace, hlast⟩ => ?_, fun h =>
    ⟨text, [], (List.append_nil text).symm, rfl, h⟩⟩
  have hback : back = [] := by
    rw [hwhole, encode_append, List.length_append] at hplace
    exact encode_eq_nil_iff.mp (List.length_eq_zero_iff.mp (by omega))
  rwa [hwhole, hback, List.append_nil]

/-- Behind a place where a text is cut, the later places are those of what stands there. -/
theorem Seam.behind (h : Seam (front ++ back) ((encode front).length + place)) :
    Seam back place := by
  obtain ⟨front', back', hwhole, hplace, hlast⟩ := h
  obtain ⟨middle, rfl, rfl⟩ | ⟨middle, rfl, rfl⟩ := List.append_eq_append_iff.mp hwhole
  · refine ⟨middle, back', rfl, ?_, fun hreturn => hlast ?_⟩
    · rw [encode_append, List.length_append] at hplace
      omega
    · rw [List.getLast?_append, hreturn]
      rfl
  · -- The cut is at the later place already.
    rw [encode_append, List.length_append] at hplace
    have hmiddle : middle = [] := encode_eq_nil_iff.mp (List.length_eq_zero_iff.mp (by omega))
    have hzero : place = 0 := by omega
    rw [hzero]
    exact seam_zero _

/-- Texts that do not end with carriage returns meet in places where the whole comes apart. -/
theorem seam_of_texts {texts : List (List Char)} (hlast : ∀ t ∈ texts, t.getLast? ≠ some '\r')
    (k : Nat) : Seam texts.flatten ((texts.map encode).take k).flatten.length := by
  refine ⟨(texts.take k).flatten, (texts.drop k).flatten, ?_, ?_, fun hreturn => ?_⟩
  · rw [← List.flatten_append, List.take_append_drop]
  · rw [encode_flatten, List.map_take]
  · rw [List.getLast?_flatten] at hreturn
    obtain ⟨t, hmem, ht⟩ := List.exists_of_findSome?_eq_some hreturn
    exact hlast t (List.mem_of_mem_take (List.mem_reverse.mp hmem)) ht

/-- The parts of a text are forms of texts that do not end with carriage returns if and only if the
text comes apart wherever parts meet. -/
theorem exists_texts_iff_seams {parts : List (List UInt8)} (hparts : parts.flatten = encode text) :
    (∃ texts : List (List Char), parts = texts.map encode ∧ texts.flatten = text ∧
      ∀ t ∈ texts, t.getLast? ≠ some '\r') ↔
    ∀ k ≤ parts.length, Seam text (parts.take k).flatten.length := by
  constructor
  · rintro ⟨texts, rfl, rfl, hlast⟩ k -
    exact seam_of_texts hlast k
  · intro hseams
    -- The first place gives the first text, and the others are places of what stands behind it.
    induction parts generalizing text with
    | nil => exact ⟨[], rfl, (encode_eq_nil_iff.mp hparts.symm).symm, List.forall_mem_nil _⟩
    | cons part parts ih =>
      obtain ⟨front, back, rfl, hplace, hlast⟩ := hseams 1 (Nat.le_add_left 1 _)
      have hfirst : (encode front).length = part.length := by simpa using hplace
      rw [List.flatten_cons, encode_append] at hparts
      obtain ⟨rfl, hback⟩ := List.append_inj hparts hfirst.symm
      obtain ⟨texts, rfl, rfl, hlater⟩ := ih hback fun k hk => by
        have hseam := hseams (k + 1) (Nat.succ_le_succ hk)
        rw [List.take_succ_cons, List.flatten_cons, List.length_append] at hseam
        exact hseam.behind
      exact ⟨front :: texts, rfl, rfl, List.forall_mem_cons.mpr ⟨hlast, hlater⟩⟩

/-! ### The places where a line is cut -/

variable {limit : Nat} {parts : List (List UInt8)} {rest : List UInt8}

/-- Parts of the same length and a shorter rest meet at the multiples of that length, and at the
end. -/
theorem forall_meeting_iff {p : Nat → Prop} (hparts : ∀ part ∈ parts, part.length = limit)
    (hrest : rest.length < limit) :
    (∀ k ≤ (parts ++ [rest]).length, p ((parts ++ [rest]).take k).flatten.length) ↔
      p (parts ++ [rest]).flatten.length ∧
        ∀ n, n * limit ≤ (parts ++ [rest]).flatten.length → p (n * limit) := by
  -- All parts but the rest are of one length, so the places where they meet are its multiples,
  -- and the end.
  have htake : ∀ k ≤ parts.length, (parts.take k).flatten.length = k * limit := by
    intro k hk
    have hsame : ∀ part ∈ parts.take k, part.length = limit := fun part hpart =>
      hparts part (List.mem_of_mem_take hpart)
    rw [List.length_flatten, List.map_congr_left hsame, List.map_const', List.sum_replicate_nat,
      List.length_take, Nat.min_eq_left hk]
  have hwhole : (parts ++ [rest]).flatten.length = parts.length * limit + rest.length := by
    rw [List.flatten_append, List.length_append, ← htake parts.length (Nat.le_refl _),
      List.take_length, List.flatten_singleton]
  have hplace : ∀ k ≤ parts.length, ((parts ++ [rest]).take k).flatten.length = k * limit := by
    intro k hk
    rw [List.take_append_of_le_length hk, htake k hk]
  constructor
  · intro h
    refine ⟨?_, fun n hn => ?_⟩
    · have hend := h (parts ++ [rest]).length (Nat.le_refl _)
      rwa [List.take_length] at hend
    · have hfits : n ≤ parts.length := by
        rw [hwhole] at hn
        have hlt : n * limit < (parts.length + 1) * limit := by
          rw [Nat.succ_mul]
          omega
        exact Nat.le_of_lt_succ (Nat.lt_of_mul_lt_mul_right hlt)
      have hseam := h n (by
        rw [List.length_append]
        omega)
      rwa [hplace n hfits] at hseam
  · rintro ⟨hend, hmultiples⟩ k hk
    obtain hfits | rfl : k ≤ parts.length ∨ k = (parts ++ [rest]).length := by
      rw [List.length_append, List.length_singleton] at hk ⊢
      omega
    · rw [hplace k hfits]
      refine hmultiples k ?_
      have hle := Nat.mul_le_mul_right limit hfits
      omega
    · rwa [List.take_length]

/-- Without secrets each part is as long as the limit. -/
theorem drain_seams (hlimit : 1 ≤ limit) {deliveries : List Delivery}
    (hopen : 10 ∉ received deliveries) :
    ∃ (parts : List (List UInt8)) (rest : List UInt8),
      piecesOf (drain limit [] deliveries) = parts.map .part ++ piecesOf (leftover rest) ∧
      (∀ part ∈ parts, part.length = limit) ∧ rest.length < limit ∧
      (parts ++ [rest]).flatten = received deliveries := by
  let Fine (part : List UInt8) : Prop := part.length = limit
  -- Without secrets nothing moves a cut, so each part has exactly the limit's length.
  have hcuts : ∀ line : List UInt8, limit + longest [] ≤ line.length →
      Fine (line.take (cut limit [] line)) := fun line hlong =>
    List.length_take_of_le ((Nat.le_add_right _ _).trans hlong)
  have hempty : ([] : List UInt8).length < limit + longest [] := hlimit
  obtain ⟨parts, rest, hpieces, hparts, hrest⟩ := drainFrom_parts hcuts hlimit hempty hopen
  refine ⟨parts, rest, hpieces, hparts, hrest, ?_⟩
  have hsource := drainFrom_source limit [] [] deliveries
  have hwhole : (parts.map Piece.part).flatMap Piece.source = parts.flatten := by
    rw [List.flatMap_map]
    exact List.flatMap_id
  rw [hpieces, List.flatMap_append, leftover_source, hwhole, List.nil_append] at hsource
  rw [List.flatten_append, List.flatten_singleton, hsource]

/-! ### What is shown -/

/-- What is shown of a line without secrets is what is read of its parts. -/
theorem flatten_linesOf_events {command : Command}
    (hsecrets : ∀ secret ∈ command.secrets, secret = "") (stream : OutputStream)
    {deliveries : List Delivery}
    (hpieces : piecesOf (drain limit [] deliveries) = parts.map .part ++ piecesOf (leftover rest)) :
    (linesOf (events limit command stream deliveries)).flatten =
      (parts ++ [rest]).flatMap trimmed := by
  have hnone : secretBytes command.secrets = [] := by
    have hfilter : command.secrets.filter (!·.isEmpty) = [] :=
      List.filter_eq_nil_iff.mpr fun secret hmem => by
        rw [hsecrets secret hmem]
        decide
    rw [secretBytes, hfilter, List.map_nil]
  have hshown (bytes : List UInt8) : (shown command.secrets bytes).toList = trimmed bytes := by
    rw [shown, String.toList_ofList,
      Command.masked_eq_self fun secret hmem hfull => absurd (hsecrets secret hmem) hfull]
    rfl
  -- What is left is a piece only if there is something left; an empty rest reads as nothing
  -- either way.
  have hlast : (piecesOf (leftover rest)).flatMap (fun piece => trimmed piece.bytes) =
      [rest].flatMap trimmed := by
    by_cases hempty : rest = []
    · rw [hempty]
      rfl
    · rw [piecesOf_leftover_of_ne_nil hempty]
      rfl
  rw [linesOf_events, hnone, hpieces, ← List.flatMap_def, List.flatMap_append, List.flatMap_append,
    List.flatMap_map]
  simp only [hshown]
  rw [hlast]
  rfl

/-- A text of one line that a command without secrets writes is shown as it is, whatever the limit
and the deliveries are, if and only if it does not end with a carriage return and no multiple of the
limit lies inside a character or behind a carriage return. -/
theorem capped_text_kept_iff (limit : Nat) (command : Command) (stream : OutputStream)
    (text : List Char) (stretches : List (List UInt8)) (refusal : Option String)
    (hlimit : 1 ≤ limit) (hsecrets : ∀ secret ∈ command.secrets, secret = "")
    (hline : '\n' ∉ text) (hstretches : ∀ stretch ∈ stretches, stretch ≠ [])
    (houtput : stretches.flatten = encode text) :
    (linesOf (events limit command stream (deliveriesOf stretches refusal))).flatten = text ↔
      text.getLast? ≠ some '\r' ∧
        ∀ n, n * limit ≤ (encode text).length → Seam text (n * limit) := by
  have hreceived := received_deliveriesOf hstretches refusal
  have hopen : 10 ∉ received (deliveriesOf stretches refusal) := by
    rw [hreceived, houtput]
    exact fun hmem => hline (Text.Utf8.mem_of_byte_mem_encode (n := 10) (by omega) hmem)
  obtain ⟨parts, rest, hpieces, hparts, hrest, hflat⟩ := drain_seams hlimit hopen
  have hbytes : (parts ++ [rest]).flatten = encode text := by rw [hflat, hreceived, houtput]
  -- Each equivalence takes one step: from lines to trimmed parts, to texts that the parts are
  -- of, to seams where they meet, and to multiples of the limit.
  rw [flatten_linesOf_events hsecrets stream hpieces, flatMap_trimmed_eq_iff hbytes,
    exists_texts_iff_seams hbytes, forall_meeting_iff hparts hrest, hbytes, seam_length_iff]

/-- A text of two bytes and one more, and a limit that does not lie inside its first character. -/
theorem capped_text_kept_iff_accented :
    let stretches : List (List UInt8) := [[195], [169, 97]]
    (∀ stretch ∈ stretches, stretch ≠ []) ∧ stretches.flatten = encode "éa".toList ∧
      (linesOf (events 2 { program := "tell" } .stdout (deliveriesOf stretches none))).flatten =
        "éa".toList := by
  intro stretches
  have hstretches : ∀ stretch ∈ stretches, stretch ≠ [] := by decide
  have houtput : stretches.flatten = encode "éa".toList := by decide
  refine ⟨hstretches, houtput, (capped_text_kept_iff 2 { program := "tell" } .stdout "éa".toList
    stretches none (by decide) (List.forall_mem_nil _) (by decide) hstretches houtput).mpr
    ⟨by decide, fun n hn => ?_⟩⟩
  obtain rfl | rfl : n = 0 ∨ n = 1 := by
    have hlength : (encode "éa".toList).length = 3 := by decide
    omega
  · exact seam_zero _
  · exact ⟨['é'], ['a'], by decide, by decide, by decide⟩

/-- A carriage return is lost where a line is cut behind it. -/
theorem capped_text_loses_return :
    let text := "a\rb".toList
    '\n' ∉ text ∧ text.getLast? ≠ some '\r' ∧
      (linesOf (events 2 { program := "oc" } .stdout [.bytes (encode text)])).flatten ≠ text := by
  decide

end ConsoleKeeper.Output
