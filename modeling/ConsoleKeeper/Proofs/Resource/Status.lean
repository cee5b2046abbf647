import ConsoleKeeper.Proofs.Resource.WebUI

/-!
# `ConsoleKeeper.Proofs.Resource.Status`: a status that someone else wrote

The status of an object is advice, and anyone may write it. The object is read all the same if the
status is missing or counts as nothing, and if it is a mapping with a phase and a message that can
be taken for advice. `Status.Tolerated` says which these are. A word that is no phase counts as
none, and so does a number, but a list or a mapping is no word to look up.

`ofObject_eq` splits the reading of an object into the reading of its status and the reading of the
rest. `status_read_iff_tolerated` says for every status what comes of it: the object is read exactly
if the status is tolerated, with the phase that the status names and with all else as it is read
without a status. A status that is not tolerated ends the reading, and with it the whole pass
(`listedPhase_ends_reading`).
-/

set_option autoImplicit false

namespace ConsoleKeeper.WebUI

namespace Status

variable {value : Data} {part : Fields}

/-- A list or a mapping that does not count as nothing. -/
def IsCompound : Data → Prop
  | .list items => items ≠ []
  | .object fields => fields ≠ []
  | _ => False

/-- A value counts as nothing or is a text. -/
def IsMessage (value : Data) : Prop :=
  value.isFalsy = true ∨ ∃ s, Reading.text value = .ok s

/-- A status with which an object is read. -/
inductive Tolerated : Option Data → Prop where
  | missing : Tolerated none
  | nothing {value : Data} (h : value.isFalsy = true) : Tolerated (some value)
  | advice {part : Fields} (phase : ∀ value, part.get? "phase" = some value → ¬IsCompound value)
      (message : ∀ value, part.get? "message" = some value → IsMessage value) :
      Tolerated (some (.object part))

/-- A status names a phase by its word. -/
def Names (status : Option Data) (phase : Phase) : Prop :=
  ∃ part, status = some (.object part) ∧ Table.get? part "phase" = some (.text phase.name)

/-- A status names something as its phase that is no word. -/
def NamesCompound (status : Option Data) : Prop :=
  ∃ part value, status = some (.object part) ∧ Table.get? part "phase" = some value ∧
    IsCompound value

/-! ### Phases and messages -/

/-- A word stands for the phase that has it as its name. -/
theorem ofName?_eq_some_iff {word : String} {phase : Phase} :
    Phase.ofName? word = some phase ↔ word = phase.name := by
  constructor
  · intro h
    have hname := List.find?_some h
    exact (of_decide_eq_true hname).symm
  · rintro rfl
    cases phase <;> rfl

/-- A compound value is no word. -/
theorem readPhase_of_isCompound (h : IsCompound value) :
    readPhase value = .fault .notAWord := by
  cases value with
  | list items => simp [readPhase, Data.isFalsy, show items ≠ [] from h]
  | object fields => simp [readPhase, Data.isFalsy, show fields ≠ [] from h]
  | _ => exact h.elim

/-- Any other value is read as the phase that it names, or as none. -/
theorem readPhase_of_not_isCompound (h : ¬IsCompound value) :
    ∃ found, readPhase value = .ok found ∧
      ∀ phase, found = some phase ↔ value = .text phase.name := by
  cases value with
  | text word =>
    -- The empty word is falsy, so it is never looked up; it is the name of no phase either.
    by_cases hempty : word = ""
    · subst hempty
      refine ⟨none, rfl, fun phase => ?_⟩
      cases phase <;> simp [Phase.name]
    · refine ⟨Phase.ofName? word, by simp [readPhase, Data.isFalsy, hempty], fun phase => ?_⟩
      rw [ofName?_eq_some_iff, Data.text.injEq]
  | list items =>
    obtain rfl : items = [] := not_not.mp h
    exact ⟨none, rfl, by simp⟩
  | object fields =>
    obtain rfl : fields = [] := not_not.mp h
    exact ⟨none, rfl, by simp⟩
  | _ => exact ⟨none, by simp [readPhase], by simp⟩

/-- A text that does not fit is no word to look up. -/
theorem text_cases (value : Data) :
    (∃ s, Reading.text value = .ok s) ∨
      ∃ kind, Reading.text value = .fault kind ∧ kind ≠ .notAWord := by
  cases value with
  | text s => exact .inl ⟨s, rfl⟩
  | bytes bs =>
    cases hdecode : Text.Utf8.decode? bs with
    | some cs => exact .inl ⟨String.ofList cs, by simp [Reading.text, hdecode]⟩
    | none => exact .inr ⟨.notUtf8, by simp [Reading.text, hdecode], nofun⟩
  | brokenText => exact .inr ⟨.notUtf8, rfl, nofun⟩
  | _ => exact .inr ⟨.notText, rfl, nofun⟩

/-- What can be a message is read as a text. -/
theorem readMessage_of_isMessage (h : IsMessage value) : ∃ s, readMessage value = .ok s := by
  unfold readMessage
  split
  · exact ⟨"", rfl⟩
  · next hfull => exact h.resolve_left hfull

/-- What cannot be a message is a fault, though not one that ends all reading. -/
theorem readMessage_of_not_isMessage (h : ¬IsMessage value) :
    ∃ kind, readMessage value = .fault kind ∧ kind ≠ .notAWord := by
  obtain ⟨hfull, htext⟩ := not_or.mp h
  rw [readMessage, if_neg hfull]
  exact (text_cases value).resolve_left htext

/-- The phase in a mapping is compound, or it is read. -/
theorem optional_phase_cases (part : Fields) :
    (NamesCompound (some (.object part)) ∧
      Reading.optional part "phase" none readPhase = .faulty [⟨[.key "phase"], .notAWord⟩]) ∨
    ((∀ value, part.get? "phase" = some value → ¬IsCompound value) ∧
      ∃ found, Reading.optional part "phase" none readPhase = .ok found ∧
        ∀ phase, found = some phase ↔ Names (some (.object part)) phase) := by
  have hnames : ∀ phase, Names (some (.object part)) phase ↔
      part.get? "phase" = some (.text phase.name) := by simp [Names]
  cases hphase : part.get? "phase" with
  | none =>
    refine .inr ⟨?_, none, Reading.optional_of_none hphase, by simp [hnames, hphase]⟩
    rintro _ ⟨⟩
  | some value =>
    rw [Reading.optional_of_some hphase]
    -- A compound value is the only one that the look-up of a word cannot take.
    by_cases hcompound : IsCompound value
    · left
      refine ⟨⟨part, value, rfl, hphase, hcompound⟩, ?_⟩
      rw [readPhase_of_isCompound hcompound]
      rfl
    · right
      obtain ⟨found, hfound, hword⟩ := readPhase_of_not_isCompound hcompound
      refine ⟨by rintro _ ⟨⟩; exact hcompound, found, ?_, fun phase => ?_⟩
      · rw [hfound]
        rfl
      · rw [hword, hnames, hphase, Option.some.injEq]

/-- The message in a mapping is read, or it does not fit. -/
theorem optional_message_cases (part : Fields) :
    ((∀ value, part.get? "message" = some value → IsMessage value) ∧
      ∃ s, Reading.optional part "message" "" readMessage = .ok s) ∨
    ((∃ value, part.get? "message" = some value ∧ ¬IsMessage value) ∧
      ∃ kind, Reading.optional part "message" "" readMessage = .faulty [⟨[.key "message"], kind⟩] ∧
        kind ≠ .notAWord) := by
  cases hmessage : part.get? "message" with
  | none => exact .inl ⟨nofun, "", Reading.optional_of_none hmessage⟩
  | some value =>
    rw [Reading.optional_of_some hmessage]
    by_cases hfits : IsMessage value
    · obtain ⟨s, hs⟩ := readMessage_of_isMessage hfits
      exact .inl ⟨by rintro _ ⟨⟩; exact hfits, s, by rw [hs]; rfl⟩
    · obtain ⟨kind, hkind, hne⟩ := readMessage_of_not_isMessage hfits
      exact .inr ⟨⟨value, rfl, hfits⟩, kind, by rw [hkind]; rfl, hne⟩

/-! ### The whole status -/

/-- A mapping with a compound phase is not tolerated. -/
theorem NamesCompound.not_tolerated {status : Option Data} (h : NamesCompound status) :
    ¬Tolerated status := by
  obtain ⟨part, value, rfl, hphase, hcompound⟩ := h
  rintro (_ | hfalsy | ⟨hword, -⟩)
  · obtain rfl := List.isEmpty_iff.mp hfalsy
    cases hphase
  · exact hword value hphase hcompound

/-- A mapping with a message that does not fit is not tolerated. -/
theorem not_tolerated_of_message (hvalue : part.get? "message" = some value)
    (hfits : ¬IsMessage value) : ¬Tolerated (some (.object part)) := by
  rintro (_ | hfalsy | ⟨-, hmessage⟩)
  · obtain rfl := List.isEmpty_iff.mp hfalsy
    cases hvalue
  · exact hfits (hmessage value hvalue)

/-- Nothing is named where there is nothing. -/
theorem not_names_of_isFalsy (h : value.isFalsy = true) (phase : Phase) :
    ¬Names (some value) phase := by
  rintro ⟨part, ⟨⟩, hphase⟩
  obtain rfl := List.isEmpty_iff.mp h
  cases hphase

/-- How the reading of a status ends. -/
inductive Outcome (status : Option Data) : Except Failure Status → Prop where
  | read (found : Status) (htolerated : Tolerated status)
      (hnames : ∀ phase, found.phase = some phase ↔ Names status phase) :
      Outcome status (.ok found)
  | wrongKind (hcompound : NamesCompound status) : Outcome status (.error .wrongKind)
  | faults (faults : List Fault) (hstatus : ¬Tolerated status)
      (hword : ¬NamesCompound status) : Outcome status (.error (.faults faults))

/-- A mapping for a status is read, is faulty, or ends the reading by its phase. -/
theorem outcome_of_mapping (part : Fields) :
    Outcome (some (.object part)) (Status.read (.object part)).orFail := by
  have hread : Status.read (.object part) =
      Status.mk <$> Reading.optional part "phase" none readPhase
        <*> Reading.optional part "message" "" readMessage := rfl
  -- The fault of a compound phase decides, whatever the message is.
  obtain ⟨hcompound, hphase⟩ | ⟨hword, found, hphase, hnames⟩ := optional_phase_cases part <;>
    obtain ⟨hfits, s, hmessage⟩ | ⟨⟨value, hvalue, hmisfit⟩, kind, hmessage, hkind⟩ :=
      optional_message_cases part <;>
    rw [hread, hphase, hmessage]
  · exact .wrongKind hcompound
  · exact .wrongKind hcompound
  · exact .read ⟨found, s⟩ (.advice hword hfits) hnames
  · have hfailure : (Status.mk <$> Checked.ok found <*>
        Checked.faulty [⟨[.key "message"], kind⟩]).orFail =
          .error (.faults [⟨[.key "message"], kind⟩]) := by
      show (if [Fault.mk [.key "message"] kind].any (·.kind = .notAWord) then _ else _) = _
      simp [hkind]
    rw [hfailure]
    refine .faults _ (not_tolerated_of_message hvalue hmisfit) ?_
    rintro ⟨_, value, ⟨⟩, hget, hcompound⟩
    exact hword value hget hcompound

/-- The status of every object is read, or the reading ends in one of two ways. -/
theorem outcome_of_partOf (object : Fields) :
    Outcome (object.get? "status") (Status.read (partOf object "status")).orFail := by
  cases hstatus : object.get? "status" with
  | none =>
    rw [show partOf object "status" = .object [] by rw [partOf, hstatus]]
    exact .read {} .missing (by simp [Names])
  | some value =>
    -- A status that is there but falsy is read like one that is not there.
    have hpart : partOf object "status" = if value.isFalsy then .object [] else value := by
      rw [partOf, hstatus]
    rw [hpart]
    cases hfalsy : value.isFalsy with
    | true => exact .read {} (.nothing hfalsy) (by simp [not_names_of_isFalsy hfalsy])
    | false =>
      by_cases hmapping : ∃ part, value = .object part
      · obtain ⟨part, rfl⟩ := hmapping
        exact outcome_of_mapping part
      · have hread : (Status.read value).orFail = .error (.faults [⟨[], .notARecord⟩]) := by
          cases value with
          | object part => exact absurd ⟨part, rfl⟩ hmapping
          | _ => rfl
        rw [if_neg Bool.false_ne_true, hread]
        refine .faults _ ?_ ?_
        · rintro (_ | hnothing | _)
          · simp [hfalsy] at hnothing
          · exact hmapping ⟨_, rfl⟩
        · rintro ⟨part, _, ⟨⟩, -⟩
          exact hmapping ⟨part, rfl⟩

end Status

/-! ### The whole object -/

variable {object : Fields} {resource : WebUI}

/-- Beside its status, an object is read as it is read without one. -/
theorem ofObject_eq (hrest : ofObject (.object (object.erase "status")) = .ok resource) :
    ofObject (.object object) = (Status.read (partOf object "status")).orFail.map
      fun status => { resource with status, raw := object } := by
  obtain ⟨metadata, hmetadata, hrecord⟩ := ofObject_eq_ok_iff.mp hrest
  -- Taking the status out changes no other key, so all other parts are read as in `hrest`.
  have hget : ∀ key ≠ "status", object.get? key = (object.erase "status").get? key := by
    intro key hkey
    rw [Table.get?_erase, if_neg hkey]
  have hid := Checked.orFail_eq_ok_iff.mpr (read_id_iff.mpr ⟨hrecord.ns, hrecord.name⟩)
  have hspec := Checked.orFail_eq_ok_iff.mpr hrecord.spec
  have hall : ∀ status, (assemble resource.id resource.spec status metadata object).orFail =
      .ok { resource with status, raw := object } := by
    intro status
    refine Checked.orFail_eq_ok_iff.mpr (assemble_eq_ok_iff.mpr ⟨_, _, _, hrecord.uid, ?_, ?_, rfl⟩)
    · rw [textOr_congr _ (hget "apiVersion" (by decide))]
      exact hrecord.apiVersion
    · rw [textOr_congr _ (hget "kind" (by decide))]
      exact hrecord.kind
  rw [← partOf_congr _ (hget "metadata" (by decide))] at hmetadata
  rw [← partOf_congr _ (hget "spec" (by decide))] at hspec
  simp only [ofObject, hmetadata, hid, hspec]
  cases (Status.read (partOf object "status")).orFail with
  | error failure => rfl
  | ok status => exact hall status

/-- An object that is read without its status is read with it exactly if the status is tolerated:
missing, nothing, or a mapping with a phase that is not compound and a message that is nothing or
a text. The phase is then the one that the status names, and all else is read as without a status.
If the status is not tolerated, the reading fails, and a compound phase makes it fail in its own
way. -/
theorem status_read_iff_tolerated (object : Fields) (resource : WebUI)
    (hrest : ofObject (.object (object.erase "status")) = .ok resource) :
    let status := object.get? "status"
    ((∃ found, ofObject (.object object) = .ok found) ↔ Status.Tolerated status) ∧
      (∀ found, ofObject (.object object) = .ok found →
        found = { resource with status := found.status, raw := object } ∧
          ∀ phase, found.status.phase = some phase ↔ Status.Names status phase) ∧
      ∀ failure, ofObject (.object object) = .error failure →
        (failure = .wrongKind ↔ Status.NamesCompound status) ∧
          (failure = .wrongKind ∨ ∃ faults, failure = .faults faults) := by
  intro status
  rw [ofObject_eq hrest]
  -- All that is left is the reading of the status, and `Outcome` lists how that can end.
  have houtcome := Status.outcome_of_partOf object
  generalize (Status.read (partOf object "status")).orFail = result at houtcome
  cases houtcome with
  | read found htolerated hnames =>
    refine ⟨⟨fun _ => htolerated, fun _ => ⟨_, rfl⟩⟩, ?_, nofun⟩
    rintro _ ⟨⟩
    exact ⟨rfl, hnames⟩
  | wrongKind hcompound =>
    refine ⟨⟨nofun, fun h => absurd h hcompound.not_tolerated⟩, nofun, ?_⟩
    rintro _ ⟨⟩
    exact ⟨⟨fun _ => hcompound, fun _ => rfl⟩, .inl rfl⟩
  | faults faults hstatus hword =>
    refine ⟨⟨nofun, fun h => absurd h hstatus⟩, nofun, ?_⟩
    rintro _ ⟨⟩
    exact ⟨⟨nofun, fun h => absurd h hword⟩, .inr ⟨faults, rfl⟩⟩

/-- An object with a status of someone else. -/
def advisedObject (status : Data) : Fields :=
  [("metadata", .object [("namespace", .text "ns"), ("name", .text "ui")]),
    ("spec", .object [("version", .text "v1.4")]), ("status", status)]

/-- A phase that is a number counts as none. -/
theorem status_read_numberedPhase :
    let object := advisedObject (.object [("phase", .int 3), ("message", .null)])
    let resource : WebUI :=
      { id := ⟨"ns", "ui"⟩, spec := { version := "v1.4" }, raw := object.erase "status" }
    ofObject (.object (object.erase "status")) = .ok resource ∧
      ∃ found, ofObject (.object object) = .ok found ∧ found.id = resource.id ∧
        found.status.phase = none := by
  intro object resource
  have hrest : ofObject (.object (object.erase "status")) = .ok resource := rfl
  obtain ⟨hread, hfound, -⟩ := status_read_iff_tolerated object resource hrest
  obtain ⟨found, hok⟩ := hread.mpr (.advice (by rintro _ ⟨⟩; exact not_false)
    (by rintro _ ⟨⟩; exact .inl rfl))
  obtain ⟨heq, hnames⟩ := hfound found hok
  refine ⟨hrest, found, hok, by rw [heq], ?_⟩
  rw [Option.eq_none_iff_forall_ne_some]
  intro phase hphase
  obtain ⟨_, ⟨⟩, hword⟩ := (hnames phase).mp hphase
  cases hword

/-- A phase in a list ends the reading of an object that is read without its status. -/
theorem listedPhase_ends_reading :
    let object := advisedObject (.object [("phase", .list [.text "PROVISIONED"])])
    (∃ resource, ofObject (.object (object.erase "status")) = .ok resource) ∧
      ofObject (.object object) = .error .wrongKind :=
  ⟨⟨_, rfl⟩, rfl⟩

end ConsoleKeeper.WebUI
