import ConsoleKeeper.Proofs.Data.Fields
import ConsoleKeeper.Proofs.Reading
import ConsoleKeeper.Resource.WebUI

/-!
# `ConsoleKeeper.Proofs.Resource.WebUI`: a status in an object

A resource is read from an object, gets a status, and is written back. `ofObject_eq_ok_iff` takes
the reading apart, `toObject_eq` says what is written if the metadata and the status of the object
are mappings or missing, and `ofObject_written` reads that again.

`toObject_reports_only` is the round trip. Of all the places of an object, a write of a status
changes those of the status. It fills in the names by which the resource was found where they are
missing, and leaves the rest as it was. Another round with the same status changes nothing.
-/

set_option autoImplicit false

namespace ConsoleKeeper.WebUI

variable {object metadata : Fields} {resource : WebUI} {key : String}

/-! ### What a resource is read from -/

/-- Reads the text under a name, or takes a default where the name is missing. -/
def textOr (fields : Fields) (key default : String) : Checked String :=
  match fields.get? key with
  | some value => Reading.text value
  | none => .ok default

/-- A text is read alike from records that have the same under its name. -/
theorem textOr_congr (fields : Fields) {other : Fields} {default : String}
    (h : other.get? key = fields.get? key) :
    textOr other key default = textOr fields key default := by
  rw [textOr, textOr, h]

/-- A text is read from where a default for it was put. -/
theorem textOr_of_filled {fields filled : Fields} {default default' s : String}
    (h : textOr fields key default = .ok s)
    (hfilled : filled.get? key = some ((fields.get? key).getD (.text s))) :
    textOr filled key default' = .ok s := by
  unfold textOr at h ⊢
  rw [hfilled]
  cases hv : fields.get? key with
  | some value =>
    rw [hv] at h
    exact h
  | none => rfl

/-- What an object and its metadata have to say so that a resource is read from them. -/
structure Says (metadata object : Fields) (resource : WebUI) : Prop where
  ns : textOr metadata "namespace" "" = .ok resource.id.ns
  name : textOr metadata "name" "" = .ok resource.id.name
  uid : textOr metadata "uid" "" = .ok resource.uid
  apiVersion : textOr object "apiVersion" defaultApiVersion = .ok resource.apiVersion
  kind : textOr object "kind" defaultKind = .ok resource.kind
  spec : Spec.read (partOf object "spec") = .ok resource.spec
  status : Status.read (partOf object "status") = .ok resource.status
  raw : resource.raw = object

/-- An id is read from the metadata if its two parts are texts. -/
theorem read_id_iff {id : ResourceId} :
    ResourceId.read (.object [("namespace", (metadata.get? "namespace").getD (.text "")),
        ("name", (metadata.get? "name").getD (.text ""))]) = .ok id ↔
      textOr metadata "namespace" "" = .ok id.ns ∧ textOr metadata "name" "" = .ok id.name := by
  have hname : ∀ key s, Reading.text ((metadata.get? key).getD (.text "")) = .ok s ↔
      textOr metadata key "" = .ok s := by
    intro key s
    unfold textOr
    cases metadata.get? key <;> rfl
  cases id
  simp [ResourceId.read, Reading.record, Table.get?_cons, hname]

/-- A resource is put together if the three texts beside its parts can be read. -/
theorem assemble_eq_ok_iff {id : ResourceId} {spec : Spec} {status : Status} :
    assemble id spec status metadata object = .ok resource ↔
      ∃ uid apiVersion kind, textOr metadata "uid" "" = .ok uid ∧
        textOr object "apiVersion" defaultApiVersion = .ok apiVersion ∧
        textOr object "kind" defaultKind = .ok kind ∧
        { id, uid, apiVersion, kind, spec, status, raw := object } = resource := by
  -- The record is put together field by field, so it is enough to write it as one application to
  -- three readings; `Checked` has the rest.
  have htexts : assemble id spec status metadata object =
      (fun uid apiVersion kind => { id, uid, apiVersion, kind, spec, status, raw := object })
        <$> (textOr metadata "uid" "").within (.key "uid")
        <*> (textOr object "apiVersion" defaultApiVersion).within (.key "api_version")
        <*> (textOr object "kind" defaultKind).within (.key "kind") := by
    simp only [assemble, textOr]
    cases metadata.get? "uid" <;> cases object.get? "apiVersion" <;> cases object.get? "kind" <;>
      rfl
  simp [htexts]

/-- A resource is read from an object that says all of it. -/
theorem ofObject_eq_ok_iff :
    ofObject (.object object) = .ok resource ↔
      ∃ metadata, partOf object "metadata" = .object metadata ∧ Says metadata object resource := by
  cases hm : partOf object "metadata" with
  | object metadata =>
    simp only [ofObject, hm, bind_eq_ok_iff, Checked.orFail_eq_ok_iff, read_id_iff,
      assemble_eq_ok_iff, Data.object.injEq, exists_eq_left']
    constructor
    · rintro ⟨id, ⟨hns, hname⟩, spec, hspec, status, hstatus, uid, apiVersion, kind, huid,
        hapiVersion, hkind, rfl⟩
      exact ⟨hns, hname, huid, hapiVersion, hkind, hspec, hstatus, rfl⟩
    · intro h
      obtain ⟨id, uid, apiVersion, kind, spec, status, raw⟩ := resource
      obtain rfl : raw = object := h.raw
      exact ⟨id, ⟨h.ns, h.name⟩, spec, h.spec, status, h.status, uid, apiVersion, kind, h.uid,
        h.apiVersion, h.kind, rfl⟩
  -- Metadata that is no mapping is turned down before anything else is read.
  | _ => simp [ofObject, hm]

/-- A part that is missing or a mapping is read as a mapping. -/
theorem partOf_of_openAt (h : object.OpenAt key) :
    partOf object key = .object (object.mappingAt key) := by
  unfold partOf Fields.mappingAt
  cases hv : object.get? key with
  | none => rfl
  | some value =>
    obtain ⟨inner, rfl⟩ := h value hv
    cases inner <;> rfl

/-! ### What is written -/

/-- The status of the object to write: what was read, with the present phase and message. -/
def writtenStatus (resource : WebUI) (status : Fields) : Fields :=
  (status.put "phase" (.text resource.status.phaseWord)).put "message"
    (.text resource.status.message)

/-- The object to write, where the one that was read has room for metadata and a status. -/
def written (resource : WebUI) : Fields :=
  (((resource.raw.setDefault "apiVersion" (.text resource.apiVersion)).setDefault "kind"
    (.text resource.kind)).put "metadata"
      (.object (resource.writtenMetadata (resource.raw.mappingAt "metadata")))).put "status"
        (.object (resource.writtenStatus (resource.raw.mappingAt "status")))

/-- With both mappings in place a resource is written into its object. -/
theorem toObject_eq (hmetadata : resource.raw.OpenAt "metadata")
    (hstatus : resource.raw.OpenAt "status") : resource.toObject = .ok resource.written := by
  unfold toObject
  simp only [Fields.get?_setDefault, String.reduceEq, if_false, hmetadata.getD]
  simp only [Table.get?_put, Fields.get?_setDefault, String.reduceEq, if_false, hstatus.getD]
  rfl

/-- What stands under a name of the object to write. -/
theorem get?_written (resource : WebUI) (key : String) :
    resource.written.get? key =
      if key = "status" then
        some (.object (resource.writtenStatus (resource.raw.mappingAt "status")))
      else if key = "metadata" then
        some (.object (resource.writtenMetadata (resource.raw.mappingAt "metadata")))
      else if key = "kind" then
        some ((resource.raw.get? "kind").getD (.text resource.kind))
      else if key = "apiVersion" then
        some ((resource.raw.get? "apiVersion").getD (.text resource.apiVersion))
      else resource.raw.get? key := by
  simp only [written, Table.get?_put, Fields.get?_setDefault, String.reduceEq, if_false]

/-- What stands under a name of the metadata to write. -/
theorem get?_writtenMetadata (resource : WebUI) (metadata : Fields) (key : String) :
    (resource.writtenMetadata metadata).get? key =
      if key = "uid" ∧ resource.uid ≠ "" then
        some ((metadata.get? "uid").getD (.text resource.uid))
      else if key = "name" then some ((metadata.get? "name").getD (.text resource.id.name))
      else if key = "namespace" then some ((metadata.get? "namespace").getD (.text resource.id.ns))
      else metadata.get? key := by
  unfold writtenMetadata
  split
  · next huid =>
    simp [Fields.get?_setDefault, String.isEmpty_iff.mp huid]
  · next huid =>
    simp only [String.isEmpty_iff] at huid
    simp [Fields.get?_setDefault, huid]

/-- What stands under a name of the status to write. -/
theorem get?_writtenStatus (resource : WebUI) (status : Fields) (key : String) :
    (resource.writtenStatus status).get? key =
      if key = "message" then some (.text resource.status.message)
      else if key = "phase" then some (.text resource.status.phaseWord)
      else status.get? key := by
  simp only [writtenStatus, Table.get?_put]

/-! ### Reading what was written -/

/-- The word for a phase, or for none, is read as it was meant. -/
theorem readPhase_phaseWord (status : Status) :
    Status.readPhase (.text status.phaseWord) = .ok status.phase := by
  obtain ⟨_ | phase, message⟩ := status
  · rfl
  · cases phase <;> rfl

/-- A message that is a text is read as it is. -/
theorem readMessage_eq (message : String) : Status.readMessage (.text message) = .ok message := by
  unfold Status.readMessage
  split
  · next h => rw [String.isEmpty_iff.mp h]
  · rfl

/-- A mapping is found as it is. -/
theorem partOf_of_get? {inner : Fields} (h : object.get? key = some (.object inner)) :
    partOf object key = .object inner := by
  unfold partOf
  rw [h]
  cases inner <;> rfl

/-- A part is the same in objects that have the same under its name. -/
theorem partOf_congr (object : Fields) {other : Fields} (h : other.get? key = object.get? key) :
    partOf other key = partOf object key := by
  rw [partOf, partOf, h]

/-- A status is read back from where it was written, whatever else stands there. -/
theorem read_writtenStatus (resource : WebUI) (status : Fields) :
    Status.read (.object (resource.writtenStatus status)) = .ok resource.status := by
  simp [Status.read, Reading.record, get?_writtenStatus, readPhase_phaseWord, readMessage_eq]

section RoundTrip

variable (hread : ofObject (.object object) = .ok resource) (hmetadata : object.OpenAt "metadata")
include hread

/-- A resource keeps the object that it was read from. -/
theorem raw_of_ofObject : resource.raw = object := by
  obtain ⟨_, -, h⟩ := ofObject_eq_ok_iff.mp hread
  exact h.raw

include hmetadata

/-- The object that is written with a status is read as the resource with that status. -/
theorem ofObject_written (status : Status) :
    ofObject (.object (written { resource with status })) =
      .ok { resource with status, raw := written { resource with status } } := by
  obtain ⟨metadata, hm, h⟩ := ofObject_eq_ok_iff.mp hread
  rw [partOf_of_openAt hmetadata, Data.object.injEq] at hm
  subst hm
  have hraw := h.raw
  refine ofObject_eq_ok_iff.mpr ⟨_, partOf_of_get? (by simp [get?_written]; rfl), ?_⟩
  -- Each text is read from where it stood, or from where it was filled in.
  constructor
  · exact textOr_of_filled h.ns (by simp [get?_writtenMetadata, hraw])
  · exact textOr_of_filled h.name (by simp [get?_writtenMetadata, hraw])
  · by_cases huid : resource.uid = ""
    · rw [textOr_congr (object.mappingAt "metadata")
        (by simp [get?_writtenMetadata, hraw, huid])]
      exact h.uid
    · exact textOr_of_filled h.uid (by simp [get?_writtenMetadata, hraw, huid])
  · exact textOr_of_filled h.apiVersion (by simp [get?_written, hraw])
  · exact textOr_of_filled h.kind (by simp [get?_written, hraw])
  · rw [partOf_congr object (by simp [get?_written, hraw])]
    exact h.spec
  · rw [partOf_of_get? (by simp [get?_written]; rfl)]
    exact read_writtenStatus _ _
  · rfl

end RoundTrip

/-- Nothing is filled in twice. -/
theorem writtenMetadata_idem (resource : WebUI) (metadata : Fields) :
    resource.writtenMetadata (resource.writtenMetadata metadata) =
      resource.writtenMetadata metadata := by
  -- Written metadata has all that is filled in, so a second time there is nothing to fill in.
  have hns : (resource.writtenMetadata metadata).get? "namespace" =
      some ((metadata.get? "namespace").getD (.text resource.id.ns)) := by
    simp [get?_writtenMetadata]
  have hname : (resource.writtenMetadata metadata).get? "name" =
      some ((metadata.get? "name").getD (.text resource.id.name)) := by
    simp [get?_writtenMetadata]
  rw [writtenMetadata, Fields.setDefault_eq_self hns, Fields.setDefault_eq_self hname]
  split
  · rfl
  · next huid =>
    rw [String.isEmpty_iff] at huid
    have huid : (resource.writtenMetadata metadata).get? "uid" =
        some ((metadata.get? "uid").getD (.text resource.uid)) := by
      simp [get?_writtenMetadata, huid]
    exact Fields.setDefault_eq_self huid _

/-- Writing a status twice is writing it once. -/
theorem writtenStatus_idem (resource : WebUI) (status : Fields) :
    resource.writtenStatus (resource.writtenStatus status) = resource.writtenStatus status := by
  have hphase : (resource.writtenStatus status).get? "phase" =
      some (.text resource.status.phaseWord) := by
    simp [get?_writtenStatus]
  have hmessage : (resource.writtenStatus status).get? "message" =
      some (.text resource.status.message) := by
    simp [get?_writtenStatus]
  rw [writtenStatus, Table.put_eq_self hphase, Table.put_eq_self hmessage]

/-- What is written under the name of the metadata. -/
theorem get?_written_metadata (resource : WebUI) :
    resource.written.get? "metadata" =
      some (.object (resource.writtenMetadata (resource.raw.mappingAt "metadata"))) := by
  simp [get?_written]

/-- What is written under the name of the status. -/
theorem get?_written_status (resource : WebUI) :
    resource.written.get? "status" =
      some (.object (resource.writtenStatus (resource.raw.mappingAt "status"))) := by
  simp [get?_written]

/-- Writing what was written changes nothing. -/
theorem written_idem (resource : WebUI) :
    written { resource with raw := resource.written } = resource.written := by
  have hkind := get?_written resource "kind"
  have hapiVersion := get?_written resource "apiVersion"
  simp only [String.reduceEq, if_false, if_true] at hkind hapiVersion
  -- What is written beside the object depends on the rest of the resource only.
  show (((resource.written.setDefault "apiVersion" _).setDefault "kind" _).put "metadata"
    (.object (resource.writtenMetadata (resource.written.mappingAt "metadata")))).put "status"
      (.object (resource.writtenStatus (resource.written.mappingAt "status"))) = _
  rw [Fields.mappingAt_of_get? resource.get?_written_metadata,
    Fields.mappingAt_of_get? resource.get?_written_status, writtenMetadata_idem,
    writtenStatus_idem, Fields.setDefault_eq_self hapiVersion, Fields.setDefault_eq_self hkind,
    Table.put_eq_self resource.get?_written_metadata,
    Table.put_eq_self resource.get?_written_status]

/-- A resource is read from the object, and it can be written back. -/
structure Describes (object : Fields) (resource : WebUI) : Prop where
  read : ofObject (.object object) = .ok resource
  metadata : object.OpenAt "metadata"
  status : object.OpenAt "status"

namespace Describes

variable (h : Describes object resource) (status : Status)
include h

/-- A resource that was read is written with any status. -/
theorem toObject :
    WebUI.toObject { resource with status } = .ok (written { resource with status }) :=
  have hraw := raw_of_ofObject h.read
  toObject_eq (hraw ▸ h.metadata) (hraw ▸ h.status)

/-- What is written with a status describes the resource with that status. -/
theorem written : Describes (written { resource with status })
    { resource with status, raw := WebUI.written { resource with status } } where
  read := ofObject_written h.read h.metadata status
  metadata := Fields.openAt_of_get? (get?_written_metadata _)
  status := Fields.openAt_of_get? (get?_written_status _)

end Describes

/-! ### Only the status -/

/-- The places of a status in an object, with what a write of the resource puts there. -/
def reportedAt (resource : WebUI) : List (List String × String) :=
  [(["status", "phase"], resource.status.phaseWord),
    (["status", "message"], resource.status.message)]

/-- The places of an object that a write of the resource fills in where they are missing, with what
it puts there. A uid is filled in only if there is one. -/
def filledAt (resource : WebUI) : List (List String × String) :=
  [(["apiVersion"], resource.apiVersion), (["kind"], resource.kind),
    (["metadata", "namespace"], resource.id.ns), (["metadata", "name"], resource.id.name)] ++
  (if resource.uid = "" then [] else [(["metadata", "uid"], resource.uid)])

/-- The second object is the first with the status of the resource in it, and with the names of the
resource where they are missing. -/
structure OnlyReported (resource : WebUI) (object body : Fields) : Prop where
  reported : ∀ place ∈ resource.reportedAt,
    (Data.object body).at? place.1 = some (.text place.2)
  filled : ∀ place ∈ resource.filledAt,
    (Data.object body).at? place.1 = some (((Data.object object).at? place.1).getD (.text place.2))
  elsewhere : ∀ path,
    (∀ place ∈ resource.reportedAt ++ resource.filledAt, Data.Apart place.1 path) →
      (Data.object body).at? path = (Data.object object).at? path

/-! Three ways lead past the places that are written: below the metadata, below the status, and by
another name. -/

/-- The metadata stay as they are, apart from what identifies the resource. -/
theorem at?_written_metadata (resource : WebUI) (h : resource.raw.OpenAt "metadata") {k : String}
    (hns : k ≠ "namespace") (hname : k ≠ "name") (huid : ¬(k = "uid" ∧ resource.uid ≠ ""))
    (rest : List String) :
    (Data.object resource.written).at? ("metadata" :: k :: rest) =
      (Data.object resource.raw).at? ("metadata" :: k :: rest) := by
  have hwritten := resource.get?_written_metadata
  rw [Data.at?_below (Fields.openAt_of_get? hwritten), Data.at?_below h,
    Fields.mappingAt_of_get? hwritten, Data.at?_cons, Data.at?_cons, get?_writtenMetadata,
    if_neg huid, if_neg hname, if_neg hns]

/-- The status stays as it is, apart from phase and message. -/
theorem at?_written_status (resource : WebUI) (h : resource.raw.OpenAt "status") {k : String}
    (hphase : k ≠ "phase") (hmessage : k ≠ "message") (rest : List String) :
    (Data.object resource.written).at? ("status" :: k :: rest) =
      (Data.object resource.raw).at? ("status" :: k :: rest) := by
  have hwritten := resource.get?_written_status
  rw [Data.at?_below (Fields.openAt_of_get? hwritten), Data.at?_below h,
    Fields.mappingAt_of_get? hwritten, Data.at?_cons, Data.at?_cons, get?_writtenStatus,
    if_neg hmessage, if_neg hphase]

/-- What is neither status nor metadata, kind or version stays as it is. -/
theorem at?_written_other (resource : WebUI) {key : String} (hstatus : key ≠ "status")
    (hmetadata : key ≠ "metadata") (hkind : key ≠ "kind") (hapiVersion : key ≠ "apiVersion")
    (rest : List String) :
    (Data.object resource.written).at? (key :: rest) =
      (Data.object resource.raw).at? (key :: rest) := by
  rw [Data.at?_cons, Data.at?_cons, get?_written, if_neg hstatus, if_neg hmetadata, if_neg hkind,
    if_neg hapiVersion]

/-- A path that is apart from the places that are written leads to what stood there before. -/
theorem at?_written_of_apart (resource : WebUI) (hmetadata : resource.raw.OpenAt "metadata")
    (hstatus : resource.raw.OpenAt "status") {path : List String}
    (hapart : ∀ place ∈ resource.reportedAt ++ resource.filledAt, Data.Apart place.1 path) :
    (Data.object resource.written).at? path = (Data.object resource.raw).at? path := by
  -- Such a path does not stop on the way to one of the places.
  cases path with
  | nil => exact absurd (hapart _ List.mem_cons_self) (Data.not_apart_nil_right _)
  | cons key rest =>
    simp only [reportedAt, filledAt, List.forall_mem_append, List.forall_mem_cons,
      Data.apart_cons_iff] at hapart
    obtain ⟨⟨hphase, hmessage, -⟩, ⟨hapiVersion, hkind, hns, hname, -⟩, huid⟩ := hapart
    by_cases hm : "metadata" = key
    · subst hm
      cases rest with
      | nil => exact absurd (hns rfl) (Data.not_apart_nil_right _)
      | cons k rest =>
        have hns := Data.apart_singleton_iff.mp (hns rfl)
        have hname := Data.apart_singleton_iff.mp (hname rfl)
        refine resource.at?_written_metadata hmetadata hns.symm hname.symm ?_ rest
        rintro ⟨rfl, hne⟩
        simp [hne, Data.apart_cons_iff, Data.not_apart_nil_left] at huid
    · by_cases hs : "status" = key
      · subst hs
        cases rest with
        | nil => exact absurd (hphase rfl) (Data.not_apart_nil_right _)
        | cons k rest =>
          have hphase := Data.apart_singleton_iff.mp (hphase rfl)
          have hmessage := Data.apart_singleton_iff.mp (hmessage rfl)
          exact resource.at?_written_status hstatus hphase.symm hmessage.symm rest
      · refine resource.at?_written_other (Ne.symm hs) (Ne.symm hm) ?_ ?_ rest
        · exact fun h => Data.not_apart_nil_left _ (hkind h.symm)
        · exact fun h => Data.not_apart_nil_left _ (hapiVersion h.symm)

/-- Writing a resource changes only what it reports. -/
theorem onlyReported_written (resource : WebUI) (hmetadata : resource.raw.OpenAt "metadata")
    (hstatus : resource.raw.OpenAt "status") :
    OnlyReported resource resource.raw resource.written := by
  have hmetadata' := Fields.openAt_of_get? resource.get?_written_metadata
  have hstatus' := Fields.openAt_of_get? resource.get?_written_status
  have hunder := Fields.mappingAt_of_get? resource.get?_written_metadata
  have hreport := Fields.mappingAt_of_get? resource.get?_written_status
  refine ⟨?_, ?_, fun path => resource.at?_written_of_apart hmetadata hstatus⟩
  · simp [reportedAt, Data.at?_below hstatus', hreport, get?_writtenStatus]
  · -- An identity without a uid leaves the uid out of what is filled in.
    by_cases huid : resource.uid = ""
    · simp [filledAt, huid, Data.at?_below hmetadata', Data.at?_below hmetadata, hunder,
        get?_written, get?_writtenMetadata]
    · simp [filledAt, huid, Data.at?_below hmetadata', Data.at?_below hmetadata, hunder,
        get?_written, get?_writtenMetadata]

/-- A status goes into an object and nothing else of it changes. If a resource is read from an
object whose metadata and status are mappings or missing, it can be written back with any status.
What is written differs from the object at the places of the status and at names that were missing.
It is read as the resource with the new status, and writing that gives it once more. -/
theorem toObject_reports_only (object : Fields) (resource : WebUI) (status : Status)
    (hread : ofObject (.object object) = .ok resource) (hmetadata : object.OpenAt "metadata")
    (hstatus : object.OpenAt "status") :
    let reported := { resource with status }
    ∃ body, reported.toObject = .ok body ∧ OnlyReported reported object body ∧
      reported.raw = object ∧ ofObject (.object body) = .ok { reported with raw := body } ∧
      toObject { reported with raw := body } = .ok body := by
  intro reported
  obtain rfl : resource.raw = object := raw_of_ofObject hread
  refine ⟨reported.written, toObject_eq hmetadata hstatus,
    onlyReported_written reported hmetadata hstatus, rfl,
    ofObject_written hread hmetadata status, ?_⟩
  -- What was written has its metadata and its status open, so it can be written once more.
  have hagain : toObject { reported with raw := reported.written } = _ := toObject_eq
    (Fields.openAt_of_get? reported.get?_written_metadata)
    (Fields.openAt_of_get? reported.get?_written_status)
  rwa [written_idem] at hagain

/-- An object without a uid, with a status that others extended and a spec with names of theirs. -/
def extendedObject : Fields :=
  [("metadata", .object [("name", .text "ui"), ("namespace", .text "ns"),
      ("resourceVersion", .text "7")]),
    ("spec", .object [("version", .text "v1.4"), ("branding", .null)]),
    ("status", .object [("phase", .text "UPGRADING"), ("conditions", .list [.text "Ready"])])]

/-- The resource that the object describes gets an empty phase and a message. -/
theorem toObject_reports_only_extendedObject :
    let resource : WebUI :=
      { id := ⟨"ns", "ui"⟩, spec := { version := "v1.4" }, raw := extendedObject }
    let status : Status := { message := "Waiting." }
    ofObject (.object extendedObject) = .ok resource ∧ extendedObject.OpenAt "metadata" ∧
      extendedObject.OpenAt "status" ∧
      ∃ body, toObject { resource with status } = .ok body ∧
        OnlyReported { resource with status } extendedObject body ∧
        ofObject (.object body) = .ok { resource with status, raw := body } ∧
        toObject { resource with status, raw := body } = .ok body := by
  intro resource status
  have hread : ofObject (.object extendedObject) = .ok resource := rfl
  have hmetadata : extendedObject.OpenAt "metadata" := Fields.openAt_of_get? rfl
  have hstatus : extendedObject.OpenAt "status" := Fields.openAt_of_get? rfl
  obtain ⟨body, hwrite, honly, -, hagain⟩ :=
    toObject_reports_only extendedObject resource status hread hmetadata hstatus
  exact ⟨hread, hmetadata, hstatus, body, hwrite, honly, hagain⟩

end ConsoleKeeper.WebUI
