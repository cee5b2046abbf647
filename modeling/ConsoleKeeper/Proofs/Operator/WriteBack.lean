import ConsoleKeeper.Proofs.Operator.Contract

/-!
# `ConsoleKeeper.Proofs.Operator.WriteBack`: a status for what was read

A resource is read from an object even if the metadata or the status of the object is there and
counts as nothing: null, false, zero, or empty. To write the resource back takes more. Something
that is there has to be a mapping, and null is none. `Hollow` parts of an object make the
difference.

`toObject_of_read` compares the two: a resource that was read can be written back, with any status,
if and only if neither part is hollow. Over an interface, a status is read for and written in one
report. `statuses_reach_what_was_read` says how such a report ends: a refused call only drops the
status, but a hollow part ends the report with a failure that no handler knows
(`nulledServer_ends_pass`).
-/

set_option autoImplicit false

namespace ConsoleKeeper

namespace WebUI

variable {object : Fields} {resource : WebUI} {key : String} {failure : Failure}

/-! ### Hollow parts -/

/-- A part of an object is there and counts as nothing, but it is no mapping. -/
def Hollow (object : Fields) (key : String) : Prop :=
  ∃ value, object.get? key = some value ∧ value.isFalsy = true ∧ value ≠ .object []

/-- What is read as a mapping is one, or it is missing or hollow. -/
theorem hollow_iff_not_openAt {part : Fields} (h : partOf object key = .object part) :
    Hollow object key ↔ ¬object.OpenAt key := by
  constructor
  · rintro ⟨value, hvalue, hfalsy, hne⟩ hopen
    obtain ⟨inner, rfl⟩ := hopen value hvalue
    -- A mapping counts as nothing only if it is empty.
    rw [Data.isFalsy, List.isEmpty_iff] at hfalsy
    exact hne (congrArg Data.object hfalsy)
  · intro hclosed
    simp only [Fields.OpenAt, not_forall] at hclosed
    obtain ⟨value, hvalue, hno⟩ := hclosed
    refine ⟨value, hvalue, ?_, fun heq => hno ⟨[], heq⟩⟩
    cases hfull : value.isFalsy with
    | true => rfl
    | false =>
      -- What does not count as nothing is taken as it is.
      simp only [partOf, hvalue, hfull] at h
      exact absurd ⟨part, h⟩ hno

/-- A status is read from a mapping only. -/
theorem Status.eq_object_of_read {document : Data} {status : Status}
    (h : Status.read document = .ok status) : ∃ part, document = .object part := by
  cases document with
  | object part => exact ⟨part, rfl⟩
  | _ => cases h

section Read

variable (hread : ofObject (.object object) = .ok resource)
include hread

/-- An object that is read is open where it has no hollow part. -/
theorem openAt_iff_of_read (hkey : key = "metadata" ∨ key = "status") :
    object.OpenAt key ↔ ¬Hollow object key := by
  obtain ⟨metadata, hmetadata, hsays⟩ := ofObject_eq_ok_iff.mp hread
  obtain rfl | rfl := hkey
  · rw [hollow_iff_not_openAt hmetadata, not_not]
  · obtain ⟨part, hpart⟩ := Status.eq_object_of_read hsays.status
    rw [hollow_iff_not_openAt hpart, not_not]

end Read

/-- Why a resource cannot be written back to an object. -/
inductive Obstacle (object : Fields) : Failure → Prop where
  | metadata (h : Hollow object "metadata") : Obstacle object .noMember
  | status (hmetadata : ¬Hollow object "metadata") (h : Hollow object "status") :
      Obstacle object .wrongKind

/-- Without a mapping for its metadata a resource has no object. -/
theorem toObject_of_not_openAt_metadata (h : ¬resource.raw.OpenAt "metadata") :
    resource.toObject = .error .noMember := by
  unfold toObject
  simp only [Fields.get?_setDefault, String.reduceEq, if_false]
  cases hv : resource.raw.get? "metadata" with
  | none => exact absurd (fun value hvalue => by rw [hv] at hvalue; cases hvalue) h
  | some value =>
    cases value with
    | object inner => exact absurd (Fields.openAt_of_get? hv) h
    | _ => rfl

/-- Without a mapping for its status a resource has no object. -/
theorem toObject_of_not_openAt_status (hmetadata : resource.raw.OpenAt "metadata")
    (h : ¬resource.raw.OpenAt "status") : resource.toObject = .error .wrongKind := by
  unfold toObject
  simp only [Fields.get?_setDefault, String.reduceEq, if_false, hmetadata.getD]
  simp only [Table.get?_put, Fields.get?_setDefault, String.reduceEq, if_false]
  cases hv : resource.raw.get? "status" with
  | none => exact absurd (fun value hvalue => by rw [hv] at hvalue; cases hvalue) h
  | some value =>
    cases value with
    | object inner => exact absurd (Fields.openAt_of_get? hv) h
    | _ => rfl

section Read

variable (hread : ofObject (.object object) = .ok resource)
include hread

/-- An object that is read is open, or there is an obstacle. -/
theorem openAt_or_obstacle :
    object.OpenAt "metadata" ∧ object.OpenAt "status" ∨ ∃ failure, Obstacle object failure := by
  by_cases hmetadata : Hollow object "metadata"
  · exact .inr ⟨_, .metadata hmetadata⟩
  · by_cases hstatus : Hollow object "status"
    · exact .inr ⟨_, .status hmetadata hstatus⟩
    · exact .inl ⟨(openAt_iff_of_read hread (.inl rfl)).mpr hmetadata,
        (openAt_iff_of_read hread (.inr rfl)).mpr hstatus⟩

/-- An obstacle is what the writing fails with. -/
theorem Obstacle.toObject_eq (h : Obstacle object failure) (status : Status) :
    toObject { resource with status } = .error failure := by
  have hmetadata := openAt_iff_of_read hread (.inl rfl)
  have hstatus := openAt_iff_of_read hread (.inr rfl)
  obtain rfl := raw_of_ofObject hread
  cases h with
  | metadata hhollow =>
    exact toObject_of_not_openAt_metadata fun hopen => hmetadata.mp hopen hhollow
  | status hfull hhollow =>
    exact toObject_of_not_openAt_status (hmetadata.mpr hfull) fun hopen =>
      hstatus.mp hopen hhollow

/-- With both mappings every status can be written. -/
theorem toObject_of_open (hopen : object.OpenAt "metadata" ∧ object.OpenAt "status")
    (status : Status) :
    toObject { resource with status } = .ok (written { resource with status }) := by
  obtain rfl := raw_of_ofObject hread
  exact toObject_eq hopen.1 hopen.2

/-- A resource that was read can be written back, with any status, if and only if no part of the
object is hollow. Otherwise it fails with the obstacle. -/
theorem toObject_of_read (status : Status) :
    ((∃ body, toObject { resource with status } = .ok body) ↔
        ¬Hollow object "metadata" ∧ ¬Hollow object "status") ∧
      ∀ failure, toObject { resource with status } = .error failure ↔ Obstacle object failure := by
  rw [← openAt_iff_of_read hread (.inl rfl), ← openAt_iff_of_read hread (.inr rfl)]
  -- Both parts are open, or there is an obstacle; each of the two decides both equivalences.
  obtain hopen | ⟨failure, hobstacle⟩ := openAt_or_obstacle hread
  · have hwrite := toObject_of_open hread hopen status
    refine ⟨iff_of_true ⟨_, hwrite⟩ hopen, fun failure => iff_of_false ?_ fun h => ?_⟩
    · rw [hwrite]
      exact fun heq => by cases heq
    · have hfail := h.toObject_eq hread status
      rw [hwrite] at hfail
      cases hfail
  · have hfail := hobstacle.toObject_eq hread status
    refine ⟨iff_of_false ?_ fun hopen => ?_, fun failure => ⟨fun h => ?_, fun h => ?_⟩⟩
    · rw [hfail]
      exact fun ⟨body, heq⟩ => by cases heq
    · rw [toObject_of_open hread hopen status] at hfail
      cases hfail
    · rw [hfail] at h
      cases h
      exact hobstacle
    · exact h.toObject_eq hread status

end Read

end WebUI

namespace Operator

open Interface (Refusal outcomeOf Readable)

variable {κ ρ : Type} {calls : Interface κ ρ} {settings : ClusterSettings} {id : ResourceId}
  {phase : Phase} {message : String} {w w₁ w₂ : World κ ρ}

/-! ### A report over an interface -/

/-- The call that reads a resource. -/
def askObject (calls : Interface κ ρ) (settings : ClusterSettings) (id : ResourceId) :
    Act κ ρ Data :=
  calls.getObject settings.group settings.version id.ns settings.plural id.name

/-- The call that replaces a resource by an object. -/
def giveObject (calls : Interface κ ρ) (settings : ClusterSettings) (id : ResourceId)
    (body : Fields) : Act κ ρ Data :=
  calls.replaceObject settings.group settings.version id.ns settings.plural id.name (.object body)

/-- What a report of a status owes over an interface. -/
structure ReportContract (calls : Interface κ ρ) (settings : ClusterSettings) (id : ResourceId)
    (phase : Phase) (message : String) (w : World κ ρ) : Prop where
  /-- If the reading is turned down, the status is dropped. -/
  unread : ∀ refusal w₁, (askObject calls settings id).runOn w =
      (outcomeOf (.error refusal), w₁) →
    ((reportStatus (calls.cluster settings) ⟨id, phase, .text message⟩).runOn w).1 = .ok false
  /-- If no part of the object is hollow, the status is written, or it is dropped where the writing
  is turned down. -/
  written : ∀ object resource reply w₁ w₂,
    (askObject calls settings id).runOn w = (.ok (.object object), w₁) →
    WebUI.ofObject (.object object) = .ok resource →
    ¬WebUI.Hollow object "metadata" → ¬WebUI.Hollow object "status" →
    (giveObject calls settings resource.id
      (WebUI.written { resource with status := ⟨some phase, message⟩ })).runOn w₁ =
        (outcomeOf reply, w₂) →
    Readable WebUI.ofObject reply →
    ∃ landed, ((reportStatus (calls.cluster settings) ⟨id, phase, .text message⟩).runOn w).1 =
        .ok landed ∧ (landed = true ↔ ∃ document, reply = .ok document)
  /-- If a part of the object is hollow, the report fails as soon as it is read, and nothing is
  written. -/
  hollow : ∀ object resource failure w₁,
    (askObject calls settings id).runOn w = (.ok (.object object), w₁) →
    WebUI.ofObject (.object object) = .ok resource → WebUI.Obstacle object failure →
    (reportStatus (calls.cluster settings) ⟨id, phase, .text message⟩).runOn w =
      (.error failure, w₁)

/-- A refused call about a resource is a cluster error to its caller. -/
theorem catching_refused {α : Type} {ask : Act κ ρ Data} {refusal : Refusal} (object : ObjectName)
    (read : Data → Except Failure α)
    (h : ask.runOn w = (outcomeOf (.error refusal), w₁)) :
    ∃ e w', (Act.catching Failure.cluster? (do
        let answer ← Interface.call object ask
        Act.lift (read answer))).runOn w = (.ok (.error e), w') := by
  obtain ⟨w', hrun, -⟩ := Interface.read_run_refused object read h
  have hpick : Failure.cluster? (.operator (refusal.error object)) =
      some (refusal.error object) := by
    simp [Failure.cluster?, refusal.isCluster_error object]
  exact ⟨_, w', Act.runOn_catching_some hrun hpick⟩

/-- A resource that can be written is stored, or the call is refused. -/
theorem catching_updateWebUI {resource : WebUI} {body : Fields} {reply : Except Refusal Data}
    (hbody : resource.toObject = .ok body)
    (hgive : (giveObject calls settings resource.id body).runOn w = (outcomeOf reply, w₁))
    (hreadable : Readable WebUI.ofObject reply) :
    ∃ outcome w', (Act.catching Failure.cluster?
        ((calls.cluster settings).updateWebUI resource)).runOn w = (.ok outcome, w') ∧
      ((∃ stored, outcome = .ok stored) ↔ ∃ document, reply = .ok document) := by
  show ∃ outcome w', (Act.catching _ (calls.updateWebUI settings resource)).runOn w = _ ∧ _
  rw [Interface.updateWebUI, hbody, Act.lift_ok_bind]
  -- An answer that can be read is no failure, and a refusal becomes an error of the cluster,
  -- which is caught.
  cases reply with
  | ok document =>
    obtain ⟨stored, hstored⟩ := hreadable document rfl
    have hrun := Interface.read_run_ok ⟨settings.kind, resource.id.ns, resource.id.name⟩
      WebUI.ofObject hgive
    rw [hstored] at hrun
    exact ⟨.ok stored, w₁, Act.runOn_catching_ok hrun, by simp⟩
  | error refusal =>
    obtain ⟨e, w', hcaught⟩ := catching_refused ⟨settings.kind, resource.id.ns, resource.id.name⟩
      WebUI.ofObject hgive
    exact ⟨.error e, w', hcaught, by simp⟩

section Report

variable {object : Fields} {resource : WebUI}
  (hask : (askObject calls settings id).runOn w = (.ok (.object object), w₁))
  (hread : WebUI.ofObject (.object object) = .ok resource)
include hask hread

/-- After the reading, a report writes the status. -/
theorem reportStatus_of_read :
    (reportStatus (calls.cluster settings) ⟨id, phase, .text message⟩).runOn w =
      (writeStatus (calls.cluster settings) ⟨id, phase, .text message⟩ resource).runOn w₁ := by
  have hgot : ((calls.cluster settings).getWebUI id).runOn w = (.ok resource, w₁) := by
    rw [← hread]
    exact Interface.read_run_ok ⟨settings.kind, id.ns, id.name⟩ WebUI.ofObject hask
  rw [reportStatus, Act.runOn_bind_ok _ (Act.runOn_catching_ok hgot)]

/-- A status is written into an open object, or it is dropped. -/
theorem reportStatus_of_open (hopen : object.OpenAt "metadata" ∧ object.OpenAt "status")
    {reply : Except Refusal Data}
    (hgive : (giveObject calls settings resource.id
      (WebUI.written { resource with status := ⟨some phase, message⟩ })).runOn w₁ =
        (outcomeOf reply, w₂))
    (hreadable : Readable WebUI.ofObject reply) :
    ∃ landed, ((reportStatus (calls.cluster settings) ⟨id, phase, .text message⟩).runOn w).1 =
      .ok landed ∧ (landed = true ↔ ∃ document, reply = .ok document) := by
  have hbody := WebUI.toObject_of_open hread hopen ⟨some phase, message⟩
  obtain ⟨outcome, w', hcaught, hlanded⟩ := catching_updateWebUI hbody hgive hreadable
  rw [reportStatus_of_read hask hread]
  simp only [writeStatus, readMessage_text]
  rw [Act.runOn_bind_ok _ (Act.runOn_lift _ w₁), Act.runOn_bind_ok _ hcaught]
  -- The report has landed if the update was not turned down.
  cases outcome with
  | ok stored => exact ⟨true, rfl, by simpa using hlanded⟩
  | error e => exact ⟨false, rfl, by simpa using hlanded⟩

/-- An obstacle ends a report. -/
theorem reportStatus_of_obstacle {failure : Failure} (h : WebUI.Obstacle object failure) :
    (reportStatus (calls.cluster settings) ⟨id, phase, .text message⟩).runOn w =
      (.error failure, w₁) := by
  have hbody := h.toObject_eq hread ⟨some phase, message⟩
  have hpick : failure.cluster? = none := by
    cases h <;> rfl
  rw [reportStatus_of_read hask hread]
  simp only [writeStatus, readMessage_text]
  rw [Act.runOn_bind_ok _ (Act.runOn_lift _ w₁)]
  have hrun : ((calls.cluster settings).updateWebUI
      { resource with status := ⟨some phase, message⟩ }).runOn w₁ = (.error failure, w₁) :=
    ((calls.contract settings w₁).unwritable _ failure hbody).2
  exact Act.runOn_bind_error _ (Act.runOn_catching_none hrun hpick)

end Report

/-- The calls keep the contract for reports whatever stands behind the interface. -/
theorem reportContract (calls : Interface κ ρ) (settings : ClusterSettings) (id : ResourceId)
    (phase : Phase) (message : String) (w : World κ ρ) :
    ReportContract calls settings id phase message w where
  unread refusal w₁ hask := by
    obtain ⟨e, w', hcaught⟩ := catching_refused ⟨settings.kind, id.ns, id.name⟩ WebUI.ofObject hask
    have hcaught' : (Act.catching Failure.cluster? ((calls.cluster settings).getWebUI id)).runOn w =
        (.ok (.error e), w') := hcaught
    rw [reportStatus, Act.runOn_bind_ok _ hcaught']
    rfl
  written object resource reply w₁ w₂ hask hread hmetadata hstatus hgive hreadable :=
    reportStatus_of_open hask hread
      ⟨(WebUI.openAt_iff_of_read hread (.inl rfl)).mpr hmetadata,
        (WebUI.openAt_iff_of_read hread (.inr rfl)).mpr hstatus⟩ hgive hreadable
  hollow object resource failure w₁ hask hread h := reportStatus_of_obstacle hask hread h

/-- What was read can be written back unless a part of it is hollow. A resource that was read from
an object is written back, with any status, if and only if neither the metadata nor the status of
the object is hollow; otherwise the writing fails with the obstacle. Over an interface, the report
of a status is as good as that: refused calls only drop the status, and an obstacle ends the report.
-/
theorem statuses_reach_what_was_read {κ ρ : Type} (calls : Interface κ ρ)
    (settings : ClusterSettings) :
    (∀ object resource, WebUI.ofObject (.object object) = .ok resource → ∀ status,
      ((∃ body, WebUI.toObject { resource with status } = .ok body) ↔
        ¬WebUI.Hollow object "metadata" ∧ ¬WebUI.Hollow object "status") ∧
      ∀ failure, WebUI.toObject { resource with status } = .error failure ↔
        WebUI.Obstacle object failure) ∧
      ∀ id phase message w, ReportContract calls settings id phase message w :=
  ⟨fun _ _ hread status => WebUI.toObject_of_read hread status, reportContract calls settings⟩

/-- The object that others extended is written back with a phase, and a server that stores it takes
the status. -/
theorem statuses_reach_what_was_read_extendedObject :
    let resource : WebUI :=
      { id := ⟨"ns", "ui"⟩, spec := { version := "v1.4" }, raw := WebUI.extendedObject }
    let server : Server :=
      { objects := [(({} : ClusterSettings).keyOf ⟨"ns", "ui"⟩, .object WebUI.extendedObject)] }
    WebUI.ofObject (.object WebUI.extendedObject) = .ok resource ∧
      (∃ body, WebUI.toObject { resource with status := ⟨some .provisioned, "Done."⟩ } = .ok body) ∧
      ((reportStatus (Server.interface.cluster {})
        ⟨⟨"ns", "ui"⟩, .provisioned, .text "Done."⟩).runOn (served server)).1 = .ok true := by
  intro resource server
  have hread : WebUI.ofObject (.object WebUI.extendedObject) = .ok resource := rfl
  obtain ⟨hwrite, hreport⟩ :=
    statuses_reach_what_was_read (Server.interface : Interface Server Unit) {}
  have hfull : ¬WebUI.Hollow WebUI.extendedObject "metadata" ∧
      ¬WebUI.Hollow WebUI.extendedObject "status" := by
    constructor
    · rintro ⟨_, ⟨⟩, hfalsy, -⟩
      cases hfalsy
    · rintro ⟨_, ⟨⟩, hfalsy, -⟩
      cases hfalsy
  refine ⟨hread, ((hwrite _ _ hread _).1).mpr hfull, ?_⟩
  obtain ⟨landed, hended, hlanded⟩ :=
    (hreport ⟨"ns", "ui"⟩ .provisioned "Done." (served server)).written WebUI.extendedObject
      resource (.ok (.object (WebUI.written
        { resource with status := ⟨some .provisioned, "Done."⟩ })))
      _ _ rfl hread hfull.1 hfull.2 rfl (by rintro _ ⟨⟩; exact ⟨_, rfl⟩)
  rw [hended, hlanded.mpr ⟨_, rfl⟩]

/-- An object whose status is null. -/
def nulledObject : Fields :=
  [("metadata", .object [("namespace", .text "ns"), ("name", .text "ui")]),
    ("spec", .object [("version", .text "v1.4")]), ("status", .null)]

/-- A server with that object. -/
def nulledServer : Server where
  objects := [(({} : ClusterSettings).keyOf ⟨"ns", "ui"⟩, .object nulledObject)]

/-- The object is read, and it cannot be written back with any status. The report of a status fails,
and so does a pass, with a failure that is no error of the operator. -/
theorem nulledServer_ends_pass :
    (∃ resource, WebUI.ofObject (.object nulledObject) = .ok resource ∧
      ∀ status, WebUI.toObject { resource with status } = .error .wrongKind) ∧
      ((reportStatus (Server.interface.cluster {})
        ⟨⟨"ns", "ui"⟩, .provisioned, .text "Done."⟩).runOn (served nulledServer)).1 =
          .error .wrongKind ∧
      ((overServer.pass ⟨"ns", "ui"⟩).runOn (served nulledServer)).1 = .error .wrongKind :=
  ⟨⟨_, rfl, fun _ => rfl⟩, rfl, rfl⟩

end Operator

end ConsoleKeeper
