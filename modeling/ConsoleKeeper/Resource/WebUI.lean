import ConsoleKeeper.Decision
import ConsoleKeeper.Failure.Basic
import ConsoleKeeper.Validation.Scalar

/-!
# `ConsoleKeeper.Resource.WebUI`: the managed resource

A web UI resource says which version of the console its owner wants, and carries a status in which
the operator reports back. Each record here has a reading from a document and a `fields` form.

`WebUI.ofObject` reads a resource from a cluster object and keeps the whole object beside it.
`WebUI.toObject` gives that object back with the present status in it, so that a write changes
nothing else.
-/

set_option autoImplicit false

namespace ConsoleKeeper

/-- Where a resource lives and what it is called. -/
structure ResourceId where
  ns : String
  name : String
  deriving DecidableEq, Repr, Inhabited

namespace ResourceId

/-- The name of a resource in full. -/
def path (id : ResourceId) : String :=
  id.ns ++ "/" ++ id.name

/-- Reads an id. -/
def read : Reading ResourceId :=
  Reading.record fun fields =>
    ResourceId.mk <$> Reading.required fields "namespace" Reading.text
      <*> Reading.required fields "name" Reading.text

/-- An id as a record. -/
def fields (id : ResourceId) : Fields :=
  [("namespace", .text id.ns), ("name", .text id.name)]

end ResourceId

namespace WebUI

/-- What the owner of a resource wants. Every text may be empty, which leaves the choice to the
defaults; an empty version asks for no console at all. -/
structure Spec where
  version : String := ""
  registryUrl : String := ""
  registryNamespace : String := ""
  defaultSubdomain : String := ""
  masterHostname : String := ""
  deriving DecidableEq, Repr, Inhabited

namespace Spec

/-- Reads what is wanted; names that mean nothing here are left alone. -/
def read : Reading Spec :=
  Reading.record fun fields =>
    let text (key : String) := Reading.optional fields key "" Reading.text
    Spec.mk <$> text "version" <*> text "registry_url" <*> text "registry_namespace"
      <*> text "openshift_master_default_subdomain" <*> text "public_master_hostname"

/-- What is wanted, as a record. -/
def fields (spec : Spec) : Fields :=
  [("version", .text spec.version), ("registry_url", .text spec.registryUrl),
    ("registry_namespace", .text spec.registryNamespace),
    ("openshift_master_default_subdomain", .text spec.defaultSubdomain),
    ("public_master_hostname", .text spec.masterHostname)]

end Spec

/-- What the operator last reported. -/
structure Status where
  phase : Option Phase := none
  message : String := ""
  deriving DecidableEq, Repr, Inhabited

namespace Status

/-- Reads a phase. The status is advice, so a word that is no phase counts as none. -/
def readPhase : Reading (Option Phase) := fun value =>
  if value.isFalsy then .ok none
  else
    match value with
    | .text word => .ok (Phase.ofName? word)
    -- Words are looked up, and these cannot be.
    | .list _ | .object _ => .fault .notAWord
    | _ => .ok none

/-- Reads a message; nothing counts as an empty one. -/
def readMessage : Reading String := fun value =>
  if value.isFalsy then .ok "" else Reading.text value

/-- Reads a status. -/
def read : Reading Status :=
  Reading.record fun fields =>
    Status.mk <$> Reading.optional fields "phase" none readPhase
      <*> Reading.optional fields "message" "" readMessage

/-- The word for the phase, empty if there is none. -/
def phaseWord (status : Status) : String :=
  match status.phase with
  | some phase => phase.name
  | none => ""

/-- A status as a record. -/
def fields (status : Status) : Fields :=
  [("phase", .textOrNull (status.phase.map Phase.name)), ("message", .text status.message)]

end Status

/-- The version of the cluster's interface that resources have unless they say otherwise. -/
def defaultApiVersion : String := "kubevirt.io/v1alpha1"

/-- The kind of resources that do not name one. -/
def defaultKind : String := "KWebUI"

end WebUI

/-- A web UI resource as read from the cluster, with the object it was read from. -/
structure WebUI where
  id : ResourceId
  uid : String := ""
  apiVersion : String := WebUI.defaultApiVersion
  kind : String := WebUI.defaultKind
  spec : WebUI.Spec := {}
  status : WebUI.Status := {}
  /-- The object as it was read. -/
  raw : Fields := []
  deriving Repr, Inhabited, BEq

namespace WebUI

/-- Reads a resource from a record. -/
def read : Reading WebUI :=
  Reading.record fun fields =>
    WebUI.mk <$> Reading.required fields "id" ResourceId.read
      <*> Reading.optional fields "uid" "" Reading.text
      <*> Reading.optional fields "api_version" defaultApiVersion Reading.text
      <*> Reading.optional fields "kind" defaultKind Reading.text
      <*> Reading.optional fields "spec" {} Spec.read
      <*> Reading.optional fields "status" {} Status.read
      <*> Reading.optional fields "raw" [] (Reading.mapping .ok)

/-- A resource as a record. -/
def fields (resource : WebUI) : Fields :=
  [("id", .object resource.id.fields), ("uid", .text resource.uid),
    ("api_version", .text resource.apiVersion), ("kind", .text resource.kind),
    ("spec", .object resource.spec.fields), ("status", .object resource.status.fields),
    ("raw", .object resource.raw)]

/-- The value under a name, or an empty mapping where the value is missing or counts as nothing. -/
def partOf (object : Fields) (key : String) : Data :=
  match object.get? key with
  | some value => if value.isFalsy then .object [] else value
  | none => .object []

/-- Reads the fields of an object that have to be texts. -/
def assemble (id : ResourceId) (spec : Spec) (status : Status) (metadata object : Fields) :
    Checked WebUI :=
  let text (fields : Fields) (source target default : String) : Checked String :=
    match fields.get? source with
    | some value => (Reading.text value).within (.key target)
    | none => .ok default
  (fun uid apiVersion kind =>
      { id, uid, apiVersion, kind, spec, status, raw := object : WebUI })
    <$> text metadata "uid" "uid" ""
    <*> text object "apiVersion" "api_version" defaultApiVersion
    <*> text object "kind" "kind" defaultKind

/-- Reads a resource from a cluster object. Metadata, spec and status may be missing or count as
nothing. -/
def ofObject (object : Data) : Except Failure WebUI :=
  match object with
  | .object object =>
    match partOf object "metadata" with
    | .object metadata => do
      let name (key : String) : Data := (Table.get? metadata key).getD (.text "")
      let id ← (ResourceId.read
        (.object [("namespace", name "namespace"), ("name", name "name")])).orFail
      let spec ← (Spec.read (partOf object "spec")).orFail
      let status ← (Status.read (partOf object "status")).orFail
      (assemble id spec status metadata object).orFail
    | _ => .error .noMember
  | _ => .error .noMember

/-- The metadata of the object to write: what was read, with id and uid where they were missing. -/
def writtenMetadata (resource : WebUI) (metadata : Fields) : Fields :=
  let named :=
    (metadata.setDefault "namespace" (.text resource.id.ns)).setDefault "name"
      (.text resource.id.name)
  if resource.uid.isEmpty then named else named.setDefault "uid" (.text resource.uid)

/-- The object to write back: the one that was read, with the names that were missing and the
present status. -/
def toObject (resource : WebUI) : Except Failure Fields :=
  let body := (resource.raw.setDefault "apiVersion" (.text resource.apiVersion)).setDefault "kind"
    (.text resource.kind)
  -- A part that is missing is made. One that is null is there, and is no mapping.
  match (body.get? "metadata").getD (.object []) with
  | .object metadata =>
    let body := body.put "metadata" (.object (resource.writtenMetadata metadata))
    match (body.get? "status").getD (.object []) with
    | .object status =>
      let status := Table.put status "phase" (.text resource.status.phaseWord)
      .ok (body.put "status" (.object (status.put "message" (.text resource.status.message))))
    | _ => .error .wrongKind
  | _ => .error .noMember

end WebUI

end ConsoleKeeper
