import ConsoleKeeper.Image
import ConsoleKeeper.Resource.WebUI

/-!
# `ConsoleKeeper.Resource.Deployment`: the deployed console

A deployment has containers and owners. At most one owner should control it, and `controller?` is
the first that claims to. `deployedVersion` reads the version from the image of the container with a
given name.
-/

set_option autoImplicit false

namespace ConsoleKeeper

/-- An entry in the list of a deployment's owners. -/
structure OwnerReference where
  apiVersion : String
  kind : String
  name : String
  uid : String
  controller : Bool := false
  blockOwnerDeletion : Bool := false
  deriving DecidableEq, Repr, Inhabited

namespace OwnerReference

/-- The key under which a record gives a value that has a cluster name and a plain name. The cluster
name counts if both are there, and is the one to report if none is. -/
def keyOf (fields : Fields) (clusterName plainName : String) : String :=
  if !fields.has clusterName && fields.has plainName then plainName else clusterName

/-- Reads an owner. -/
def read : Reading OwnerReference :=
  Reading.record fun fields =>
    OwnerReference.mk
      <$> Reading.required fields (keyOf fields "apiVersion" "api_version") Reading.text
      <*> Reading.required fields "kind" Reading.text
      <*> Reading.required fields "name" Reading.text
      <*> Reading.required fields "uid" Reading.text
      <*> Reading.optional fields "controller" false Reading.bool
      <*> Reading.optional fields (keyOf fields "blockOwnerDeletion" "block_owner_deletion") false
        Reading.bool

/-- An owner as a record. -/
def fields (owner : OwnerReference) : Fields :=
  [("api_version", .text owner.apiVersion), ("kind", .text owner.kind), ("name", .text owner.name),
    ("uid", .text owner.uid), ("controller", .bool owner.controller),
    ("block_owner_deletion", .bool owner.blockOwnerDeletion)]

/-- An owner as the cluster writes it. -/
def clusterFields (owner : OwnerReference) : Fields :=
  [("apiVersion", .text owner.apiVersion), ("kind", .text owner.kind), ("name", .text owner.name),
    ("uid", .text owner.uid), ("controller", .bool owner.controller),
    ("blockOwnerDeletion", .bool owner.blockOwnerDeletion)]

end OwnerReference

/-- A container of a deployment. -/
structure Container where
  name : String
  image : String := ""
  deriving DecidableEq, Repr, Inhabited

namespace Container

/-- Reads a container. -/
def read : Reading Container :=
  Reading.record fun fields =>
    Container.mk <$> Reading.required fields "name" Reading.text
      <*> Reading.optional fields "image" "" Reading.text

/-- A container as a record. -/
def fields (container : Container) : Fields :=
  [("name", .text container.name), ("image", .text container.image)]

end Container

/-- A deployment, as far as the operator looks at it. -/
structure Deployment where
  name : String
  ns : String
  uid : String := ""
  containers : List Container := []
  owners : List OwnerReference := []
  deriving DecidableEq, Repr, Inhabited

namespace Deployment

/-- Reads a deployment. -/
def read : Reading Deployment :=
  Reading.record fun fields =>
    Deployment.mk <$> Reading.required fields "name" Reading.text
      <*> Reading.required fields "namespace" Reading.text
      <*> Reading.optional fields "uid" "" Reading.text
      <*> Reading.optional fields "containers" [] (Reading.list Container.read)
      <*> Reading.optional fields "owner_references" [] (Reading.list OwnerReference.read)

/-- A deployment as a record. -/
def fields (deployment : Deployment) : Fields :=
  [("name", .text deployment.name), ("namespace", .text deployment.ns),
    ("uid", .text deployment.uid),
    ("containers", .list (deployment.containers.map fun c => .object c.fields)),
    ("owner_references", .list (deployment.owners.map fun o => .object o.fields))]

/-- The first container with a name. -/
def container? (deployment : Deployment) (name : String) : Option Container :=
  deployment.containers.find? (·.name = name)

/-- The first owner that claims to control the deployment. -/
def controller? (deployment : Deployment) : Option OwnerReference :=
  deployment.owners.find? (·.controller)

/-- Whether the owner with a uid controls the deployment. -/
def isControlledBy (deployment : Deployment) (uid : String) : Bool :=
  match deployment.controller? with
  | some owner => owner.uid = uid
  | none => false

/-- The version of the container with the given name: nothing if there is no such container or its
image has no tag, and a failure if the tag names no version. -/
def deployedVersion (deployment : Deployment) (containerName : String) :
    Except Failure (Option String) :=
  match deployment.container? containerName with
  | none => .ok none
  | some container =>
    match Image.tag? container.image with
    | none => .ok none
    | some tag =>
      let version := Version.normalize tag
      -- So it is for an empty tag, and for one that is nothing but the mark.
      if version.isEmpty then .error (.operator (.ofEmptyTag container.image))
      else .ok (some version)

end Deployment

end ConsoleKeeper
