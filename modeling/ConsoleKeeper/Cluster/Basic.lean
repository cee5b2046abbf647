import ConsoleKeeper.Resource.Deployment
import ConsoleKeeper.World

/-!
# `ConsoleKeeper.Cluster.Basic`: the calls that the operator makes

The operator reads a resource, writes it back, reads a deployment, and writes the deployment's
owners. A `Cluster` says how. Every part of the operator that needs the cluster takes one, so it
runs unchanged against a store in memory and against a cluster's interface.

An absent object ends a call with the error of an absent object; every other failed call ends with
some other cluster error.
-/

set_option autoImplicit false

namespace ConsoleKeeper

/-- The calls to a cluster. -/
inductive Operation where
  | getWebUI
  | updateWebUI
  | getDeployment
  | updateOwners
  deriving DecidableEq, Repr, Inhabited

namespace Operation

/-- The word for a call. -/
def name : Operation → String
  | getWebUI => "get_webui"
  | updateWebUI => "update_webui"
  | getDeployment => "get_deployment"
  | updateOwners => "update_deployment_owners"

/-- The call that a word stands for. -/
def ofName? (word : String) : Option Operation :=
  [getWebUI, updateWebUI, getDeployment, updateOwners].find? (·.name = word)

end Operation

/-- A cluster as the operator sees it. -/
structure Cluster (κ ρ : Type) where
  /-- Reads a resource. -/
  getWebUI : ResourceId → Act κ ρ WebUI
  /-- Writes a resource with its status, and gives it as it was stored. -/
  updateWebUI : WebUI → Act κ ρ WebUI
  /-- Reads the deployment with a namespace and a name. -/
  getDeployment : String → String → Act κ ρ Deployment
  /-- Writes the owners of a deployment, and gives the deployment as it was stored. -/
  updateOwners : Deployment → Act κ ρ Deployment

end ConsoleKeeper
