import ConsoleKeeper.Data.Table
import ConsoleKeeper.Proofs.Cluster.Interface
import ConsoleKeeper.Proofs.Data.Table

/-!
# `ConsoleKeeper.Proofs.Cluster.Server`: an interface over stored documents

A server keeps the documents of objects and of deployments under their names. It gives what is
stored, replaces an object that is there by the body of the call, and gives a deployment that is
there the owners of the body. What is not there is turned down as absent. A call can be told to be
turned down in another way: each operation has a queue of refusals, and a call takes the first of
its operation's queue, if there is one.

All four calls are served in the same way (`serve`). `query` makes such a call and reads its answer:
it gives what is read, or it ends with the cluster error of the refusal.
-/

set_option autoImplicit false

namespace ConsoleKeeper

open Interface (Refusal outcomeOf)

/-- The names under which an interface knows an object. -/
structure ObjectKey where
  group : String
  version : String
  ns : String
  plural : String
  name : String
  deriving DecidableEq

/-- The names of a resource at the interface. -/
def ClusterSettings.keyOf (settings : ClusterSettings) (id : ResourceId) : ObjectKey :=
  ⟨settings.group, settings.version, id.ns, settings.plural, id.name⟩

/-- A cluster that stores documents. -/
structure Server where
  objects : Table ObjectKey Data := []
  deployments : Table DeploymentKey Data := []
  /-- How calls are to be turned down, for each operation in order. -/
  refusals : Operation → List Refusal := fun _ => []

namespace Server

variable {ρ : Type}

/-- How a call about something absent is turned down. -/
def absence : Refusal := .status (.int 404) (.text "Not Found")

/-- What stands under a key, or the refusal that nothing does. -/
def found {κ : Type} [DecidableEq κ] (table : Table κ Data) (key : κ) : Except Refusal Data :=
  match table.get? key with
  | some document => .ok document
  | none => .error absence

/-- What the next call of an operation replies: the refusal that waits for it, if there is one. -/
def reply (server : Server) (operation : Operation) (answer : Except Refusal Data) :
    Except Refusal Data :=
  match server.refusals operation with
  | [] => answer
  | refusal :: _ => .error refusal

/-- The server after a call, without the refusal that waited for it. -/
def asked (server : Server) (operation : Operation) : Server :=
  { server with
    refusals := fun o =>
      if o = operation then (server.refusals o).tail else server.refusals o }

/-- Serves a call about something stored. If the call is not turned down, the server makes its
answer of what it finds, and keeps it. -/
def serve (operation : Operation) (find : Server → Except Refusal Data) (make : Data → Data)
    (keep : Data → Server → Server) : Act Server ρ Data :=
  .of fun w =>
    match w.cluster.reply operation (find w.cluster) with
    | .ok document =>
      (.ok (make document),
        { w with cluster := keep (make document) (w.cluster.asked operation) })
    | .error refusal => (.error refusal.failure, { w with cluster := w.cluster.asked operation })

/-- The owners that the body of a call gives to a deployment. -/
def ownersIn (body : Data) : List Fields :=
  match body.at? ["metadata", "ownerReferences"] with
  | some (.list items) => items.filterMap fun
    | .object fields => some fields
    | _ => none
  | _ => []

/-- The document of a deployment with the owners that the body of a call gives it. -/
def patched (document body : Data) : Data :=
  match document with
  | .object fields => .object (Deployment.ownedDocument fields (ownersIn body))
  | _ => document

/-- The server with a document under the key of an object. -/
def putObject (server : Server) (key : ObjectKey) (document : Data) : Server :=
  { server with objects := server.objects.put key document }

/-- The server with a document under the key of a deployment. -/
def putDeployment (server : Server) (key : DeploymentKey) (document : Data) : Server :=
  { server with deployments := server.deployments.put key document }

/-- The server as an interface. -/
def interface : Interface Server ρ where
  getObject group version ns plural name :=
    serve .getWebUI (fun server => found server.objects ⟨group, version, ns, plural, name⟩) (·)
      fun _ server => server
  replaceObject group version ns plural name body :=
    serve .updateWebUI (fun server => found server.objects ⟨group, version, ns, plural, name⟩)
      (fun _ => body) fun document server =>
        server.putObject ⟨group, version, ns, plural, name⟩ document
  readDeployment name ns :=
    serve .getDeployment (fun server => found server.deployments (ns, name)) (·)
      fun _ server => server
  patchDeployment name ns body :=
    serve .updateOwners (fun server => found server.deployments (ns, name))
      (fun document => patched document body) fun document server =>
        server.putDeployment (ns, name) document

/-- An object is served as it was found, and stays as it is. -/
theorem interface_getObject (settings : ClusterSettings) (id : ResourceId) :
    (interface : Interface Server ρ).getObject settings.group settings.version id.ns settings.plural
        id.name =
      serve .getWebUI (fun server => found server.objects (settings.keyOf id)) (·)
        fun _ server => server := rfl

/-- An object is replaced by what was sent, if there is one. -/
theorem interface_replaceObject (settings : ClusterSettings) (id : ResourceId) (body : Data) :
    (interface : Interface Server ρ).replaceObject settings.group settings.version id.ns
        settings.plural id.name body =
      serve .updateWebUI (fun server => found server.objects (settings.keyOf id)) (fun _ => body)
        fun document server => server.putObject (settings.keyOf id) document := rfl

/-- A deployment is served as it was found, and stays as it is. -/
theorem interface_readDeployment (name ns : String) :
    (interface : Interface Server ρ).readDeployment name ns =
      serve .getDeployment (fun server => found server.deployments (ns, name)) (·)
        fun _ server => server := rfl

/-- A deployment is patched with what was sent, if there is one. -/
theorem interface_patchDeployment (name ns : String) (body : Data) :
    (interface : Interface Server ρ).patchDeployment name ns body =
      serve .updateOwners (fun server => found server.deployments (ns, name))
        (fun document => patched document body)
        fun document server => server.putDeployment (ns, name) document := rfl

/-! ### How calls are served -/

section Serve

variable {operation : Operation} {find : Server → Except Refusal Data} {make : Data → Data}
  {keep : Data → Server → Server} {w : World Server ρ}

/-- A request that is answered gives the document that was made, and keeps it. -/
theorem serve_run_ok {document : Data}
    (h : w.cluster.reply operation (find w.cluster) = .ok document) :
    (serve operation find make keep).runOn w =
      (.ok (make document),
        { w with cluster := keep (make document) (w.cluster.asked operation) }) := by
  rw [serve, Act.runOn_of, h]

/-- A request that is refused keeps nothing. -/
theorem serve_run_refused {refusal : Refusal}
    (h : w.cluster.reply operation (find w.cluster) = .error refusal) :
    (serve operation find make keep).runOn w =
      (.error refusal.failure, { w with cluster := w.cluster.asked operation }) := by
  rw [serve, Act.runOn_of, h]

variable {α : Type} (object : ObjectName)

/-- Makes a call about something stored, and reads the answer. -/
def query (operation : Operation) (find : Server → Except Refusal Data) (make : Data → Data)
    (keep : Data → Server → Server) (read : Data → Except Failure α) : Act Server ρ α := do
  let answer ← Interface.call object (serve operation find make keep)
  Act.lift (read answer)

/-- An answer that can be read gives what is read from it. -/
theorem query_run {read : Data → Except Failure α} {document : Data} {a : α}
    (h : w.cluster.reply operation (find w.cluster) = .ok document)
    (hread : read (make document) = .ok a) :
    (query object operation find make keep read).runOn w =
      (.ok a, { w with cluster := keep (make document) (w.cluster.asked operation) }) := by
  rw [query, Interface.read_run_ok object read (serve_run_ok h), hread]

/-- A refusal ends a call with its cluster error. -/
theorem query_run_refused (make : Data → Data) (keep : Data → Server → Server)
    (read : Data → Except Failure α) {refusal : Refusal}
    (h : w.cluster.reply operation (find w.cluster) = .error refusal) :
    ∃ w', (query object operation find make keep read).runOn w =
        (.error (.operator (refusal.error object)), w') ∧
      World.Told { w with cluster := w.cluster.asked operation } w' :=
  Interface.read_run_refused object read (serve_run_refused h)

end Serve

/-- Where no refusal waits, the reply is what was found. -/
theorem reply_eq_answer {server : Server} {operation : Operation}
    (h : server.refusals operation = []) (answer : Except Refusal Data) :
    server.reply operation answer = answer := by
  rw [reply, h]

/-- Where a refusal waits, the reply is the first one, whatever was found. -/
theorem reply_eq_error {server : Server} {operation : Operation} {refusal : Refusal}
    {rest : List Refusal} (h : server.refusals operation = refusal :: rest)
    (answer : Except Refusal Data) : server.reply operation answer = .error refusal := by
  rw [reply, h]

/-- A call is answered with what is found, unless a refusal waits for it. -/
theorem reply_cases (server : Server) (operation : Operation) (answer : Except Refusal Data) :
    (server.refusals operation = [] ∧ server.reply operation answer = answer) ∨
      ∃ refusal rest, server.refusals operation = refusal :: rest ∧
        server.reply operation answer = .error refusal := by
  cases h : server.refusals operation with
  | nil => exact .inl ⟨rfl, reply_eq_answer h answer⟩
  | cons refusal rest => exact .inr ⟨refusal, rest, rfl, reply_eq_error h answer⟩

/-- An answer is what was found. -/
theorem of_reply_eq_ok {server : Server} {operation : Operation} {answer : Except Refusal Data}
    {document : Data} (h : server.reply operation answer = .ok document) :
    answer = .ok document := by
  obtain ⟨-, hreply⟩ | ⟨refusal, rest, -, hreply⟩ := server.reply_cases operation answer
  · rw [← hreply, h]
  · rw [hreply] at h
    cases h

/-- A document is found where the table has one. -/
theorem found_eq_ok_iff {κ : Type} [DecidableEq κ] {table : Table κ Data} {key : κ}
    {document : Data} : found table key = .ok document ↔ table.get? key = some document := by
  unfold found
  cases table.get? key <;> simp

/-- Where the table has no document, its absence is the answer. -/
theorem found_eq_absence {κ : Type} [DecidableEq κ] {table : Table κ Data} {key : κ}
    (h : table.get? key = none) : found table key = .error absence := by
  rw [found, h]

/-- The owners in the body that sets them. -/
theorem ownersIn_ownersPatch (deployment : Deployment) :
    ownersIn deployment.ownersPatch = deployment.owners.map OwnerReference.clusterFields := by
  have hitems : deployment.ownersPatch.at? ["metadata", "ownerReferences"] =
      some (.list (deployment.owners.map fun o => .object o.clusterFields)) := by
    simp [Deployment.ownersPatch, Table.get?_cons]
  rw [ownersIn, hitems]
  dsimp only
  rw [List.filterMap_map]
  exact congrFun List.filterMap_eq_map deployment.owners

/-- The document of a deployment that is given other owners is read with these owners. -/
theorem ofInterface_patched {document : Data} {current : Deployment}
    (h : Deployment.ofInterface document = .ok current) (deployment : Deployment) :
    Deployment.ofInterface (patched document deployment.ownersPatch) =
      .ok { current with owners := deployment.owners } := by
  cases document with
  | object fields =>
    rw [patched, ownersIn_ownersPatch]
    exact Deployment.ofInterface_ownedDocument h deployment.owners
  | _ => cases h

end Server

end ConsoleKeeper
