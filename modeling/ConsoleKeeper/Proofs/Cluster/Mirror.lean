import ConsoleKeeper.Proofs.Agreement
import ConsoleKeeper.Proofs.Cluster.Server
import ConsoleKeeper.Proofs.Resource.WebUI

/-!
# `ConsoleKeeper.Proofs.Cluster.Mirror`: a server and a store that hold the same

A store mirrors a server (`Server.Mirrored`) if it has what is read from the server's documents,
under the same names, and if its calls are to fail with the cluster errors that are made of the
server's refusals. A resource may remember another object than the one that the server has: a write
replaces the object of the server, and the store keeps the resource as it was passed in.

What the calls do keeps a mirror a mirror: a use of what waits for a call, an object in the place of
another one, and other owners of a deployment. `mirrored_parsed` makes a store that mirrors a server
from all that the server has.

Two worlds mirror each other (`World.Mirrored`) if their clusters do, and they are the same in all
else that a pass can see. They have reported the same statuses in the same order, and as much was
written of each.
-/

set_option autoImplicit false

namespace ConsoleKeeper

open Interface (Refusal)

/-! ### Entries -/

/-- The resource is the one that the document describes, and has the given id. It may remember
another object. -/
structure WebUI.Reflects (id : ResourceId) (document : Data) (resource : WebUI) : Prop where
  named : resource.id = id
  described : ∃ object, document = .object object ∧
    WebUI.Describes object { resource with raw := object }

/-- The deployment is read from the document, and has the given key. -/
structure Deployment.Reflects (key : DeploymentKey) (document : Data) (deployment : Deployment) :
    Prop where
  keyed : deployment.key = key
  read : ofInterface document = .ok deployment

/-- The object that the errors of a call name, where the call is made in a pass over a resource. -/
def ClusterSettings.objectOf (settings : ClusterSettings) (id : ResourceId) :
    Operation → ObjectName
  | .getWebUI | .updateWebUI => ⟨settings.kind, id.ns, id.name⟩
  | .getDeployment | .updateOwners => ⟨"Deployment", id.ns, settings.deploymentName⟩

/-- A resource has one key at the interface. -/
theorem ClusterSettings.keyOf_inj {settings : ClusterSettings} {id id' : ResourceId} :
    settings.keyOf id = settings.keyOf id' ↔ id = id' := by
  obtain ⟨ns, name⟩ := id
  obtain ⟨ns', name'⟩ := id'
  simp [keyOf]

/-! ### Clusters -/

/-- The store has what is read from the server's documents. In a pass over the resource with the
given id, its calls are to fail as the server's are. -/
structure Server.Mirrored (settings : ClusterSettings) (id : ResourceId) (server : Server)
    (store : Store) : Prop where
  webuis : ∀ other, Option.Rel (WebUI.Reflects other) (server.objects.get? (settings.keyOf other))
    (store.webui? other)
  deployments : ∀ ns name, Option.Rel (Deployment.Reflects (ns, name))
    (server.deployments.get? (ns, name)) (store.deployment? ns name)
  failures : ∀ operation, store.failures operation =
    (server.refusals operation).map fun refusal =>
      .operator (refusal.error (settings.objectOf id operation))

namespace Server

variable {settings : ClusterSettings} {id : ResourceId} {server : Server} {store : Store}

namespace Mirrored

/-- A call uses up what waits for it on both sides. -/
theorem asked (h : Mirrored settings id server store) (call : CallNote) :
    Mirrored settings id (server.asked call.operation) (store.answered call) where
  webuis := h.webuis
  deployments := h.deployments
  failures operation := by
    simp only [Server.asked, Store.answered, h.failures operation]
    split
    · exact List.map_tail.symm
    · rfl

/-- Nothing is to fail in the store where nothing is refused by the server. -/
theorem failures_eq_nil (h : Mirrored settings id server store) {operation : Operation}
    (hscript : server.refusals operation = []) : store.failures operation = [] := by
  rw [h.failures, hscript, List.map_nil]

/-- A call for which nothing waits. -/
theorem noted (h : Mirrored settings id server store) {operation : Operation}
    (hscript : server.refusals operation = []) (ns name : String) :
    Mirrored settings id (server.asked operation) (store.noted ⟨operation, ns, name⟩) :=
  Store.answered_eq_noted ⟨operation, ns, name⟩ (h.failures_eq_nil hscript) ▸
    h.asked ⟨operation, ns, name⟩

/-- An object that describes a resource, and the resource. -/
theorem putWebUI (h : Mirrored settings id server store) {document : Data} {resource : WebUI}
    (hresource : WebUI.Reflects resource.id document resource) :
    Mirrored settings id (server.putObject (settings.keyOf resource.id) document)
      (store.putWebUI resource) where
  webuis other := by
    rw [Server.putObject, Table.get?_put, Store.webui?_putWebUI]
    simp only [ClusterSettings.keyOf_inj]
    split
    · next hother =>
      subst hother
      exact .some hresource
    · exact h.webuis other
  deployments := h.deployments
  failures := h.failures

/-- A document from which a deployment is read, and the deployment. -/
theorem putDeployment (h : Mirrored settings id server store) {document : Data}
    {deployment : Deployment} (hread : Deployment.ofInterface document = .ok deployment) :
    Mirrored settings id (server.putDeployment deployment.key document)
      (store.putDeployment deployment) where
  webuis := h.webuis
  deployments ns name := by
    rw [Server.putDeployment, Table.get?_put, Store.deployment?_putDeployment]
    split
    · next hkey => exact .some ⟨hkey.symm, hread⟩
    · exact h.deployments ns name
  failures := h.failures

end Mirrored

/-! ### The mirror of a server -/

/-- Everything that a server has can be read, and its objects can be written back. They carry the
names under which they stand. -/
structure Consistent (settings : ClusterSettings) (server : Server) : Prop where
  objects : ∀ entry ∈ server.objects, ∀ other, entry.1 = settings.keyOf other →
    ∃ resource, WebUI.Reflects other entry.2 resource
  deployments : ∀ entry ∈ server.deployments,
    ∃ deployment, Deployment.Reflects entry.1 entry.2 deployment

/-- The resource in an object, under its name, if the object is one of the managed resources. -/
def webuiIn (settings : ClusterSettings) (entry : ObjectKey × Data) : Option (ResourceId × WebUI) :=
  let id : ResourceId := ⟨entry.1.ns, entry.1.name⟩
  if entry.1 = settings.keyOf id then
    (WebUI.ofObject entry.2).toOption.map fun resource => (id, resource)
  else none

/-- The deployments in the documents of a table, under their names. -/
def deploymentsOf (documents : Table DeploymentKey Data) : Table DeploymentKey Deployment :=
  documents.filterMap fun (key, document) =>
    (Deployment.ofInterface document).toOption.map fun deployment => (key, deployment)

/-- The store with all that can be read from a server. -/
def parsed (settings : ClusterSettings) (id : ResourceId) (server : Server) : Store where
  webuis := server.objects.filterMap (webuiIn settings)
  deployments := deploymentsOf server.deployments
  failures operation := (server.refusals operation).map fun refusal =>
    .operator (refusal.error (settings.objectOf id operation))

/-- An entry is read as a resource if its key is that of an id and its object can be read. -/
theorem webuiIn_eq_some_iff {entry : ObjectKey × Data} {other : ResourceId} {resource : WebUI} :
    webuiIn settings entry = some (other, resource) ↔
      entry.1 = settings.keyOf other ∧ WebUI.ofObject entry.2 = .ok resource := by
  obtain ⟨key, document⟩ := entry
  constructor
  · intro h
    rw [webuiIn] at h
    split at h
    · next hkey =>
      cases hread : WebUI.ofObject document <;> rw [hread] at h <;> cases h
      exact ⟨hkey, rfl⟩
    · cases h
  · rintro ⟨rfl, hread⟩
    simp only [webuiIn, ClusterSettings.keyOf, if_true, hread]
    rfl

/-- Where every object under the key of an id reflects a resource, objects and resources are at the
same ids. -/
theorem webuis_paired {objects : Table ObjectKey Data}
    (h : ∀ entry ∈ objects, ∀ other, entry.1 = settings.keyOf other →
      ∃ resource, WebUI.Reflects other entry.2 resource) (other : ResourceId) :
    Option.Rel (WebUI.Reflects other) (objects.get? (settings.keyOf other))
      (Table.get? (objects.filterMap (webuiIn settings)) other) := by
  -- The first object under a key is the one that counts on both sides.
  induction objects with
  | nil => exact .none
  | cons entry rest ih =>
    replace ih := ih fun entry hentry => h entry (List.mem_cons_of_mem _ hentry)
    obtain ⟨key, document⟩ := entry
    by_cases hkey : key = settings.keyOf other
    · obtain ⟨resource, hresource⟩ := h _ List.mem_cons_self other hkey
      obtain ⟨object, rfl, hdescribes⟩ := hresource.described
      have hin : webuiIn settings (key, .object object) = some (other, _) :=
        webuiIn_eq_some_iff.mpr ⟨hkey, hdescribes.read⟩
      rw [List.filterMap_cons_some hin]
      simp only [Table.get?, hkey, if_true]
      exact .some ⟨hresource.named, object, rfl, hdescribes⟩
    · have hget : Table.get? ((key, document) :: rest) (settings.keyOf other) =
          Table.get? rest (settings.keyOf other) := if_neg hkey
      rw [hget]
      cases hin : webuiIn settings (key, document) with
      | none =>
        rw [List.filterMap_cons_none hin]
        exact ih
      | some found =>
        obtain ⟨id', resource⟩ := found
        have hid : id' ≠ other := by
          rintro rfl
          exact hkey (webuiIn_eq_some_iff.mp hin).1
        rw [List.filterMap_cons_some hin]
        simpa only [Table.get?, hid, if_false] using ih

/-- Where every document reflects a deployment, the two tables have the same keys. -/
theorem deploymentsOf_paired {documents : Table DeploymentKey Data}
    (h : ∀ entry ∈ documents, ∃ deployment, Deployment.Reflects entry.1 entry.2 deployment)
    (key : DeploymentKey) :
    Option.Rel (Deployment.Reflects key) (documents.get? key)
      ((deploymentsOf documents).get? key) := by
  induction documents with
  | nil => exact .none
  | cons entry rest ih =>
    replace ih := ih fun entry hentry => h entry (List.mem_cons_of_mem _ hentry)
    obtain ⟨key', document⟩ := entry
    obtain ⟨deployment, hdeployment⟩ := h _ List.mem_cons_self
    -- Every document can be read, so none is passed over and the two lists stay in step.
    have hhead : deploymentsOf ((key', document) :: rest) =
        (key', deployment) :: deploymentsOf rest := by
      simp [deploymentsOf, hdeployment.read, Except.toOption]
    rw [hhead]
    simp only [Table.get?]
    split
    · next hkey =>
      subst hkey
      exact .some hdeployment
    · exact ih

/-- What can be read from a consistent server mirrors it. -/
theorem mirrored_parsed (h : server.Consistent settings) (id : ResourceId) :
    Mirrored settings id server (server.parsed settings id) where
  webuis := webuis_paired h.objects
  deployments ns name := deploymentsOf_paired h.deployments (ns, name)
  failures _ := rfl

end Server

/-! ### Worlds -/

/-- The report of a status in an event, without what was said about a call that failed. -/
def Event.report? : Event → Option Event
  | statusWritten note => some (statusWritten note)
  | statusUnread note _ => some (statusUnread note "")
  | statusUnwritten note _ => some (statusUnwritten note "")
  | _ => none

/-- An event about no status is no report of one. -/
theorem Event.report?_eq_none {event : Event} (h : event.status? = none) :
    event.report? = none := by
  cases event <;> first | rfl | cases h

namespace World

variable {κ ρ : Type}

/-- The reports of statuses so far. -/
def reports (w : World κ ρ) : List Event :=
  w.journal.toList.filterMap Event.report?

/-- One more event may be one more report. -/
theorem reports_push (w : World κ ρ) (event : Event) :
    reports { w with journal := w.journal.push event } = w.reports ++ event.report?.toList := by
  cases h : event.report? <;> simp [reports, h]

/-- Events on the side are no reports. -/
theorem Told.reports {w w' : World κ ρ} (h : w.Told w') : w'.reports = w.reports := by
  cases h with
  | nothing => rfl
  | event h => rw [reports_push, Event.report?_eq_none h, Option.toList_none, List.append_nil]

/-- The clusters mirror each other in a pass over a resource, all else that the pass can see is the
same, and the same statuses were reported. -/
structure Mirrored (settings : ClusterSettings) (id : ResourceId) (w : World Server ρ)
    (w' : World Store ρ) : Prop where
  cluster : Server.Mirrored settings id w.cluster w'.cluster
  runner : w'.runner = w.runner
  files : w'.files = w.files
  random : w'.random = w.random
  reports : w'.reports = w.reports

namespace Mirrored

variable {settings : ClusterSettings} {id : ResourceId} {w w₁ : World Server ρ}
  {w' w₁' : World Store ρ}

/-- The worlds mirror each other with any two clusters that do. -/
theorem withCluster (h : Mirrored settings id w w') {server : Server} {store : Store}
    (hcluster : Server.Mirrored settings id server store) :
    Mirrored settings id { w with cluster := server } { w' with cluster := store } :=
  ⟨hcluster, h.runner, h.files, h.random, h.reports⟩

/-- Events that report the same. -/
theorem report (h : Mirrored settings id w w') {event event' : Event}
    (hreport : event'.report? = event.report?) :
    Mirrored settings id { w with journal := w.journal.push event }
      { w' with journal := w'.journal.push event' } :=
  ⟨h.cluster, h.runner, h.files, h.random, by
    rw [reports_push, reports_push, h.reports, hreport]⟩

/-- Events that report nothing, on either side. -/
theorem told (h : Mirrored settings id w w') (htold : w.Told w₁) (htold' : w'.Told w₁') :
    Mirrored settings id w₁ w₁' := by
  have hreports : w₁'.reports = w₁.reports := by rw [htold.reports, htold'.reports, h.reports]
  cases htold <;> cases htold' <;> exact ⟨h.cluster, h.runner, h.files, h.random, hreports⟩

/-- Mirroring worlds have the same files and random bytes, and what changes them changes both. -/
theorem shared (settings : ClusterSettings) (id : ResourceId) :
    Act.Shared (Mirrored settings id : World Server ρ → World Store ρ → Prop) where
  files _ _ h := h.files
  random _ _ h := h.random
  withFiles _ _ h _ := ⟨h.cluster, h.runner, rfl, h.random, h.reports⟩
  withRandom _ _ h _ := ⟨h.cluster, h.runner, h.files, rfl, h.reports⟩
  report _ _ h _ := h.report rfl

end Mirrored

end World

end ConsoleKeeper
