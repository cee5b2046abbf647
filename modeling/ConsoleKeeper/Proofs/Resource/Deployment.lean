import ConsoleKeeper.Cluster.Interface
import ConsoleKeeper.Proofs.Data.Fields
import ConsoleKeeper.Proofs.Reading

/-!
# `ConsoleKeeper.Proofs.Resource.Deployment`: a deployment in the interface's document

A deployment is read from a document through records of its containers and its owners, and these
records are read back as they are. `ofInterface_eq_ok_iff` takes the reading apart, and
`ofInterface_ownedDocument` reads a document in which the owners were replaced: only the owners are
other ones.
-/

set_option autoImplicit false

namespace ConsoleKeeper

/-! ### Records -/

/-- Items that are each read back are read back in a row. -/
theorem Reading.list_map {α : Type} {read : Reading α} {write : α → Data}
    (h : ∀ a, read (write a) = .ok a) (items : List α) :
    Reading.list read (.list (items.map write)) = .ok items := by
  have hfrom : ∀ i, Reading.itemsFrom read i (items.map write) = .ok items := by
    induction items with
    | nil => exact fun _ => rfl
    | cons a items ih =>
      intro i
      simp [Reading.itemsFrom, h a, ih]
  exact hfrom 0

/-- A container is read back from its record. -/
theorem Container.read_fields (container : Container) :
    Container.read (.object container.fields) = .ok container := by
  obtain ⟨name, image⟩ := container
  simp [Container.read, Container.fields, Reading.record, Table.get?_cons, Reading.text]

/-- An owner is read back from its record. -/
theorem OwnerReference.read_fields (owner : OwnerReference) :
    OwnerReference.read (.object owner.fields) = .ok owner := by
  obtain ⟨apiVersion, kind, name, uid, controller, block⟩ := owner
  simp [OwnerReference.read, OwnerReference.fields, OwnerReference.keyOf, Reading.record,
    Table.get?_cons, Table.has, Reading.text, Reading.bool]

namespace OwnerReference

/-- An owner in the interface's document, where names are written in the plain way. -/
def document (written : Fields) : Data :=
  .object [("api_version", Data.field written "apiVersion"), ("kind", Data.field written "kind"),
    ("name", Data.field written "name"), ("uid", Data.field written "uid"),
    ("controller", Data.field written "controller"),
    ("block_owner_deletion", Data.field written "blockOwnerDeletion")]

/-- An owner as the cluster writes it is read back from the interface's document. -/
theorem ofInterface_document (owner : OwnerReference) :
    ofInterface (document owner.clusterFields) = .ok owner := by
  have hdocument : document owner.clusterFields = .object owner.fields := by
    simp [document, clusterFields, fields, Data.field, Table.get?_cons]
  have hmark : ∀ b, (!(Data.bool b).isFalsy) = b := fun b => Bool.not_not b
  -- The marks are truth values already, so the record that is read is the owner's own.
  have hread := read_fields owner
  rw [hdocument]
  simp only [fields] at hread ⊢
  simp [ofInterface, Data.part, Data.field, Table.get?_cons, hmark, bind_eq_ok_iff, hread,
    Checked.orFail]

end OwnerReference

namespace Deployment

variable {document metadata : Fields} {deployment : Deployment}

/-- The owners that a deployment's metadata describe. -/
def ownersOf (metadata : Fields) : Except Failure (List OwnerReference) := do
  (← (Data.field metadata "owner_references").itemsOrNone).mapM OwnerReference.ofInterface

/-- What a document and its metadata have to say so that a deployment is read from them. -/
structure Says (metadata document : Fields) (deployment : Deployment) : Prop where
  containers : containersOf (.object document) = .ok deployment.containers
  owners : ownersOf metadata = .ok deployment.owners
  name : Reading.text (Data.field metadata "name") = .ok deployment.name
  ns : Reading.text (Data.field metadata "namespace") = .ok deployment.ns
  uid : Reading.text (Data.field metadata "uid").orEmptyText = .ok deployment.uid

/-- A part of a mapping is what stands under its name, or null. -/
@[simp] theorem part_object (fields : Fields) (key : String) :
    (Data.object fields).part key = .ok (Data.field fields key) := rfl

/-- The record that a deployment is read from is read as a deployment if its texts are. -/
theorem read_record_iff {name ns uid : Data} {containers : List Container}
    {owners : List OwnerReference} :
    Deployment.read (.object [("name", name), ("namespace", ns), ("uid", uid),
        ("containers", .list (containers.map fun c => .object c.fields)),
        ("owner_references", .list (owners.map fun o => .object o.fields))]) = .ok deployment ↔
      Reading.text name = .ok deployment.name ∧ Reading.text ns = .ok deployment.ns ∧
        Reading.text uid = .ok deployment.uid ∧ containers = deployment.containers ∧
        owners = deployment.owners := by
  have hcontainers := Reading.list_map Container.read_fields containers
  have howners := Reading.list_map OwnerReference.read_fields owners
  obtain ⟨name', ns', uid', containers', owners'⟩ := deployment
  simp only [Deployment.read, Reading.record, Table.get?_cons, String.reduceEq, if_true, if_false,
    Reading.required, Reading.optional, hcontainers, howners, Checked.seq_eq_ok_iff,
    Checked.map_eq_ok_iff, Checked.within_eq_ok_iff, Checked.ok.injEq, exists_eq_left']
  -- Only the three texts can be faulty; the lists are written from containers and owners.
  constructor
  · rintro ⟨_, ⟨_, ⟨_, ⟨_, ⟨n, hname, rfl⟩, m, hns, rfl⟩, u, huid, rfl⟩, rfl⟩, h⟩
    obtain ⟨rfl, rfl, rfl, rfl, rfl⟩ := Deployment.mk.injEq .. ▸ h
    exact ⟨hname, hns, huid, rfl, rfl⟩
  · rintro ⟨hname, hns, huid, rfl, rfl⟩
    exact ⟨_, ⟨_, ⟨_, ⟨_, ⟨_, hname, rfl⟩, _, hns, rfl⟩, _, huid, rfl⟩, rfl⟩, rfl⟩

/-- A deployment is read from a document that says all of it. -/
theorem ofInterface_eq_ok_iff :
    ofInterface (.object document) = .ok deployment ↔
      ∃ metadata, Data.field document "metadata" = .object metadata ∧
        Says metadata document deployment := by
  cases hm : Data.field document "metadata" with
  | object metadata =>
    simp only [ofInterface, part_object, hm, bind_eq_ok_iff, Except.ok.injEq, exists_eq_left',
      Checked.orFail_eq_ok_iff, read_record_iff, Data.object.injEq]
    constructor
    · rintro ⟨_, hcontainers, items, hitems, _, howners, hname, hns, huid, rfl, rfl⟩
      exact ⟨hcontainers, bind_eq_ok_iff.mpr ⟨items, hitems, howners⟩, hname, hns, huid⟩
    · intro h
      obtain ⟨items, hitems, howners⟩ := bind_eq_ok_iff.mp h.owners
      exact ⟨_, h.containers, items, hitems, _, howners, h.name, h.ns, h.uid, rfl, rfl⟩
  -- Without metadata that is a mapping nothing else is read.
  | _ => simp [ofInterface, hm, Data.part, bind_eq_ok_iff]

/-! ### Other owners -/

/-- The document with other owners, as a cluster writes them. -/
def ownedDocument (document : Fields) (owners : List Fields) : Fields :=
  document.put "metadata" (.object ((document.mappingAt "metadata").put "owner_references"
    (.list (owners.map OwnerReference.document))))

/-- Owners as a cluster writes them are read back from the interface's document. -/
theorem ownersOf_set (metadata : Fields) (owners : List OwnerReference) :
    ownersOf (metadata.put "owner_references"
      (.list ((owners.map OwnerReference.clusterFields).map OwnerReference.document))) =
        .ok owners := by
  rw [ownersOf, Data.field, Table.get?_put, if_pos rfl]
  show List.mapM _ _ = _
  induction owners with
  | nil => rfl
  | cons o os ih =>
    rw [List.map_cons, List.map_cons, List.mapM_cons, OwnerReference.ofInterface_document, ih]
    rfl

/-- Only the owners of a deployment are other ones where its document was given other owners. -/
theorem ofInterface_ownedDocument (h : ofInterface (.object document) = .ok deployment)
    (owners : List OwnerReference) :
    ofInterface (.object (ownedDocument document (owners.map OwnerReference.clusterFields))) =
      .ok { deployment with owners } := by
  obtain ⟨metadata, hm, h⟩ := ofInterface_eq_ok_iff.mp h
  have hmapping : document.mappingAt "metadata" = metadata := by
    cases hv : document.get? "metadata" <;> simp_all [Data.field, Fields.mappingAt]
  -- The owners stand in a field of their own, so the other metadata is read as before.
  have hother : ∀ key, key ≠ "owner_references" → ∀ value,
      Data.field (Table.put metadata "owner_references" value) key = Data.field metadata key := by
    intro key hkey value
    rw [Data.field, Data.field, Table.get?_put, if_neg hkey]
  refine ofInterface_eq_ok_iff.mpr
    ⟨_, by rw [ownedDocument, Data.field, Table.get?_put, if_pos rfl]; rfl, ?_⟩
  rw [hmapping]
  constructor
  · have hspec : Data.field (ownedDocument document (owners.map OwnerReference.clusterFields))
        "spec" = Data.field document "spec" := by
      rw [Data.field, Data.field, ownedDocument, Table.get?_put, if_neg (by decide)]
    simpa only [containersOf, part_object, hspec] using h.containers
  · exact ownersOf_set metadata owners
  · rw [hother "name" (by decide)]
    exact h.name
  · rw [hother "namespace" (by decide)]
    exact h.ns
  · rw [hother "uid" (by decide)]
    exact h.uid

end Deployment

end ConsoleKeeper
