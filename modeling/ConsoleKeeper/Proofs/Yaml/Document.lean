import ConsoleKeeper.Proofs.Data.Fields
import ConsoleKeeper.Proofs.Reading
import ConsoleKeeper.Yaml.Document

/-!
# `ConsoleKeeper.Proofs.Yaml.Document`: the names in a YAML text

Of several pairs of a mapping with one name the last counts, so no mapping of a document has a name
twice (`Document.distinct_of_read`). The mappings come from the collections of the text alone: a
scalar is never a mapping, and nothing else is kept as a value while a document is worked out
(`Workshop.Flat`). The functions that work it out keep this up one by one; only `visit` adds values.
-/

set_option autoImplicit false

namespace ConsoleKeeper

namespace Data

/-- No mapping that names lead to has a name twice. -/
def Distinct (document : Data) : Prop :=
  ∀ path fields, document.at? path = some (.object fields) → Table.Distinct fields

/-- A value that is no mapping. -/
def Flat (value : Data) : Prop :=
  ∀ fields, value ≠ .object fields

/-- Names lead nowhere in what is no mapping. -/
theorem Flat.distinct {value : Data} (h : value.Flat) : value.Distinct := by
  intro path fields hfields
  cases path with
  | nil =>
    rw [at?_nil, Option.some.injEq] at hfields
    exact absurd hfields (h fields)
  | cons key rest =>
    cases value with
    | object inner => exact absurd rfl (h inner)
    | _ => cases hfields

/-- A mapping has no names twice if it has none itself and its values have none. -/
theorem distinct_object {fields : Fields} (h : fields.Distinct)
    (hvalues : ∀ field ∈ fields, field.2.Distinct) : (object fields).Distinct := by
  intro path inner hinner
  cases path with
  | nil =>
    rw [at?_nil, Option.some.injEq, object.injEq] at hinner
    rwa [← hinner]
  | cons key rest =>
    rw [at?_cons] at hinner
    obtain ⟨value, hvalue, hat⟩ := Option.bind_eq_some_iff.mp hinner
    exact hvalues _ (Table.mem_of_get? hvalue) rest inner hat

/-- The values of a mapping have no names twice if it has none. -/
theorem Distinct.of_mem {fields : Fields} (h : (object fields).Distinct) {field : String × Data}
    (hmem : field ∈ fields) : field.2.Distinct := by
  intro path inner hinner
  have hown : Table.Distinct fields := h [] fields (at?_nil _)
  refine h (field.1 :: path) inner ?_
  rw [at?_cons, hown.get?_of_mem hmem, Option.bind_some, hinner]

end Data

namespace Fields

variable {pairs : List (String × Data)}

/-- What pairs make has no name twice. -/
theorem distinct_ofPairs (pairs : List (String × Data)) : (ofPairs pairs).Distinct := by
  refine List.foldlRecOn pairs _ Table.distinct_nil fun fields h pair _ => ?_
  exact h.put pair.1 pair.2

/-- What pairs make is some of them. -/
theorem mem_ofPairs {entry : String × Data} (h : entry ∈ ofPairs pairs) : entry ∈ pairs := by
  unfold ofPairs at h
  revert h
  refine List.foldlRecOn (motive := fun fields : Fields => entry ∈ fields → entry ∈ pairs) pairs _
    (fun h => absurd h List.not_mem_nil) fun fields ih pair hpair h => ?_
  obtain rfl | h := Table.mem_put h
  · exact hpair
  · exact ih h

end Fields

namespace Yaml.Workshop

variable {α β : Type} {workshop : Workshop}

/-- No mapping is kept as a value. -/
def Flat (workshop : Workshop) : Prop :=
  ∀ (number : Nat) (value : Data), workshop.values[number]? = some (some value) → value.Flat

/-- A workshop that was just set up keeps no value at all. -/
theorem flat_ofGraph (graph : Graph) : (ofGraph graph).Flat := by
  intro number value h
  simp [ofGraph, Array.getElem?_replicate] at h

/-- What such a workshop gives for a part is no mapping. -/
theorem Flat.value (h : workshop.Flat) (number : Nat) : (workshop.value number).Flat := by
  unfold Workshop.value
  cases hvalue : workshop.values[number]? with
  | none => exact nofun
  | some kept =>
    cases kept with
    | none => exact nofun
    | some value => exact h number value hvalue

/-! ### Work that keeps no mappings -/

/-- Work leaves a workshop without mappings as one, and what it gives is as it should be. -/
def Gives (good : α → Prop) (work : Work α) : Prop :=
  ∀ workshop a workshop', workshop.Flat → work workshop = .ok (a, workshop') →
    workshop'.Flat ∧ good a

/-- Work leaves a workshop without mappings as one. -/
def Keeps (work : Work α) : Prop :=
  Gives (fun _ => True) work

/-- Work in a row gives what it should if each part of it does. -/
theorem gives_bind {good : α → Prop} {well : β → Prop} {work : Work α} {next : α → Work β}
    (h : Gives good work) (hnext : ∀ a, good a → Gives well (next a)) :
    Gives well (work >>= next) := by
  intro workshop b workshop' hflat hrun
  obtain ⟨⟨a, middle⟩, hwork, hrest⟩ := bind_eq_ok_iff.mp hrun
  obtain ⟨hmiddle, ha⟩ := h workshop a middle hflat hwork
  exact hnext a ha middle b workshop' hmiddle hrest

/-- Work in a row keeps no mappings if no part of it does. -/
theorem keeps_bind {work : Work α} {next : α → Work β} (h : Keeps work)
    (hnext : ∀ a, Keeps (next a)) : Keeps (work >>= next) :=
  gives_bind h fun a _ => hnext a

/-- A value that is given is not kept. -/
theorem keeps_pure (a : α) : Keeps (pure a) := by
  intro workshop b workshop' hflat hrun
  cases hrun
  exact ⟨hflat, trivial⟩

/-- Refused work keeps nothing. -/
theorem keeps_refuse : Keeps (refuse : Work α) := by
  intro workshop b workshop' _ hrun
  cases hrun

/-- A look at the workshop keeps nothing. -/
theorem keeps_get : Keeps (get : Work Workshop) := by
  intro workshop b workshop' hflat hrun
  cases hrun
  exact ⟨hflat, trivial⟩

/-- A change that leaves the values alone. -/
theorem keeps_modify {f : Workshop → Workshop}
    (h : ∀ workshop, (f workshop).values = workshop.values) :
    Keeps (modify f : Work Unit) := by
  intro workshop b workshop' hflat hrun
  cases hrun
  exact ⟨fun number value => by rw [h]; exact hflat number value, trivial⟩

/-- Work for each of some items keeps no mappings if it does for none. -/
theorem keeps_forM {items : List α} {body : α → Work Unit} (h : ∀ item, Keeps (body item)) :
    Keeps (items.forM body) := by
  induction items with
  | nil => exact keeps_pure ()
  | cons item rest ih => exact keeps_bind (h item) fun _ => ih

/-- Work along some items keeps no mappings if it does for none. -/
theorem keeps_foldlM {items : List α} {body : β → α → Work β} (h : ∀ b item, Keeps (body b item))
    (start : β) : Keeps (items.foldlM body start) := by
  induction items generalizing start with
  | nil => exact keeps_pure start
  | cons item rest ih =>
    rw [List.foldlM_cons]
    exact keeps_bind (h start item) ih

/-- Work that gives something for each of some items keeps no mappings if it does for none. -/
theorem keeps_mapM {items : List α} {body : α → Work β} (h : ∀ item, Keeps (body item)) :
    Keeps (items.mapM body) := by
  induction items with
  | nil => exact keeps_pure []
  | cons item rest ih =>
    rw [List.mapM_cons]
    exact keeps_bind (h item) fun b => keeps_bind ih fun bs => keeps_pure (b :: bs)

/-! ### The parts of a document -/

/-- A look at a part keeps nothing. -/
theorem keeps_partAt (number : Nat) : Keeps (partAt number) :=
  keeps_bind keeps_get fun _ => keeps_pure _

/-- Asking whether a part was met keeps nothing. -/
theorem keeps_isMet (number : Nat) : Keeps (isMet number) :=
  keeps_bind keeps_get fun _ => keeps_pure _

/-- A look at a tag keeps nothing. -/
theorem keeps_tagOf (number : Nat) : Keeps (tagOf number) :=
  keeps_bind keeps_get fun _ => keeps_pure _

/-- Another tag is no value. -/
theorem keeps_retag (number : Nat) (tag : Tag) : Keeps (retag number tag) :=
  keeps_bind (keeps_partAt number) fun _ => keeps_modify fun _ => rfl

/-- Other pairs are no value. -/
theorem keeps_setPairs (number : Nat) (pairs : List (Nat × Nat)) : Keeps (setPairs number pairs) :=
  keeps_bind (keeps_partAt number) fun _ => keeps_modify fun _ => rfl

/-- A look at pairs keeps nothing. -/
theorem keeps_pairsOf? (number : Nat) : Keeps (pairsOf? number) := by
  refine keeps_bind (keeps_partAt number) fun part => ?_
  split
  · exact keeps_pure _
  · exact keeps_pure _

/-- A part can be met with a value that is no mapping. -/
theorem keeps_meet (number : Nat) {value : Data} (h : value.Flat) : Keeps (meet number value) := by
  intro workshop b workshop' hflat hrun
  cases hrun
  refine ⟨fun n v hv => ?_, trivial⟩
  rw [Array.getElem?_setIfInBounds] at hv
  split at hv
  · split at hv
    · cases hv
      exact h
    · cases hv
  · exact hflat n v hv

/-! ### Scalars -/

/-- The value of a scalar is no mapping. -/
theorem flat_of_scalarValue {tag : Tag} {scalar : ScalarText} {value : Data}
    (h : scalarValue tag scalar = .ok value) : value.Flat := by
  simp only [scalarValue] at h
  split at h
  · cases h
    exact nofun
  · cases h
    unfold ScalarText.value
    split
    · exact nofun
    · exact nofun
  · split at h
    · cases h
      exact nofun
    · cases h
  · obtain ⟨n, -, rfl⟩ := map_ok_iff.mp h
    exact nofun
  · obtain ⟨x, -, rfl⟩ := map_ok_iff.mp h
    exact nofun
  · obtain ⟨u, -, rfl⟩ := map_ok_iff.mp h
    exact nofun
  · split at h
    · cases h
      exact nofun
    · cases h
  · cases h

/-- A reading gives what it reads. -/
theorem gives_lift {good : α → Prop} {reading : Reading α} (h : ∀ a, reading = .ok a → good a) :
    Gives good (lift reading) := by
  intro workshop a workshop' hflat hrun
  obtain ⟨b, hb, hpair⟩ := map_ok_iff.mp hrun
  cases hpair
  exact ⟨hflat, h a hb⟩

/-- A reading keeps nothing. -/
theorem keeps_lift (reading : Reading α) : Keeps (lift reading) :=
  gives_lift fun _ _ => trivial

/-- A scalar gives no mapping. -/
theorem gives_scalarAt (number : Nat) (part : Node) : Gives Data.Flat (scalarAt number part) := by
  refine gives_bind keeps_get fun workshop _ => gives_bind (keeps_lift _) fun text _ => ?_
  split
  · exact gives_lift fun a h => by cases h
  · exact gives_lift fun a h => flat_of_scalarValue h

/-- A visit keeps a value for a scalar only, and no scalar is a mapping. -/
theorem keeps_visit (number : Nat) : Keeps (visit number) := by
  -- A mapping is noted before it is filled, so that one that holds itself is met again and not
  -- visited again.
  refine keeps_bind (keeps_isMet number) fun met => ?_
  split
  · exact keeps_pure ()
  · refine keeps_bind (keeps_partAt number) fun part => ?_
    split
    · refine keeps_bind (keeps_meet number nofun) fun _ => ?_
      exact keeps_modify fun _ => rfl
    · split
      · exact keeps_refuse
      · exact keeps_refuse
      · exact keeps_refuse
      · exact gives_bind (gives_scalarAt number part) fun value hvalue =>
          keeps_meet number hvalue

/-! ### Merging -/

/-- Taking in what is to be merged moves pairs and keeps no value. -/
theorem keeps_takeMerge (number : Nat) : Keeps (takeMerge number) := by
  refine keeps_bind keeps_get fun workshop => keeps_bind (keeps_pairsOf? number) fun pairs => ?_
  split
  · exact keeps_pure none
  · split
    · exact keeps_pure none
    · exact keeps_bind (keeps_setPairs _ _) fun _ => keeps_pure _

/-- Flattening moves pairs and keeps no value. -/
theorem keeps_flatten (fuel number : Nat) : Keeps (flatten fuel number) := by
  induction fuel generalizing number with
  | zero => exact keeps_refuse
  | succ fuel ih =>
    refine keeps_bind (keeps_pairsOf? number) fun pairs => ?_
    split
    · exact keeps_pure ()
    · refine keeps_bind keeps_get fun workshop => keeps_bind ?_ fun merged => ?_
      · refine keeps_foldlM (fun merged _ => keeps_bind (keeps_takeMerge number) fun taken => ?_) []
        split
        · exact keeps_pure _
        · next value =>
          refine keeps_bind (keeps_partAt value) fun part => ?_
          -- A merge takes one mapping or a list of them.
          split
          · exact keeps_bind (ih value) fun _ => keeps_bind (keeps_pairsOf? value) fun _ =>
              keeps_pure _
          · refine keeps_bind (keeps_mapM fun item => ?_) fun lists => keeps_pure _
            refine keeps_bind (keeps_pairsOf? item) fun inner => ?_
            split
            · exact keeps_bind (ih item) fun _ => keeps_bind (keeps_pairsOf? item) fun _ =>
                keeps_pure _
            · exact keeps_refuse
          · exact keeps_refuse
      · refine keeps_bind (keeps_pairsOf? number) fun own => keeps_bind ?_ fun _ =>
          keeps_setPairs number _
        refine keeps_forM fun pair => keeps_bind (keeps_tagOf pair.1) fun tag => ?_
        split
        · exact keeps_retag pair.1 .text
        · exact keeps_pure ()

/-! ### Collections -/

/-- The pairs of a mapping are visited one by one. -/
theorem keeps_visitPairs (number : Nat) : Keeps (visitPairs number) := by
  refine keeps_bind keeps_get fun workshop => keeps_bind (keeps_flatten _ number) fun _ =>
    keeps_bind (keeps_pairsOf? number) fun pairs => ?_
  split
  · exact keeps_refuse
  · refine keeps_forM fun pair => keeps_bind (keeps_visit pair.1) fun _ =>
      keeps_bind (keeps_tagOf pair.1) fun tag => ?_
    split
    · exact keeps_bind keeps_refuse fun _ => keeps_visit pair.2
    · exact keeps_visit pair.2

/-- The items of a list are visited one by one. -/
theorem keeps_visitItems (number : Nat) : Keeps (visitItems number) := by
  refine keeps_bind (keeps_partAt number) fun part => ?_
  split
  · exact keeps_forM keeps_visit
  · exact keeps_refuse

/-- The single pairs of a list are visited one by one. -/
theorem keeps_visitSingles (number : Nat) : Keeps (visitSingles number) := by
  refine keeps_bind (keeps_partAt number) fun part => ?_
  split
  · refine keeps_forM fun item => keeps_bind (keeps_pairsOf? item) fun pairs => ?_
    split
    · next key value => exact keeps_bind (keeps_visit key) fun _ => keeps_visit value
    · exact keeps_refuse
  · exact keeps_refuse

/-- What is visited within a part depends on its kind. -/
theorem keeps_visitWithin (number : Nat) : Keeps (visitWithin number) := by
  refine keeps_bind (keeps_tagOf number) fun tag => ?_
  split
  · exact keeps_visitItems number
  · exact keeps_visitPairs number
  · exact keeps_visitPairs number
  · exact keeps_visitSingles number
  · exact keeps_refuse

/-- Rounds keep no mappings, however many there are. -/
theorem keeps_rounds (fuel : Nat) : Keeps (rounds fuel) := by
  induction fuel with
  | zero => exact keeps_pure ()
  | succ fuel ih =>
    refine keeps_bind keeps_get fun workshop => ?_
    dsimp only
    split
    · exact keeps_pure ()
    · exact keeps_bind (keeps_modify fun _ => rfl) fun _ =>
        keeps_bind (keeps_forM keeps_visitWithin) fun _ => ih

/-- Working out a document keeps no mapping as a value. -/
theorem keeps_all (root : Nat) : Keeps (all root) :=
  keeps_bind (keeps_visit root) fun _ => keeps_bind keeps_get fun _ => keeps_rounds _

/-! ### Values -/

/-- No mapping in the value of a part has a name twice. -/
theorem distinct_valueAt (h : workshop.Flat) (fuel number : Nat) :
    (workshop.valueAt fuel number).Distinct := by
  induction fuel generalizing number with
  | zero =>
    unfold valueAt
    split
    · exact Data.Flat.distinct nofun
    · exact Data.Flat.distinct nofun
    · exact Data.distinct_object List.nodup_nil fun _ hfield => absurd hfield List.not_mem_nil
    · exact Data.Flat.distinct nofun
    · exact (h.value number).distinct
  | succ fuel ih =>
    unfold valueAt
    split
    · exact Data.Flat.distinct nofun
    · exact Data.Flat.distinct nofun
    · -- `ofPairs` keeps one field for each name, and each of its values comes from a part.
      refine Data.distinct_object (Fields.distinct_ofPairs _) fun field hfield => ?_
      obtain ⟨pair, hpair, hname⟩ := List.mem_filterMap.mp (Fields.mem_ofPairs hfield)
      obtain ⟨numbers, -, rfl⟩ := List.mem_map.mp hpair
      obtain ⟨name, -, rfl⟩ := Option.map_eq_some_iff.mp hname
      exact ih numbers.2
    · exact Data.Flat.distinct nofun
    · exact (h.value number).distinct

end Yaml.Workshop

namespace Yaml

/-- No mapping in the value of a text has a name twice. -/
theorem Document.distinct_of_read {text : List Char} {document : Document}
    (h : Document.read text = .ok document) : document.value.Distinct := by
  obtain ⟨⟨graph, root⟩, -, hdocument⟩ := bind_eq_ok_iff.mp h
  dsimp only at hdocument
  split at hdocument
  · cases hdocument
    exact Data.Flat.distinct nofun
  · next root =>
    obtain ⟨⟨u, workshop⟩, hrun, hvalue⟩ := bind_eq_ok_iff.mp hdocument
    cases hvalue
    have hflat := (Workshop.keeps_all root _ u workshop (Workshop.flat_ofGraph graph) hrun).1
    exact Workshop.distinct_valueAt hflat Workshop.valueDepth root

end Yaml

end ConsoleKeeper
