import ConsoleKeeper.Proofs.Data.Fields
import ConsoleKeeper.Proofs.Reading
import ConsoleKeeper.Settings.Basic

/-!
# `ConsoleKeeper.Proofs.Settings.Values`: the settings one by one

A `Setting` is one value that can be configured: the path to where a document gives it, how it is
read there, and where it stands in the settings. `Settings.all` lists them, those of the sections
with the name of the section in front of their own.

Reading a document is reading each setting. A record gets the values of its settings one after the
other, so all that is to be said of one record is what it makes of these values (`Wanting.Makes`);
the rest is the same for each of them (`Reads.of_makes`). A section of a record is a record again.

`Settings.read_eq_ok_iff` says which settings come out of a document, and `Settings.exists_read_iff`
when some do: every setting that the document gives can be read, the sections are mappings, and no
other names are given.
-/

set_option autoImplicit false

namespace ConsoleKeeper

namespace Reading

variable {α : Type} {read : Reading α} {usual : α} {fields : Fields} {key : String}

/-- A value that is read if there is something to read, and is the usual one if not. -/
def Taken (read : Reading α) (usual : α) (raw : Option Data) (a : α) : Prop :=
  match raw with
  | some value => read value = .ok a
  | none => a = usual

/-- What is there to be read can be read. -/
def Legible (read : Reading α) (raw : Option Data) : Prop :=
  ∀ value, raw = some value → ∃ a, read value = .ok a

/-- A field with a default is read as what is taken for it. -/
theorem optional_eq_ok_iff_taken {a : α} :
    optional fields key usual read = .ok a ↔ Taken read usual (fields.get? key) a := by
  unfold Taken
  rw [optional_eq_ok_iff]
  cases fields.get? key <;> simp [eq_comm]

/-- A field with a default can be read if it is legible. -/
theorem exists_optional_iff :
    (∃ a, optional fields key usual read = .ok a) ↔ Legible read (fields.get? key) := by
  unfold optional Legible
  cases fields.get? key <;> simp

end Reading

/-! ### Settings of a record -/

/-- A value of a record that can be configured: where a document gives it, how it is read, and what
the record has it as. -/
structure Setting (σ : Type) where
  {α : Type}
  path : List String
  read : Reading α
  value : σ → α

namespace Setting

variable {σ τ : Type}

/-- The name under which a document has the setting, if it is in no mapping of its own. -/
def key (setting : Setting σ) : String :=
  setting.path.headD ""

/-- A setting that is a text. -/
def text (key : String) (value : σ → String) : Setting σ :=
  ⟨[key], Reading.text, value⟩

/-- A setting of a part of a record, which a document gives in a mapping of its own. -/
def below (name : String) (part : τ → σ) (setting : Setting σ) : Setting τ :=
  ⟨name :: setting.path, setting.read, fun whole => setting.value (part whole)⟩

/-- The record has the setting as it was given, or as it usually is if it was not given. -/
def Takes (setting : Setting σ) (usual : σ) (raw : Option Data) (s : σ) : Prop :=
  Reading.Taken setting.read (setting.value usual) raw (setting.value s)

/-- The setting can be read as it was given, if it was. -/
def Legible (setting : Setting σ) (raw : Option Data) : Prop :=
  Reading.Legible setting.read raw

end Setting

/-- What a reading of a record reads are the given settings, and nothing else. -/
structure Reads {σ : Type} (read : Reading σ) (settings : List (Setting σ)) (usual : σ) :
    Prop where
  named : ∀ setting ∈ settings, setting.path ≠ []
  object : ∀ value s, read value = .ok s → ∃ fields, value = .object fields
  eq_ok_iff : ∀ fields s, read (.object fields) = .ok s ↔
    ∀ setting ∈ settings, setting.Takes usual ((Data.object fields).at? setting.path) s
  exists_iff : ∀ fields, (∃ s, read (.object fields) = .ok s) ↔
    ∀ setting ∈ settings, setting.Legible ((Data.object fields).at? setting.path)
  usual : read (.object []) = .ok usual

namespace Data

/-- One step leads to the field with that name. -/
theorem at?_singleton (fields : Fields) (key : String) :
    (object fields).at? [key] = fields.get? key := by
  simp

/-- Nothing stands in an empty mapping. -/
theorem at?_empty {path : List String} (h : path ≠ []) : (object []).at? path = none := by
  obtain ⟨key, rest, rfl⟩ := List.exists_cons_of_ne_nil h
  simp

end Data

namespace Reads

variable {σ : Type} {read : Reading σ} {settings : List (Setting σ)} {usual s : σ}

/-- A section is taken if what a document gives it as is a mapping and the settings in it are
taken. -/
theorem taken_iff (h : Reads read settings usual) (fields : Fields) (name : String) :
    Reading.Taken read usual (fields.get? name) s ↔ fields.OpenAt name ∧
      ∀ setting ∈ settings,
        setting.Takes usual ((Data.object fields).at? (name :: setting.path)) s := by
  simp only [Reading.Taken, Data.at?_cons, Fields.OpenAt]
  cases fields.get? name with
  | none =>
    simp only [Option.bind_none, reduceCtorEq, false_imp_iff, implies_true, true_and]
    refine ⟨fun hs setting _ => congrArg setting.value hs, fun hall => ?_⟩
    -- A section that is not given is as good as one that gives nothing.
    have hread : read (.object []) = .ok s := (h.eq_ok_iff [] s).mpr fun setting hmem => by
      rw [Data.at?_empty (h.named setting hmem)]
      exact hall setting hmem
    exact Checked.ok.inj (hread.symm.trans h.usual)
  | some value =>
    simp only [Option.bind_some, Option.some.injEq, forall_eq']
    constructor
    · intro hs
      obtain ⟨inner, rfl⟩ := h.object value s hs
      exact ⟨⟨inner, rfl⟩, (h.eq_ok_iff inner s).mp hs⟩
    · rintro ⟨⟨inner, rfl⟩, hall⟩
      exact (h.eq_ok_iff inner s).mpr hall

/-- A section can be read if it is given as a mapping and the settings in it can be read. -/
theorem legible_iff (h : Reads read settings usual) (fields : Fields) (name : String) :
    Reading.Legible read (fields.get? name) ↔ fields.OpenAt name ∧
      ∀ setting ∈ settings,
        setting.Legible ((Data.object fields).at? (name :: setting.path)) := by
  simp only [Reading.Legible, Data.at?_cons, Fields.OpenAt]
  cases fields.get? name with
  | none => simp [Setting.Legible, Reading.Legible]
  | some value =>
    simp only [Option.bind_some, Option.some.injEq, forall_eq']
    constructor
    · -- A record is read from a mapping only.
      rintro ⟨s, hs⟩
      obtain ⟨inner, rfl⟩ := h.object value s hs
      exact ⟨⟨inner, rfl⟩, (h.exists_iff inner).mp ⟨s, hs⟩⟩
    · rintro ⟨⟨inner, rfl⟩, hall⟩
      exact (h.exists_iff inner).mpr hall

end Reads

/-! ### A record, setting by setting -/

/-- What is a record as soon as it has the values of the settings. -/
def Wanting {σ : Type} : List (Setting σ) → Type
  | [] => σ
  | setting :: rest => setting.α → Wanting rest

namespace Wanting

variable {σ : Type} {settings : List (Setting σ)} {usual s : σ} {fields : Fields}

/-- Reads the settings one after the other. -/
def readAll (usual : σ) (fields : Fields) :
    (settings : List (Setting σ)) → Checked (Wanting settings) → Checked σ
  | [], made => made
  | setting :: rest, made =>
    readAll usual fields rest
      (Checked.seq made fun _ =>
        Reading.optional fields setting.key (setting.value usual) setting.read)

/-- Given the values of the settings, this is the record that has them. `known` is what the values
that it has already say about the record. -/
def Makes : (settings : List (Setting σ)) → Wanting settings → (σ → Prop) → Prop
  | [], made, known => ∀ s, made = s ↔ known s
  | setting :: rest, made, known =>
    ∀ a, Makes rest (made a) fun s => known s ∧ a = setting.value s

/-- No setting behind a fault mends it. -/
theorem readAll_faulty (faults : List Fault) :
    readAll usual fields settings (.faulty faults) ≠ .ok s := by
  induction settings generalizing faults with
  | nil => exact nofun
  | cons setting rest ih =>
    unfold readAll
    cases Reading.optional fields setting.key (setting.value usual) setting.read with
    | ok a => exact ih faults
    | faulty more => exact ih (faults ++ more)

/-- The record that is read is the one that has all settings as they were given, or as they usually
are. -/
theorem readAll_eq_ok_iff {made : Wanting settings} {known : σ → Prop}
    (h : Makes settings made known) :
    readAll usual fields settings (.ok made) = .ok s ↔
      known s ∧ ∀ setting ∈ settings, setting.Takes usual (fields.get? setting.key) s := by
  -- By induction on the settings that are still to come, for all that may be known already.
  induction settings generalizing known with
  | nil =>
    have hs : Checked.ok made = .ok s ↔ known s := (iff_of_eq (Checked.ok.injEq ..)).trans (h s)
    exact hs.trans (by simp)
  | cons setting rest ih =>
    have htakes : Reading.optional fields setting.key (setting.value usual) setting.read =
        .ok (setting.value s) ↔ setting.Takes usual (fields.get? setting.key) s :=
      Reading.optional_eq_ok_iff_taken
    unfold readAll
    rw [List.forall_mem_cons, ← htakes]
    cases Reading.optional fields setting.key (setting.value usual) setting.read with
    | ok a =>
      refine (ih (h a)).trans ?_
      rw [Checked.ok.injEq, and_assoc]
    | faulty faults =>
      simp [Checked.seq, readAll_faulty]

/-- A record is read if all settings can be read. -/
theorem exists_readAll_iff (made : Wanting settings) :
    (∃ s, readAll usual fields settings (.ok made) = .ok s) ↔
      ∀ setting ∈ settings, setting.Legible (fields.get? setting.key) := by
  induction settings with
  | nil => exact ⟨fun _ => List.forall_mem_nil _, fun _ => ⟨made, rfl⟩⟩
  | cons setting rest ih =>
    -- What counts for the first setting is only whether it can be read; the rest does not depend
    -- on its value.
    have hlegible :
        (∃ a, Reading.optional fields setting.key (setting.value usual) setting.read = .ok a) ↔
          setting.Legible (fields.get? setting.key) := Reading.exists_optional_iff
    unfold readAll
    rw [List.forall_mem_cons, ← hlegible]
    cases Reading.optional fields setting.key (setting.value usual) setting.read with
    | ok a => exact (ih (made a)).trans (by simp)
    | faulty faults => simp [Checked.seq, readAll_faulty]

end Wanting

/-- A record is read from a mapping. -/
theorem Reading.object_of_record {α : Type} {read : Fields → Checked α} {value : Data} {a : α}
    (h : Reading.record read value = .ok a) : ∃ fields, value = .object fields := by
  cases value with
  | object fields => exact ⟨fields, rfl⟩
  | _ => cases h

/-- A record whose settings stand in no mappings of their own, read setting by setting. -/
theorem Reads.of_makes {σ : Type} (settings : List (Setting σ)) (usual : σ)
    (made : Wanting settings) (hmade : Wanting.Makes settings made fun _ => True)
    (hpath : ∀ setting ∈ settings, setting.path = [setting.key]) :
    Reads (Reading.record fun fields => Wanting.readAll usual fields settings (.ok made)) settings
      usual where
  named setting hmem := by simp [hpath setting hmem]
  object _ _ := Reading.object_of_record
  eq_ok_iff fields s := by
    refine (Wanting.readAll_eq_ok_iff hmade).trans ?_
    rw [true_and]
    exact forall₂_congr fun setting hmem => by rw [hpath setting hmem, Data.at?_singleton]
  exists_iff fields := by
    refine (Wanting.exists_readAll_iff made).trans ?_
    exact forall₂_congr fun setting hmem => by rw [hpath setting hmem, Data.at?_singleton]
  usual := (Wanting.readAll_eq_ok_iff hmade).mpr ⟨trivial, fun _ _ => rfl⟩

/-! ### The sections -/

/-- The settings of the inventory. -/
def InventoryDefaults.settings : List (Setting InventoryDefaults) :=
  [.text "registry_url" registryUrl, .text "registry_namespace" registryNamespace,
    .text "version" version, .text "namespace" ns]

/-- The settings of the commands. -/
def CommandSettings.settings : List (Setting CommandSettings) :=
  [.text "oc_binary" clientBinary, .text "ansible_playbook_binary" playbookBinary,
    .text "playbook_path" playbookPath, .text "verbosity_flag" verbosityFlag,
    .text "kubeconfig_env" kubeconfigVariable,
    ⟨["timeout_seconds"], Reading.nullable Reading.positiveFloat, timeoutSeconds⟩]

/-- The settings of the files of a run. -/
def ArtifactSettings.settings : List (Setting ArtifactSettings) :=
  [.text "temp_dir" tempDir, .text "credentials_prefix" credentialsPrefix,
    .text "inventory_prefix" inventoryPrefix, .text "inventory_extension" inventoryExtension,
    ⟨["suffix_bytes"], Reading.intBetween 1 32, suffixBytes⟩,
    .text "fallback_suffix" fallbackSuffix,
    ⟨["allow_insecure_fallback"], Reading.bool, allowFallback⟩]

/-- The settings of the cluster. -/
def ClusterSettings.settings : List (Setting ClusterSettings) :=
  [⟨["backend"], Reading.wordIn Backend.ofName? .notAChoice, backend⟩, .text "group" group,
    .text "version" version, .text "plural" plural, .text "kind" kind,
    .text "deployment_name" deploymentName, .text "container_name" containerName,
    .text "token_path" tokenPath, .text "ca_path" caPath]

/-- The settings of the inventory are read as they are listed. -/
theorem InventoryDefaults.reads : Reads read settings {} := by
  refine Reads.of_makes settings {} mk ?_ (by simp [settings, Setting.text, Setting.key])
  rintro _ _ _ _ ⟨⟩
  exact (iff_of_eq (mk.injEq ..)).trans (by simp [and_assoc, Setting.text])

/-- The settings of the commands are read as they are listed. -/
theorem CommandSettings.reads : Reads read settings {} := by
  refine Reads.of_makes settings {} mk ?_ (by simp [settings, Setting.text, Setting.key])
  rintro _ _ _ _ _ _ ⟨⟩
  exact (iff_of_eq (mk.injEq ..)).trans (by simp [and_assoc, Setting.text])

/-- The settings of the files of a run are read as they are listed. -/
theorem ArtifactSettings.reads : Reads read settings {} := by
  refine Reads.of_makes settings {} mk ?_ (by simp [settings, Setting.text, Setting.key])
  rintro _ _ _ _ _ _ _ ⟨⟩
  exact (iff_of_eq (mk.injEq ..)).trans (by simp [and_assoc, Setting.text])

/-- The settings of the cluster are read as they are listed. -/
theorem ClusterSettings.reads : Reads read settings {} := by
  refine Reads.of_makes settings {} mk ?_ (by simp [settings, Setting.text, Setting.key])
  rintro _ _ _ _ _ _ _ _ _ ⟨⟩
  exact (iff_of_eq (mk.injEq ..)).trans (by simp [and_assoc, Setting.text])

/-! ### All settings -/

namespace Settings

/-- The settings that are in no section. -/
def own : List (Setting Settings) :=
  [⟨["environment"], Reading.wordIn Stage.ofName? .notAChoice, stage⟩, .text "log_level" logLevel,
    ⟨["log_format"], Reading.wordIn LogFormat.ofName? .notAChoice, logFormat⟩,
    ⟨["retry_delay_seconds"], Reading.positiveFloat, retryDelay⟩]

/-- The settings that are in no section, and each section as one. -/
def parts : List (Setting Settings) :=
  own ++ [⟨["inventory"], InventoryDefaults.read, inventory⟩,
    ⟨["commands"], CommandSettings.read, commands⟩,
    ⟨["artifacts"], ArtifactSettings.read, artifacts⟩,
    ⟨["cluster"], ClusterSettings.read, cluster⟩]

/-- All settings. -/
def all : List (Setting Settings) :=
  own ++ InventoryDefaults.settings.map (.below "inventory" inventory) ++
    CommandSettings.settings.map (.below "commands" commands) ++
    ArtifactSettings.settings.map (.below "artifacts" artifacts) ++
    ClusterSettings.settings.map (.below "cluster" cluster)

/-- The names of the sections. -/
def sectionNames : List String :=
  sections.map (·.1)

/-- A setting stands under its name, or in a section under its name there. -/
theorem path_cases : ∀ setting ∈ all,
    (∃ key ∈ keys, sections.lookup key = none ∧ setting.path = [key]) ∨
      ∃ entry ∈ sections, entry.1 ∈ keys ∧ sections.lookup entry.1 = some entry.2 ∧
        ∃ key ∈ entry.2, setting.path = [entry.1, key] := by
  have hpaths : ∀ path ∈ all.map (·.path),
      (∃ key ∈ keys, sections.lookup key = none ∧ path = [key]) ∨
        ∃ entry ∈ sections, entry.1 ∈ keys ∧ sections.lookup entry.1 = some entry.2 ∧
          ∃ key ∈ entry.2, path = [entry.1, key] := by
    decide +kernel
  exact fun setting hmem => hpaths _ (List.mem_map_of_mem hmem)

/-- Nothing is refused if all names are those of settings. -/
theorem refuseOthers_eq_ok_iff {fields : Fields} :
    refuseOthers fields = .ok () ↔ ∀ field ∈ fields, field.1 ∈ keys := by
  have hnone : (fields.filter fun field => !keys.contains field.1) = [] ↔
      ∀ field ∈ fields, field.1 ∈ keys := by
    simp [List.filter_eq_nil_iff]
  rw [← hnone, refuseOthers]
  split
  · next h => simp only [h]
  · next h => simpa using h

/-- Reads the parts of the settings, whatever else there is in the document. -/
def readParts : Reading Settings :=
  Reading.record fun fields => Wanting.readAll {} fields parts (.ok mk)

/-- The parts of the settings are read as they are listed. -/
theorem reads_parts : Reads readParts parts {} := by
  refine Reads.of_makes parts {} mk ?_ (by simp [parts, own, Setting.text, Setting.key])
  rintro _ _ _ _ _ _ _ _ ⟨⟩
  exact (iff_of_eq (mk.injEq ..)).trans (by simp [and_assoc, Setting.text])

/-- Settings are read from a document if there is nothing else in it. -/
theorem read_eq_ok_iff_readParts {fields : Fields} {s : Settings} :
    read (.object fields) = .ok s ↔
      refuseOthers fields = .ok () ∧ readParts (.object fields) = .ok s := by
  have hread : read (.object fields) = (fun settings _ => settings)
      <$> readParts (.object fields) <*> refuseOthers fields := rfl
  rw [hread, Checked.seq_eq_ok_iff]
  constructor
  · rintro ⟨_, hmapped, u, hothers, rfl⟩
    obtain ⟨_, hparts, rfl⟩ := Checked.map_eq_ok_iff.mp hmapped
    exact ⟨hothers, hparts⟩
  · rintro ⟨hothers, hparts⟩
    exact ⟨_, Checked.map_eq_ok_iff.mpr ⟨s, hparts, rfl⟩, (), hothers, rfl⟩

variable {fields : Fields}

/-- What holds of the parts holds of the settings in no section, and of each section. -/
theorem forall_parts_iff {p : Setting Settings → Prop} :
    (∀ setting ∈ parts, p setting) ↔ (∀ setting ∈ own, p setting) ∧
      p ⟨["inventory"], InventoryDefaults.read, inventory⟩ ∧
      p ⟨["commands"], CommandSettings.read, commands⟩ ∧
      p ⟨["artifacts"], ArtifactSettings.read, artifacts⟩ ∧
      p ⟨["cluster"], ClusterSettings.read, cluster⟩ := by
  simp only [parts, List.forall_mem_append, List.forall_mem_cons, List.not_mem_nil,
    false_imp_iff, implies_true, and_true]

/-- What holds of the settings section by section holds of all, and of all sections. -/
theorem forall_sections_iff {p : Setting Settings → Prop} :
    ((∀ setting ∈ own, p setting) ∧
      (fields.OpenAt "inventory" ∧
        ∀ setting ∈ InventoryDefaults.settings, p (setting.below "inventory" inventory)) ∧
      (fields.OpenAt "commands" ∧
        ∀ setting ∈ CommandSettings.settings, p (setting.below "commands" commands)) ∧
      (fields.OpenAt "artifacts" ∧
        ∀ setting ∈ ArtifactSettings.settings, p (setting.below "artifacts" artifacts)) ∧
      fields.OpenAt "cluster" ∧
        ∀ setting ∈ ClusterSettings.settings, p (setting.below "cluster" cluster)) ↔
    (∀ name ∈ sectionNames, fields.OpenAt name) ∧ ∀ setting ∈ all, p setting := by
  have hsections : sectionNames = ["inventory", "commands", "artifacts", "cluster"] := rfl
  simp only [all, hsections, List.forall_mem_append, List.forall_mem_map, List.forall_mem_cons]
  constructor
  · rintro ⟨hown, ⟨hopen₁, h₁⟩, ⟨hopen₂, h₂⟩, ⟨hopen₃, h₃⟩, ⟨hopen₄, h₄⟩⟩
    exact ⟨⟨hopen₁, hopen₂, hopen₃, hopen₄, List.forall_mem_nil _⟩, ⟨⟨⟨hown, h₁⟩, h₂⟩, h₃⟩, h₄⟩
  · rintro ⟨⟨hopen₁, hopen₂, hopen₃, hopen₄, -⟩, ⟨⟨⟨hown, h₁⟩, h₂⟩, h₃⟩, h₄⟩
    exact ⟨hown, ⟨hopen₁, h₁⟩, ⟨hopen₂, h₂⟩, ⟨hopen₃, h₃⟩, hopen₄, h₄⟩

variable (fields)

/-- Which settings are read from a document. -/
theorem read_eq_ok_iff (s : Settings) :
    read (.object fields) = .ok s ↔ (∀ field ∈ fields, field.1 ∈ keys) ∧
      (∀ name ∈ sectionNames, fields.OpenAt name) ∧
      ∀ setting ∈ all, setting.Takes {} ((Data.object fields).at? setting.path) s := by
  rw [read_eq_ok_iff_readParts, refuseOthers_eq_ok_iff, reads_parts.eq_ok_iff, forall_parts_iff]
  simp only [Setting.Takes, Data.at?_singleton]
  rw [InventoryDefaults.reads.taken_iff, CommandSettings.reads.taken_iff,
    ArtifactSettings.reads.taken_iff, ClusterSettings.reads.taken_iff]
  exact and_congr_right fun _ => forall_sections_iff

/-- When settings are read from a document. -/
theorem exists_read_iff :
    (∃ s, read (.object fields) = .ok s) ↔ (∀ field ∈ fields, field.1 ∈ keys) ∧
      (∀ name ∈ sectionNames, fields.OpenAt name) ∧
      ∀ setting ∈ all, setting.Legible ((Data.object fields).at? setting.path) := by
  simp only [read_eq_ok_iff_readParts, exists_and_left]
  rw [refuseOthers_eq_ok_iff, reads_parts.exists_iff, forall_parts_iff]
  simp only [Setting.Legible, Data.at?_singleton]
  rw [InventoryDefaults.reads.legible_iff, CommandSettings.reads.legible_iff,
    ArtifactSettings.reads.legible_iff, ClusterSettings.reads.legible_iff]
  exact and_congr_right fun _ => forall_sections_iff

/-- No setting is a mapping. -/
theorem not_read_object : ∀ setting ∈ all, ∀ inner a, setting.read (.object inner) ≠ .ok a := by
  simp [all, own, InventoryDefaults.settings, CommandSettings.settings, ArtifactSettings.settings,
    ClusterSettings.settings, Setting.below, Setting.text, Reading.text, Reading.wordIn,
    Reading.positiveFloat, Reading.nullable, Reading.float, Reading.intBetween, Reading.int,
    Reading.bool, Checked.fault, Checked.thenCheck, Checked.map]

end Settings

end ConsoleKeeper
