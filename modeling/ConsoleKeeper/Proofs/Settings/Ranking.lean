import Mathlib.Data.List.Find
import ConsoleKeeper.Proofs.Act
import ConsoleKeeper.Proofs.Settings.Environment
import ConsoleKeeper.Proofs.Settings.Merging
import ConsoleKeeper.Proofs.Yaml.Document
import ConsoleKeeper.Settings.File

/-!
# `ConsoleKeeper.Proofs.Settings.Ranking`: which source of a setting counts

The values of a settings file count as given ones, and given values are put over all other layers.
So a setting that the file gives has the value from the file, whatever the environment says about
it. The environment counts for the settings that the file leaves out, and the usual value for those
that both leave out. `load_ranks` says this for every file, every environment and every setting, and
also when there are settings to load at all: what counts has to be valid, and what does not count
may be anything.

What lies below the given values is `layerBelow`. It is the layer of the environment alone, unless
the file has rules for other sources among its values.
-/

set_option autoImplicit false

namespace ConsoleKeeper.Settings

variable {files : Tree} {environment : Variables} {given below : Fields} {key : String}

/-! ### The layer of given values -/

/-- No rule for the sources is named like a setting. -/
theorem small_not_mem_keys_of_rule : ∀ name ∈ ruleNames, small name ∉ keys := by
  decide +kernel

/-- The settings are named in small letters. -/
theorem small_of_mem_keys : ∀ key ∈ keys, small key = key := by
  decide +kernel

/-- The first given value under a name, whatever the case in which the name is written. -/
def firstGiven (given : Fields) (key : String) : Option Data :=
  (given.find? fun field => small field.1 = key).map (·.2)

/-- The given values that are no rules. -/
def withoutRules (given : Fields) : Fields :=
  given.filter fun field => !ruleNames.contains field.1

/-- The given values with the names of settings. -/
def known (given : Fields) : Fields :=
  keys.filterMap fun key =>
    (firstGiven (withoutRules given) key).map fun value => (key, value)

/-- The given values that are neither rules nor have the names of settings. -/
def unknown (given : Fields) : Fields :=
  (withoutRules given).filter fun field => !keys.contains (small field.1)

/-- The given layer is what is given for settings, and behind it all that is no setting. -/
theorem givenLayer_eq (given : Fields) : givenLayer given = known given ++ unknown given := by
  simp only [givenLayer, known, unknown, firstGiven, withoutRules, Option.map_map]
  rfl

/-- A given field is unknown if it names no rule and no setting. -/
theorem mem_unknown_iff {field : String × Data} :
    field ∈ unknown given ↔ field ∈ given ∧ field.1 ∉ ruleNames ∧ small field.1 ∉ keys := by
  rw [unknown, List.mem_filter, withoutRules, List.mem_filter, and_assoc]
  simp

/-- Nothing unknown is given if all names are those of rules or of settings. -/
theorem unknown_eq_nil_iff :
    unknown given = [] ↔ ∀ field ∈ given, field.1 ∈ ruleNames ∨ small field.1 ∈ keys := by
  simp only [List.eq_nil_iff_forall_not_mem, mem_unknown_iff, not_and, not_not, or_iff_not_imp_left]

/-- What is given for settings stands in the order of the settings. -/
theorem map_fst_known_sublist (given : Fields) : ((known given).map (·.1)).Sublist keys := by
  rw [known, Table.map_fst_filterMap]
  exact List.filter_sublist

/-- All names in the layer are known if all that are given are names of rules or of settings. -/
theorem forall_mem_givenLayer :
    (∀ field ∈ givenLayer given, field.1 ∈ keys) ↔
      ∀ field ∈ given, field.1 ∈ ruleNames ∨ small field.1 ∈ keys := by
  have hknown : ∀ field ∈ known given, field.1 ∈ keys := fun field hfield =>
    (map_fst_known_sublist given).subset (List.mem_map_of_mem hfield)
  rw [← unknown_eq_nil_iff, givenLayer_eq, List.forall_mem_append, and_iff_right hknown,
    List.eq_nil_iff_forall_not_mem]
  refine forall_congr' fun field => imp_congr_right fun hfield => iff_of_false ?_ fun h => h
  -- An unknown name that is a key would be known, since keys are in small letters.
  intro hkey
  have hsmall := (mem_unknown_iff.mp hfield).2.2
  rw [small_of_mem_keys _ hkey] at hsmall
  exact hsmall hkey

/-- Known names occur once in the layer. -/
theorem distinct_givenLayer (h : ∀ field ∈ given, field.1 ∈ ruleNames ∨ small field.1 ∈ keys) :
    (givenLayer given).Distinct := by
  rw [givenLayer_eq, unknown_eq_nil_iff.mpr h, List.append_nil]
  exact nodup_keys.sublist (map_fst_known_sublist given)

/-- The rules do not stand in the way of a setting. -/
theorem firstGiven_withoutRules (hkey : key ∈ keys) :
    firstGiven (withoutRules given) key = firstGiven given key := by
  unfold firstGiven withoutRules
  rw [List.find?_filter]
  refine congrArg (Option.map _) (List.find?_congr fun field _ => ?_)
  have hrule : small field.1 = key → field.1 ∉ ruleNames := fun hsmall hmem =>
    small_not_mem_keys_of_rule field.1 hmem (hsmall ▸ hkey)
  by_cases hsmall : small field.1 = key
  · simp [hsmall, hrule hsmall]
  · simp [hsmall]

/-- Under the name of a setting the layer has the first value that was given under it. -/
theorem get?_givenLayer (hkey : key ∈ keys) :
    (givenLayer given).get? key = firstGiven given key := by
  have hunknown : Table.get? (unknown given) key = none := by
    refine Table.get?_eq_none_iff.mpr fun hmem => ?_
    obtain ⟨field, hfield, hname⟩ := List.mem_map.mp hmem
    have hsmall := (mem_unknown_iff.mp hfield).2.2
    rw [hname, small_of_mem_keys key hkey] at hsmall
    exact hsmall hkey
  rw [givenLayer_eq, Table.get?_append, hunknown, Option.or_none, known, Table.get?_filterMap,
    if_pos hkey, firstGiven_withoutRules hkey]

/-- What the given values hold in the place of a setting. -/
def givenAt (given : Fields) : List String → Option Data
  | [] => none
  | key :: rest => (firstGiven given key).bind fun value => value.at? rest

/-- The given layer has for a setting what was given for it. -/
theorem at?_givenLayer (hkey : key ∈ keys) (rest : List String) :
    (Data.object (givenLayer given)).at? (key :: rest) = givenAt given (key :: rest) := by
  rw [Data.at?_cons, get?_givenLayer hkey, givenAt]

/-- A value that counts first was given. -/
theorem mem_of_firstGiven {value : Data} (h : firstGiven given key = some value) :
    ∃ field ∈ given, field.2 = value := by
  obtain ⟨field, hfield, hvalue⟩ := Option.map_eq_some_iff.mp h
  exact ⟨field, List.mem_of_find?_eq_some hfield, hvalue⟩

/-! ### Given values over a layer -/

/-- What counts for a setting: what the given values hold in its place, or else what the layer below
holds there. -/
def counting (given below : Fields) (path : List String) : Option Data :=
  (givenAt given path).or ((Data.object below).at? path)

/-- Given values and the layer below them make a document in the form of the settings: all names are
known, and what counts of a section is a mapping. -/
structure Fitting (given below : Fields) : Prop where
  given_known : ∀ field ∈ given, field.1 ∈ ruleNames ∨ small field.1 ∈ keys
  below_known : ∀ field ∈ below, field.1 ∈ keys
  sections_open : ∀ name ∈ sectionNames, ∀ value,
    (firstGiven given name).or (below.get? name) = some value → ∃ inner, value = .object inner

/-- A document of given values over a layer is in form if they fit. -/
theorem fitting_iff :
    Fitting given below ↔
      (∀ field ∈ mergeInto below (givenLayer given), field.1 ∈ keys) ∧
        ∀ name ∈ sectionNames, Fields.OpenAt (mergeInto below (givenLayer given)) name := by
  -- A section must be a mapping in the layers together; the layer that was given decides, and
  -- the layer below counts where that one is silent.
  have hopen (hgiven : ∀ field ∈ given, field.1 ∈ ruleNames ∨ small field.1 ∈ keys) :
      ∀ name ∈ sectionNames, Fields.OpenAt (mergeInto below (givenLayer given)) name ↔
        ∀ value, (firstGiven given name).or (below.get? name) = some value →
          ∃ inner, value = .object inner := by
    intro name hname
    rw [openAt_mergeInto_iff (distinct_givenLayer hgiven),
      get?_givenLayer (mem_keys_of_mem_sectionNames name hname)]
  rw [forall_mem_mergeInto, forall_mem_givenLayer]
  constructor
  · intro h
    exact ⟨⟨h.below_known, h.given_known⟩, fun name hname =>
      (hopen h.given_known name hname).mpr (h.sections_open name hname)⟩
  · rintro ⟨⟨hbelow, hgiven⟩, hsections⟩
    exact ⟨hgiven, hbelow, fun name hname => (hopen hgiven name hname).mp (hsections name hname)⟩

/-- In the place of a setting stands what counts for it, as far as reading goes. -/
theorem at?_merged (hdistinct : ∀ field ∈ given, field.2.Distinct) (h : Fitting given below)
    {setting : Setting Settings} (hmem : setting ∈ all) :
    (Data.object (mergeInto below (givenLayer given))).at? setting.path =
      overlaid ((Data.object below).at? setting.path) (givenAt given setting.path) := by
  -- The mappings of the given layer have different keys, as all mappings of the document have.
  have hinner : ∀ name ∈ keys, ∀ inner, (givenLayer given).get? name = some (.object inner) →
      Table.Distinct inner := by
    intro name hname inner hget
    rw [get?_givenLayer hname] at hget
    obtain ⟨field, hfield, hvalue⟩ := mem_of_firstGiven hget
    exact hdistinct field hfield [] inner (by rw [hvalue, Data.at?_nil])
  obtain ⟨hnames, hsections⟩ := fitting_iff.mp h
  have hlayer := distinct_givenLayer h.given_known
  obtain ⟨key, hkey, -, hpath⟩ | ⟨entry, hentry, hname, -, key, -, hpath⟩ :=
    path_cases setting hmem
  · rw [hpath, ← at?_givenLayer hkey]
    exact at?_mergeInto_singleton hlayer below key
  · rw [hpath, ← at?_givenLayer hname]
    exact at?_mergeInto_pair hlayer (hinner entry.1 hname)
      (hsections entry.1 (List.mem_map_of_mem hentry)) key

/-- Which settings are read from given values over a layer. -/
theorem read_merged_iff (hdistinct : ∀ field ∈ given, field.2.Distinct) (s : Settings) :
    read (.object (mergeInto below (givenLayer given))) = .ok s ↔
      Fitting given below ∧
        ∀ setting ∈ all, setting.Takes {} (counting given below setting.path) s := by
  rw [read_eq_ok_iff, ← and_assoc, ← fitting_iff]
  refine and_congr_right fun h => forall₂_congr fun setting hmem => ?_
  rw [at?_merged hdistinct h hmem]
  exact takes_overlaid_iff hmem

/-- When settings are read from given values over a layer. -/
theorem exists_read_merged_iff (hdistinct : ∀ field ∈ given, field.2.Distinct) :
    (∃ s, read (.object (mergeInto below (givenLayer given))) = .ok s) ↔
      Fitting given below ∧
        ∀ setting ∈ all, setting.Legible (counting given below setting.path) := by
  rw [exists_read_iff, ← and_assoc, ← fitting_iff]
  refine and_congr_right fun h => forall₂_congr fun setting hmem => ?_
  rw [at?_merged hdistinct h hmem]
  exact legible_overlaid_iff hmem

/-! ### What lies below given values -/

/-- The layer below given values, which may have rules for it among them. -/
def layerBelow (files : Tree) (environment : Variables) (given : Fields) :
    Except Failure Fields := do
  let rules ← rulesIn given
  let fileSource ← fileSource rules files environment
  let fromEnvironment ← layerOf rules
    (rules.source (environment.map fun (name, value) => (name, some value)))
  let fromFiles ← layerOf rules fileSource
  let fromSecrets ← secretLayer rules files environment
  return mergeInto (mergeInto fromSecrets
    (mergeInto fromFiles (strangers rules fileSource fromFiles))) fromEnvironment

/-- The layers below the given values are made first, and the settings are read from all of them. -/
theorem gather_eq (files : Tree) (environment : Variables) (given : Fields) :
    gather files environment given =
      (do
        let below ← layerBelow files environment given
        (read (.object (mergeInto below (givenLayer given)))).orFail) := by
  simp only [gather, layerBelow, bind_assoc, pure_bind, List.foldl_cons, List.foldl_nil]

/-- The receiver is neither a rule nor a setting. -/
theorem receiver_unknown : receiver ∉ ruleNames ∧ small receiver ∉ keys := by
  decide +kernel

/-- Settings are read only if nothing is given to the receiver: its name is none of a setting's. -/
theorem not_has_receiver {s : Settings}
    (h : read (.object (mergeInto below (givenLayer given))) = .ok s) :
    given.has receiver = false := by
  have hknown := (forall_mem_mergeInto.mp ((read_eq_ok_iff _ _).mp h).1).2
  cases hgiven : given.get? receiver with
  | none => rw [Table.has, hgiven, Option.isSome_none]
  | some value =>
    exfalso
    obtain hrule | hkey := forall_mem_givenLayer.mp hknown _ (Table.mem_of_get? hgiven)
    · exact receiver_unknown.1 hrule
    · exact receiver_unknown.2 hkey

/-- When settings are built, and which. -/
theorem build_eq_ok_iff {s : Settings} :
    build files environment given = .ok s ↔
      ∃ below, layerBelow files environment given = .ok below ∧
        read (.object (mergeInto below (givenLayer given))) = .ok s := by
  unfold build
  split
  · next hreceiver =>
    refine iff_of_false (fun h => by cases h) ?_
    rintro ⟨below, -, hread⟩
    rw [not_has_receiver hread] at hreceiver
    cases hreceiver
  · rw [gather_eq, bind_eq_ok_iff]
    simp only [Checked.orFail_eq_ok_iff]

/-- Without rules among the given values, the usual rules hold. -/
theorem rulesIn_eq (h : ∀ field ∈ given, field.1 ∉ ruleNames) : rulesIn given = .ok {} := by
  -- Each rule is looked up under its own name, and none of these names was given.
  have hnone : ∀ name ∈ ruleNames, given.get? name = none := by
    intro name hname
    refine Table.get?_eq_none_iff.mpr fun hmem => ?_
    obtain ⟨field, hfield, rfl⟩ := List.mem_map.mp hmem
    exact h field hfield hname
  have hrule : ∀ name ∈ ruleNames, rule? given name = none := fun name hname => by
    rw [rule?, hnone name hname]
  have hholds : ∀ name ∈ ruleNames, holds given name = false := fun name hname => by
    rw [holds, hnone name hname]
  have hfield : ∀ name ∈ ruleNames, Data.field given name = .null := fun name hname => by
    rw [Data.field, hnone name hname, Option.getD_none]
  rw [rulesIn, hrule "_env_nested_max_split" (by decide), hrule "_env_prefix" (by decide),
    hholds "_case_sensitive" (by decide), hrule "_env_nested_delimiter" (by decide),
    hholds "_env_ignore_empty" (by decide), hrule "_env_parse_none_str" (by decide),
    hrule "_env_file" (by decide), hfield "_env_file_encoding" (by decide),
    hrule "_secrets_dir" (by decide)]
  rfl

/-- Without rules among the given values, only the environment lies below them. -/
theorem layerBelow_eq (h : ∀ field ∈ given, field.1 ∉ ruleNames) :
    layerBelow files environment given = environmentLayer environment := by
  have hfiles : fileSource {} files environment = .ok [] := rfl
  have hempty : layerOf {} [] = .ok [] := rfl
  have hsecrets : secretLayer {} files environment = .ok [] := rfl
  rw [layerBelow, rulesIn_eq h]
  show (fileSource {} files environment >>= fun fileSource => _) = _
  rw [hfiles]
  show (environmentLayer environment >>= fun fromEnvironment => _) = _
  rw [hempty, hsecrets]
  -- Under the usual rules there is no file and no secret, so the other layers are empty.
  cases hlayer : environmentLayer environment with
  | error failure => rfl
  | ok layer =>
    show Except.ok (mergeInto (mergeInto [] (mergeInto [] [])) layer) = .ok layer
    rw [mergeInto_nil Table.distinct_nil, mergeInto_nil Table.distinct_nil,
      mergeInto_nil (distinct_environmentLayer hlayer)]

/-! ### Settings from a file -/

variable {κ ρ : Type} {path : String}

/-- No mapping that a file gives has a name twice. -/
theorem distinct_of_givenIn {text : List Char} (h : givenIn path text = .ok given) :
    ∀ field ∈ given, field.2.Distinct := by
  unfold givenIn at h
  split at h
  · cases h
  · cases h
  · next fields named hread =>
    split at h
    · cases h
      exact fun field hfield => (Yaml.Document.distinct_of_read hread).of_mem hfield
    · cases h
  · cases h
    exact fun field hfield => absurd hfield List.not_mem_nil

/-- No mapping in a settings file has a name twice. -/
theorem distinct_of_readFile (h : readFile files path = .ok given) :
    ∀ field ∈ given, field.2.Distinct := by
  unfold readFile at h
  extract_lets place at h
  split at h
  · split at h
    · exact distinct_of_givenIn h
    · cases h
  all_goals cases h

/-- Loading settings from a file is building them from its values. -/
theorem runOn_load {w : World κ ρ} (hread : readFile w.files path = .ok given) :
    (load environment (some path)).runOn w = (build w.files environment given, w) := by
  unfold load
  rw [Act.runOn_bind_ok _ (Act.runOn_look w)]
  dsimp only
  rw [hread, Act.lift_ok_bind, Act.runOn_lift]

/-- What settings come from a file over a layer. -/
theorem runOn_load_eq_ok_iff {w : World κ ρ} (hread : readFile w.files path = .ok given)
    (s : Settings) :
    (load environment (some path)).runOn w = (.ok s, w) ↔
      ∃ below, layerBelow w.files environment given = .ok below ∧
        read (.object (mergeInto below (givenLayer given))) = .ok s := by
  rw [runOn_load hread, Prod.mk.injEq, and_iff_left rfl, build_eq_ok_iff]

/-- Settings that are loaded, by what is known of them. -/
theorem exists_load {α : Type} {w : World κ ρ} {f : Settings → α} {a : α}
    (hread : ∃ given, readFile w.files path = .ok given)
    (h : ((load environment (some path)).runOn w).1.toOption.map f = some a) :
    ∃ s, (load environment (some path)).runOn w = (.ok s, w) ∧ f s = a := by
  obtain ⟨given, hgiven⟩ := hread
  rw [runOn_load hgiven] at h ⊢
  obtain ⟨s, hs, hf⟩ := Option.map_eq_some_iff.mp h
  cases hbuild : build w.files environment given with
  | error failure =>
    rw [hbuild] at hs
    cases hs
  | ok built =>
    rw [hbuild] at hs
    cases hs
    exact ⟨s, rfl, hf⟩

/-- Which settings a file and the environment give, and when they give any.

The settings have what the file gives, else what the layer below gives, else what is usual. There
are settings exactly if the file and that layer fit and all that counts can be read. If the file has
no rules among its values, the layer is that of the environment. A setting has there the value of
the last variable with its name, or else what the document in the variable of its section holds. -/
theorem load_ranks {w : World κ ρ} (environment : Variables)
    (hread : readFile w.files path = .ok given) :
    (∀ s, (load environment (some path)).runOn w = (.ok s, w) ↔
      ∃ below, layerBelow w.files environment given = .ok below ∧ Fitting given below ∧
        ∀ setting ∈ all, setting.Takes {} (counting given below setting.path) s) ∧
    ((∃ s, (load environment (some path)).runOn w = (.ok s, w)) ↔
      ∃ below, layerBelow w.files environment given = .ok below ∧ Fitting given below ∧
        ∀ setting ∈ all, setting.Legible (counting given below setting.path)) ∧
    ((∀ field ∈ given, field.1 ∉ ruleNames) →
      layerBelow w.files environment given = environmentLayer environment) ∧
    (∀ below, environmentLayer environment = .ok below →
      (∀ field ∈ below, field.1 ∈ keys) ∧
      (∀ name ∈ sectionNames, ∀ fields,
        sectionDocument environment name = .ok (.object fields) → below.OpenAt name) ∧
      ∀ setting ∈ all, SaidPlainly environment setting.path →
        (Data.object below).at? setting.path = environmentAt environment setting.path) ∧
    ((∃ below, environmentLayer environment = .ok below) ↔
      ∀ name ∈ sectionNames, ∃ document, sectionDocument environment name = .ok document) := by
  have hdistinct := distinct_of_readFile hread
  refine ⟨fun s => ?_, ?_, layerBelow_eq, fun below hbelow => ⟨?_, ?_, ?_⟩,
    exists_environmentLayer_iff⟩
  · simp only [runOn_load_eq_ok_iff hread, read_merged_iff hdistinct]
  · -- Both sides have the layer below in common; the settings can only be quantified inside it.
    simp only [runOn_load_eq_ok_iff hread]
    rw [exists_comm]
    simp only [exists_and_left, exists_read_merged_iff hdistinct]
  · exact fun field hfield => mem_keys_of_environmentLayer hbelow hfield
  · exact fun name hname fields hdocument => openAt_environmentLayer hbelow hname hdocument
  · exact fun setting hmem hplainly => at?_environmentLayer hbelow hmem hplainly

/-- A world with a settings file. -/
def worldWith (text : String) : World Unit Unit where
  cluster := ()
  runner := ()
  files := ⟨[(["c.yaml"], .file (Text.Utf8.encode text.toList) 0o644)], []⟩

/-- A file that gives a value and one in a section, both of which the environment gives as well. -/
def overlappingFile : World Unit Unit :=
  worldWith "log_level: DEBUG\ninventory:\n  namespace: web\n"

/-- An environment with values that the file gives as well, and one that it does not give. -/
def overlappingVariables : Variables :=
  [("WEBUI_OPERATOR_LOG_LEVEL", "WARNING"), ("webui_operator_inventory__namespace", "other"),
    ("WEBUI_OPERATOR_INVENTORY__VERSION", "v9")]

/-- The file can be read. -/
theorem exists_readFile_overlapping :
    ∃ given, readFile overlappingFile.files "c.yaml" = .ok given := by
  have hok : (readFile overlappingFile.files "c.yaml").toOption.isSome := by decide +kernel
  cases hread : readFile overlappingFile.files "c.yaml" with
  | error failure =>
    rw [hread] at hok
    cases hok
  | ok given => exact ⟨given, rfl⟩

/-- The settings are loaded, with values from the file and from the environment. -/
theorem exists_load_overlapping :
    ∃ s, (load overlappingVariables (some "c.yaml")).runOn overlappingFile =
        (.ok s, overlappingFile) ∧
      (s.logLevel, s.inventory.ns, s.inventory.version) = ("DEBUG", "web", "v9") :=
  exists_load exists_readFile_overlapping (by decide +kernel)

/-- The file counts for the level and the namespace, the environment for the version that it alone
gives. -/
theorem load_ranks_overlapping :
    ∃ given s below, readFile overlappingFile.files "c.yaml" = .ok given ∧
      (load overlappingVariables (some "c.yaml")).runOn overlappingFile =
        (.ok s, overlappingFile) ∧
      (s.logLevel, s.inventory.ns, s.inventory.version) = ("DEBUG", "web", "v9") ∧
      layerBelow overlappingFile.files overlappingVariables given = .ok below ∧
      Fitting given below ∧
      ∀ setting ∈ all, setting.Takes {} (counting given below setting.path) s := by
  obtain ⟨given, hread⟩ := exists_readFile_overlapping
  obtain ⟨s, hload, hvalues⟩ := exists_load_overlapping
  obtain ⟨below, hbelow, hfitting, htakes⟩ :=
    ((load_ranks overlappingVariables hread).1 s).mp hload
  exact ⟨given, s, below, hread, hload, hvalues, hbelow, hfitting, htakes⟩

/-- The environment gives the level of the log, and the settings have that of the file. -/
theorem variable_loses_to_file :
    lastValue overlappingVariables (variableOf ["log_level"]) = some "WARNING" ∧
      ∃ s, (load overlappingVariables (some "c.yaml")).runOn overlappingFile =
          (.ok s, overlappingFile) ∧
        s.logLevel ≠ "WARNING" := by
  obtain ⟨s, hload, hvalues⟩ := exists_load_overlapping
  have hlevel : s.logLevel = "DEBUG" := congrArg (·.1) hvalues
  exact ⟨by decide +kernel, s, hload, by rw [hlevel]; decide⟩

end ConsoleKeeper.Settings
