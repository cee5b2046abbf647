import Mathlib.Data.List.Induction
import ConsoleKeeper.Proofs.Data.Json
import ConsoleKeeper.Proofs.Reading
import ConsoleKeeper.Proofs.Settings.Merging
import ConsoleKeeper.Proofs.Settings.Nesting
import ConsoleKeeper.Proofs.Settings.Values
import ConsoleKeeper.Settings.Layers

/-!
# `ConsoleKeeper.Proofs.Settings.Environment`: the layer of the environment

With the usual rules the environment is the only source besides given values. A setting has a
variable of its own: `variableOf` is its name in small letters. The case of a name does not matter,
and of several variables with one name the last counts (`lastValue`). A section has a variable as
well, which holds a whole document (`sectionDocument`).

`at?_environmentLayer` is the main statement: in the place of a setting the layer has the value of
the setting's variable. Without one it has what the document of the section holds there, and
otherwise nothing. For a setting in a section this rests on the conditions in `SaidPlainly`. The
document of the section is a mapping, with no other spelling of the setting's name in it. And no
variable has a longer name that leads below a setting without a variable.
-/

set_option autoImplicit false

namespace ConsoleKeeper.Settings

variable {environment : Variables} {name key : String}

/-! ### Variables by their names in small letters -/

/-- The name of the variable of a setting, or of a section, in small letters. -/
def variableOf (path : List String) : String :=
  "webui_operator_" ++ String.intercalate "__" path

/-- The value of the last variable with a name, whatever the case in which the name is written. -/
def lastValue (environment : Variables) (name : String) : Option String :=
  (environment.reverse.find? fun entry => small entry.1 = name).map (·.2)

/-- The environment as a source. -/
def environmentSource (environment : Variables) : Source :=
  ({} : SourceRules).source (environment.map fun (name, value) => (name, some value))

/-- The layer that the environment gives with the usual rules. -/
def environmentLayer (environment : Variables) : Except Failure Fields :=
  layerOf {} (environmentSource environment)

/-- One more variable is put into the source under its small name. -/
theorem environmentSource_concat (environment : Variables) (entry : String × String) :
    environmentSource (environment ++ [entry]) =
      Table.put (environmentSource environment) (small entry.1) (.text entry.2) := by
  simp [environmentSource, SourceRules.source, SourceRules.compared, SourceRules.valueOf]

/-- A name has the last value that a variable of that name has. -/
theorem get?_environmentSource (environment : Variables) (name : String) :
    Table.get? (environmentSource environment) name =
      (lastValue environment name).map .text := by
  induction environment using List.reverseRecOn with
  | nil => rfl
  | append_singleton environment last ih =>
    rw [environmentSource_concat, Table.get?_put, ih, lastValue, lastValue, List.reverse_concat,
      List.find?_cons]
    by_cases h : small last.1 = name
    · simp [h]
    · simp [h, Ne.symm h]

/-- The source has each name once. -/
theorem distinct_environmentSource (environment : Variables) :
    Table.Distinct (environmentSource environment) := by
  induction environment using List.reverseRecOn with
  | nil => exact List.nodup_nil
  | append_singleton environment last ih =>
    rw [environmentSource_concat]
    exact ih.put _ _

/-- An entry of the source is a variable. -/
theorem exists_of_mem_environmentSource {entry : String × SourceValue}
    (h : entry ∈ environmentSource environment) :
    ∃ origin ∈ environment, small origin.1 = entry.1 := by
  induction environment using List.reverseRecOn with
  | nil => cases h
  | append_singleton environment last ih =>
    rw [environmentSource_concat] at h
    obtain rfl | h := Table.mem_put h
    · exact ⟨last, by simp, rfl⟩
    · obtain ⟨other, hmem, hother⟩ := ih h
      exact ⟨other, List.mem_append_left _ hmem, hother⟩

/-! ### Sections -/

/-- The names in a source are in small letters. -/
theorem settled_of_mem_environmentSource {entry : String × SourceValue}
    (h : entry ∈ environmentSource environment) {c : Char} (hc : c ∈ entry.1.toList) :
    Text.Settled c := by
  obtain ⟨origin, -, hname⟩ := exists_of_mem_environmentSource h
  rw [← hname, small, String.toList_ofList] at hc
  exact Text.settled_of_mem_lower hc

/-- A known name is not spelled in another way among the values that variables give one by one. -/
theorem eq_of_mem_nestedValues (hkey : ∀ c ∈ key.toList, Text.Plain c) {field : String × Data}
    (hfield : field ∈ nestedValues {} (environmentSource environment) name)
    (hsmall : small field.1 = key) : field.1 = key := by
  obtain ⟨entry, hentry, path, hpath, hin⟩ := exists_of_mem_nestedValues hfield
  have hsettled : ∀ c ∈ field.1.toList, Text.Settled c := fun c hc =>
    settled_of_mem_environmentSource hentry (mem_of_pathBelow hpath hin hc)
  -- The small form is a plain name, and only a plain name in small letters has such a form.
  rw [← hsmall, small] at hkey ⊢
  rw [String.toList_ofList] at hkey
  rw [Text.lower_eq_self hsettled hkey, String.ofList_toList]

/-- The document that the variable of a section holds. Without a variable it is an empty mapping. -/
def sectionDocument (environment : Variables) (name : String) : Except Failure Data :=
  match lastValue environment (variableOf [name]) with
  | some text => documentIn text
  | none => .ok (.object [])

/-- A mapping that a section's variable holds has no name twice. -/
theorem distinct_of_sectionDocument {fields : Fields}
    (h : sectionDocument environment name = .ok (.object fields)) : fields.Distinct := by
  unfold sectionDocument at h
  split at h
  · next text _ =>
    unfold documentIn at h
    split at h
    · next hparse =>
      cases h
      exact Json.distinct_of_parse hparse
    · cases h
    · cases h
  · -- A variable that is not there leaves an empty mapping.
    cases h
    exact List.nodup_nil

/-- What the environment says about a section if its document is a mapping: that mapping with the
values that are given one by one put over it. -/
theorem sectionFrom_of_mapping {fields : Fields}
    (h : sectionDocument environment name = .ok (.object fields)) (names : List String) :
    ∃ value, sectionFrom {} (environmentSource environment) (variableOf [name]) names = .ok value ∧
      value.getD (.object []) = .object (ownNames names (mergeInto fields
        (nestedValues {} (environmentSource environment) (variableOf [name])))) := by
  unfold sectionDocument at h
  simp only [sectionFrom, get?_environmentSource]
  cases hvalue : lastValue environment (variableOf [name]) with
  | some text =>
    rw [hvalue] at h
    dsimp only at h
    simp only [Option.map_some, h]
    exact ⟨_, rfl, rfl⟩
  -- Without a variable for the whole section, the nested ones are all there is, and without them
  -- the section is not mentioned at all.
  | none =>
    rw [hvalue] at h
    cases h
    rw [mergeInto_nil (distinct_nestedValues _ _)]
    refine ⟨_, rfl, ?_⟩
    generalize nestedValues {} (environmentSource environment) (variableOf [name]) = nested
    cases nested <;> rfl

/-- The environment says something about a section, or nothing, if the section's variable holds a
document. -/
theorem exists_sectionFrom_iff (names : List String) :
    (∃ value,
        sectionFrom {} (environmentSource environment) (variableOf [name]) names = .ok value) ↔
      ∃ document, sectionDocument environment name = .ok document := by
  unfold sectionDocument
  simp only [sectionFrom, get?_environmentSource]
  cases lastValue environment (variableOf [name]) with
  | some text =>
    simp only [Option.map_some]
    cases documentIn text with
    | error failure =>
      constructor
      · rintro ⟨value, hvalue⟩
        cases hvalue
      · rintro ⟨document, hdocument⟩
        cases hdocument
    | ok document =>
      refine iff_of_true ?_ ⟨document, rfl⟩
      cases document <;> exact ⟨_, rfl⟩
  | none => exact iff_of_true ⟨_, rfl⟩ ⟨_, rfl⟩

/-! ### The layer -/

/-- What the environment says under the name of a value or of a section, if anything. -/
def said (environment : Variables) (key : String) : Except Failure (Option Data) :=
  match sections.lookup key with
  | some names =>
    sectionFrom {} (environmentSource environment) (small ("WEBUI_OPERATOR_" ++ key)) names
  | none => .ok (singleFrom (environmentSource environment) (small ("WEBUI_OPERATOR_" ++ key)))

/-- A layer with what is said under a name, if anything. -/
def noted (layer : Fields) (key : String) : Option Data → Fields
  | some value => layer.put key value
  | none => layer

/-- What is said under a name counts there and nowhere else. -/
theorem get?_noted (layer : Fields) (key k : String) (value : Option Data) :
    (noted layer key value).get? k =
      if k = key then value.or (layer.get? key) else layer.get? k := by
  cases value with
  | none =>
    rw [noted, Option.none_or]
    split
    · next hk => rw [hk]
    · rfl
  | some value => rw [noted, Table.get?_put, Option.some_or]

/-- Noting a value names nothing twice. -/
theorem distinct_noted {layer : Fields} (h : layer.Distinct) (key : String)
    (value : Option Data) : (noted layer key value).Distinct := by
  cases value with
  | none => exact h
  | some value => exact h.put key value

/-- All that is in a layer was noted last or was there before. -/
theorem mem_noted {layer : Fields} {key : String} {value : Option Data} {field : String × Data}
    (h : field ∈ noted layer key value) : field.1 = key ∨ field ∈ layer := by
  cases value with
  | none => exact .inr h
  | some value =>
    rw [noted] at h
    exact (Table.mem_put h).imp_left fun hsame => congrArg Prod.fst hsame

/-- A layer with what is said under some names, one after the other. -/
def notedAll (saying : String → Except Failure (Option Data)) (layer : Fields)
    (names : List String) : Except Failure Fields :=
  names.foldlM (fun layer key => (noted layer key ·) <$> saying key) layer

/-- By the usual rules names are compared in small letters. -/
theorem compared_usual (name : String) : ({} : SourceRules).compared name = small name := rfl

/-- The layer of the environment is what it says of each setting, noted in order. -/
theorem environmentLayer_eq (environment : Variables) :
    environmentLayer environment = notedAll (said environment) [] keys := by
  unfold environmentLayer layerOf notedAll
  refine congrArg (fun step => keys.foldlM step []) ?_
  funext layer key
  unfold said
  -- A setting that stands alone is looked up under its own name; only a section is put together,
  -- and only there can something fail.
  cases sections.lookup key with
  | none =>
    show (Except.ok _ : Except Failure Fields) = .ok _
    exact congrArg _ (by rfl)
  | some names =>
    simp only [compared_usual]
    cases sectionFrom {} (environmentSource environment) (small ("WEBUI_OPERATOR_" ++ key))
      names with
    | error failure => rfl
    | ok value => cases value <;> rfl

section NotedAll

variable {saying : String → Except Failure (Option Data)} {start layer : Fields}
  {names : List String}

/-- What is said of the first name is noted first, and every name has to be readable. -/
theorem notedAll_cons_eq_ok_iff :
    notedAll saying start (key :: names) = .ok layer ↔
      ∃ value, saying key = .ok value ∧
        notedAll saying (noted start key value) names = .ok layer := by
  rw [notedAll, List.foldlM_cons, bind_eq_ok_iff]
  cases saying key with
  | error failure => simp [Functor.map, Except.map]
  | ok value => simp [Functor.map, Except.map, notedAll]

/-- There is a layer if there is something to say under every name. -/
theorem exists_notedAll (h : ∀ key ∈ names, ∃ value, saying key = .ok value) :
    ∃ layer, notedAll saying start names = .ok layer := by
  induction names generalizing start with
  | nil => exact ⟨start, rfl⟩
  | cons key names ih =>
    obtain ⟨⟨value, hvalue⟩, hrest⟩ := List.forall_mem_cons.mp h
    obtain ⟨layer, hlayer⟩ := @ih (noted start key value) hrest
    exact ⟨layer, notedAll_cons_eq_ok_iff.mpr ⟨value, hvalue, hlayer⟩⟩

/-- The names that nothing is said under keep what they had. -/
theorem get?_notedAll_of_not_mem (h : notedAll saying start names = .ok layer)
    (hkey : key ∉ names) : layer.get? key = start.get? key := by
  induction names generalizing start with
  | nil =>
    cases h
    rfl
  | cons first names ih =>
    obtain ⟨value, -, hrest⟩ := notedAll_cons_eq_ok_iff.mp h
    rw [List.mem_cons, not_or] at hkey
    rw [ih hrest hkey.2, get?_noted, if_neg hkey.1]

/-- Under each name stands what is said under it. -/
theorem eq_ok_of_notedAll (hnames : names.Nodup) (h : notedAll saying start names = .ok layer)
    (hkey : key ∈ names) :
    ∃ value, saying key = .ok value ∧ layer.get? key = value.or (start.get? key) := by
  induction names generalizing start with
  | nil => cases hkey
  | cons first names ih =>
    obtain ⟨hfirst, hrest⟩ := List.nodup_cons.mp hnames
    obtain ⟨value, hvalue, hlayer⟩ := notedAll_cons_eq_ok_iff.mp h
    -- Each name is noted once: what the first one was given, the others leave alone.
    obtain rfl | hkey := List.mem_cons.mp hkey
    · refine ⟨value, hvalue, ?_⟩
      rw [get?_notedAll_of_not_mem hlayer hfirst, get?_noted, if_pos rfl]
    · obtain ⟨other, hother, hget⟩ := ih hrest hlayer hkey
      have hne : key ≠ first := fun hsame => hfirst (hsame ▸ hkey)
      exact ⟨other, hother, by rw [hget, get?_noted, if_neg hne]⟩

/-- A layer that is noted name by name has each name once. -/
theorem distinct_notedAll (hstart : start.Distinct) (h : notedAll saying start names = .ok layer) :
    layer.Distinct := by
  induction names generalizing start with
  | nil =>
    cases h
    exact hstart
  | cons key names ih =>
    obtain ⟨value, -, hrest⟩ := notedAll_cons_eq_ok_iff.mp h
    exact ih (distinct_noted hstart key value) hrest

/-- All that is in such a layer stands under one of the names, or was there before. -/
theorem mem_notedAll (h : notedAll saying start names = .ok layer) {field : String × Data}
    (hfield : field ∈ layer) : field.1 ∈ names ∨ field ∈ start := by
  induction names generalizing start with
  | nil =>
    cases h
    exact .inr hfield
  | cons key names ih =>
    obtain ⟨value, -, hrest⟩ := notedAll_cons_eq_ok_iff.mp h
    obtain hname | hnoted := ih hrest
    · exact .inl (List.mem_cons_of_mem key hname)
    · obtain hname | hstart := mem_noted hnoted
      · exact .inl (hname ▸ List.mem_cons_self)
      · exact .inr hstart

end NotedAll

variable {layer : Fields}

/-- No setting is named twice. -/
theorem nodup_keys : keys.Nodup := by
  decide +kernel

/-- The names of the variables of sections, and of values that are in none. -/
theorem small_start_append : ∀ key ∈ keys,
    small ("WEBUI_OPERATOR_" ++ key) = variableOf [key] := by
  decide +kernel

/-- The layer of the environment has each name once. -/
theorem distinct_environmentLayer (h : environmentLayer environment = .ok layer) :
    layer.Distinct := by
  rw [environmentLayer_eq] at h
  exact distinct_notedAll Table.distinct_nil h

/-- The environment gives nothing but settings. -/
theorem mem_keys_of_environmentLayer (h : environmentLayer environment = .ok layer)
    {field : String × Data} (hfield : field ∈ layer) : field.1 ∈ keys := by
  rw [environmentLayer_eq] at h
  exact (mem_notedAll h hfield).resolve_right List.not_mem_nil

/-- Under a name stands what the environment says under it. -/
theorem said_of_environmentLayer (h : environmentLayer environment = .ok layer)
    (hkey : key ∈ keys) : said environment key = .ok (layer.get? key) := by
  rw [environmentLayer_eq] at h
  obtain ⟨value, hvalue, hget⟩ := eq_ok_of_notedAll nodup_keys h hkey
  rw [hvalue, hget, Table.get?_nil, Option.or_none]

/-- What the environment says under the name of a value that is in no section. -/
theorem said_of_single (hkey : key ∈ keys) (hsection : sections.lookup key = none) :
    said environment key = .ok ((lastValue environment (variableOf [key])).map .text) := by
  rw [said, hsection, small_start_append key hkey]
  dsimp only [singleFrom]
  rw [get?_environmentSource]
  cases lastValue environment (variableOf [key]) <;> rfl

/-- A section that is found is one of the sections. -/
theorem mem_sections_of_lookup {names : List String} (h : sections.lookup key = some names) :
    (key, names) ∈ sections := by
  obtain ⟨before, after, hsections, -⟩ := List.lookup_eq_some_iff.mp h
  rw [hsections]
  exact List.mem_append_right before List.mem_cons_self

/-- What the environment says under the name of a section. -/
theorem said_of_section {names : List String} (hkey : key ∈ keys)
    (hsection : sections.lookup key = some names) :
    said environment key =
      sectionFrom {} (environmentSource environment) (variableOf [key]) names := by
  rw [said, hsection, small_start_append key hkey]

/-- A section is named like a setting of its own. -/
theorem mem_keys_of_mem_sectionNames : ∀ name ∈ sectionNames, name ∈ keys := by
  decide +kernel

/-- Each section can be found by its name. -/
theorem exists_lookup_of_mem_sectionNames (h : name ∈ sectionNames) :
    ∃ names, sections.lookup name = some names := by
  have hall : ∀ name ∈ sectionNames, (sections.lookup name).isSome := by
    decide +kernel
  exact Option.isSome_iff_exists.mp (hall name h)

/-- The environment gives a layer if the variables of all sections hold documents. -/
theorem exists_environmentLayer_iff :
    (∃ layer, environmentLayer environment = .ok layer) ↔
      ∀ name ∈ sectionNames, ∃ document, sectionDocument environment name = .ok document := by
  constructor
  · rintro ⟨layer, hlayer⟩ name hname
    have hkey := mem_keys_of_mem_sectionNames name hname
    obtain ⟨names, hsection⟩ := exists_lookup_of_mem_sectionNames hname
    have hsaid := said_of_environmentLayer hlayer hkey
    rw [said_of_section hkey hsection] at hsaid
    exact (exists_sectionFrom_iff names).mp ⟨_, hsaid⟩
  · intro h
    rw [environmentLayer_eq]
    refine exists_notedAll fun key hkey => ?_
    cases hsection : sections.lookup key with
    | none => exact ⟨_, said_of_single hkey hsection⟩
    | some names =>
      have hname : key ∈ sectionNames :=
        List.mem_map.mpr ⟨_, mem_sections_of_lookup hsection, rfl⟩
      rw [said_of_section hkey hsection]
      exact (exists_sectionFrom_iff names).mpr (h key hname)

/-- What a layer of the environment has under the name of a section whose document is a mapping. -/
theorem getD_section_environmentLayer (h : environmentLayer environment = .ok layer)
    {names : List String} (hname : name ∈ keys) (hsection : sections.lookup name = some names)
    {fields : Fields} (hdocument : sectionDocument environment name = .ok (.object fields)) :
    (layer.get? name).getD (.object []) = .object (ownNames names (mergeInto fields
      (nestedValues {} (environmentSource environment) (variableOf [name])))) := by
  obtain ⟨value, hvalue, hmapping⟩ := sectionFrom_of_mapping hdocument names
  have hsaid := said_of_environmentLayer h hname
  rw [said_of_section hname hsection, hvalue, Except.ok.injEq] at hsaid
  rw [← hsaid, hmapping]

/-- A section whose document is a mapping is open in the layer of the environment. -/
theorem openAt_environmentLayer (h : environmentLayer environment = .ok layer)
    (hname : name ∈ sectionNames) {fields : Fields}
    (hdocument : sectionDocument environment name = .ok (.object fields)) : layer.OpenAt name := by
  obtain ⟨names, hsection⟩ := exists_lookup_of_mem_sectionNames hname
  have hkey := mem_keys_of_mem_sectionNames name hname
  exact (Fields.getD_eq_object_iff.mp
    (getD_section_environmentLayer h hkey hsection hdocument)).1

/-! ### Settings one by one -/

/-- What the environment holds for a setting: the value of the last variable with its name, or else
what the document of its section holds under its name. -/
def environmentAt (environment : Variables) : List String → Option Data
  | [name, key] =>
    ((lastValue environment (variableOf [name, key])).map .text).or
      ((sectionDocument environment name).toOption.bind fun document => document.at? [key])
  | path => (lastValue environment (variableOf path)).map .text

/-- What the environment says of a setting is plain. For one in a section, the document of the
section is a mapping that has no other spelling of the setting's name in it. If the setting has no
variable, there is none below it either. -/
def SaidPlainly (environment : Variables) (path : List String) : Prop :=
  ∀ name key, path = [name, key] →
    (∃ fields, sectionDocument environment name = .ok (.object fields) ∧
      ∀ field ∈ fields, small field.1 = key → field.1 = key) ∧
    (lastValue environment (variableOf [name, key]) = none →
      ∀ entry ∈ environment, ¬(variableOf [name, key]).toList ++ gap <+: (small entry.1).toList)

/-- The variable of a setting in a section is that of the section, a gap, and the name. -/
theorem toList_variableOf_pair (name key : String) :
    (variableOf [name, key]).toList = (variableOf [name]).toList ++ gap ++ key.toList := by
  simp [variableOf, gap]

/-- Without a variable of its own and without one below it, no variable leads to a value. -/
theorem leadsElsewhere_of_lastValue
    (hnone : lastValue environment (variableOf [name, key]) = none)
    (hbelow : ∀ entry ∈ environment,
      ¬(variableOf [name, key]).toList ++ gap <+: (small entry.1).toList) :
    ∀ entry ∈ environmentSource environment, LeadsElsewhere (variableOf [name]) key entry.1 := by
  intro entry hentry path hlead hhead
  have hown := toList_variableOf_pair name key
  obtain ⟨more, rfl⟩ := List.head?_eq_some_iff.mp hhead
  obtain ⟨hsame, -⟩ | ⟨hlonger, -⟩ := toList_of_pathBelow hlead
  · -- A variable with the value's own name would have a value.
    have hname : entry.1 = variableOf [name, key] := String.toList_inj.mp (hsame.trans hown.symm)
    have hget : Table.get? (environmentSource environment) entry.1 = none := by
      rw [get?_environmentSource, hname, hnone, Option.map_none]
    exact Table.get?_eq_none_iff.mp hget (List.mem_map_of_mem hentry)
  · obtain ⟨origin, horigin, hsmall⟩ := exists_of_mem_environmentSource hentry
    rw [← hown, ← hsmall] at hlonger
    exact hbelow origin horigin hlonger

/-- The names of values in sections are not cut. -/
theorem piecesBetween_of_mem_sections : ∀ entry ∈ sections, ∀ k ∈ entry.2,
    Text.piecesBetween gap none k.toList = [k.toList] := by
  decide +kernel

/-- What variables give one by one of a value in a section is the value of its own variable. -/
theorem get?_nestedValues_environment {names : List String} (hentry : (name, names) ∈ sections)
    (hkey : key ∈ names)
    (hbelow : lastValue environment (variableOf [name, key]) = none →
      ∀ entry ∈ environment, ¬(variableOf [name, key]).toList ++ gap <+: (small entry.1).toList) :
    (nestedValues {} (environmentSource environment) (variableOf [name])).get? key =
      (lastValue environment (variableOf [name, key])).map .text := by
  cases hvalue : lastValue environment (variableOf [name, key]) with
  | some value =>
    refine get?_nestedValues_of_text (toList_variableOf_pair name key)
      (piecesBetween_of_mem_sections _ hentry key hkey) (distinct_environmentSource environment) ?_
    rw [get?_environmentSource, hvalue, Option.map_some]
  | none =>
    exact get?_nestedValues_of_apart (leadsElsewhere_of_lastValue hvalue (hbelow hvalue))

/-- The names of values in sections are in small letters of the first 128 characters. -/
theorem plain_of_mem_sections {entry : String × List String} (hentry : entry ∈ sections)
    {k : String} (hk : k ∈ entry.2) : small k = k ∧ ∀ c ∈ k.toList, Text.Plain c := by
  have hall : sections.all fun entry => entry.2.all fun k =>
      small k = k && k.toList.all fun c => decide (Text.Plain c) := by
    decide +kernel
  simpa using List.all_eq_true.mp (List.all_eq_true.mp hall entry hentry) k hk

/-- What a layer of the environment has of a value in a section whose document is a mapping. -/
theorem at?_section_environmentLayer (h : environmentLayer environment = .ok layer)
    {names : List String} (hname : name ∈ keys) (hsection : sections.lookup name = some names)
    (hkey : key ∈ names) (hplainly : SaidPlainly environment [name, key]) :
    (Data.object layer).at? [name, key] = environmentAt environment [name, key] := by
  have hentry := mem_sections_of_lookup hsection
  obtain ⟨hsmall, hplain⟩ := plain_of_mem_sections hentry hkey
  obtain ⟨⟨fields, hdocument, honly⟩, hbelow⟩ := hplainly name key rfl
  obtain ⟨hopen, hmapping⟩ := Fields.getD_eq_object_iff.mp
    (getD_section_environmentLayer h hname hsection hdocument)
  have hgiven := get?_nestedValues_environment hentry hkey hbelow
  generalize hnested : nestedValues {} (environmentSource environment) (variableOf [name]) = nested
    at hmapping hgiven
  -- `ownNames` maps a key to its own spelling, so no other key of the section may be spelled
  -- like this one in small letters.
  have hspelling : ∀ field ∈ mergeInto fields nested, small field.1 = key → field.1 = key := by
    refine (forall_mem_mergeInto (p := fun k => small k = key → k = key)).mpr ⟨honly, ?_⟩
    rw [← hnested]
    exact fun field hfield => eq_of_mem_nestedValues hplain hfield
  have hdistinct := distinct_of_sectionDocument hdocument
  calc (Data.object layer).at? [name, key]
      = (ownNames names (mergeInto fields nested)).get? key := by
        rw [Data.at?_below hopen, hmapping, Data.at?_singleton]
    _ = Table.get? (mergeInto fields nested) key :=
        get?_ownNames hkey hsmall (distinct_mergeInto hdistinct nested) hspelling
    _ = overlaid (Table.get? fields key) ((lastValue environment (variableOf [name, key])).map
          .text) := by
        rw [get?_mergeInto (hnested ▸ distinct_nestedValues _ _), hgiven]
    _ = environmentAt environment [name, key] := by
        rw [overlaid_text, environmentAt, hdocument, ← Data.at?_singleton]
        rfl

/-- What a layer of the environment has of a setting is what the environment holds for it. -/
theorem at?_environmentLayer (h : environmentLayer environment = .ok layer)
    {setting : Setting Settings} (hmem : setting ∈ all)
    (hplainly : SaidPlainly environment setting.path) :
    (Data.object layer).at? setting.path = environmentAt environment setting.path := by
  obtain ⟨key, hkey, hsection, hpath⟩ | ⟨entry, -, hname, hsection, key, hkey, hpath⟩ :=
    path_cases setting hmem
  · have hsaid := said_of_environmentLayer h hkey
    rw [said_of_single hkey hsection, Except.ok.injEq] at hsaid
    rw [hpath, Data.at?_singleton, ← hsaid]
    rfl
  · rw [hpath] at hplainly ⊢
    exact at?_section_environmentLayer h hname hsection hkey hplainly

end ConsoleKeeper.Settings
