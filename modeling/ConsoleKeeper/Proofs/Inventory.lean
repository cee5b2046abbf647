import Mathlib.Data.List.Nodup
import ConsoleKeeper.Inventory
import ConsoleKeeper.Proofs.Text.Split

/-!
# `ConsoleKeeper.Proofs.Inventory`: reading back an inventory

A line of an inventory can hold a value without equals signs, blanks and ends of lines.
`runVariables_render` says that the variables of a run are read back as they were written if each of
their values is of that kind: no other line of the document looks like an assignment.
-/

set_option autoImplicit false

namespace ConsoleKeeper.Inventory

variable {spec : WebUI.Spec} {ns : String} {action : PlaybookAction} {defaults : InventoryDefaults}

/-- A line can hold the text as a name or a value. -/
def Fits (text : String) : Prop :=
  ∀ c ∈ text.toList, c ≠ '=' ∧ c ≠ ' ' ∧ Text.isLineBoundary c = false

instance (text : String) : Decidable (Fits text) :=
  List.decidableBAll _ text.toList

/-- A text that fits is in one line. -/
theorem Fits.unbroken {text : String} (h : Fits text) : Text.Unbroken text.toList :=
  fun c hc => (h c hc).2.2

/-- The names of the variables of a run. -/
def variableNames : List String :=
  ["platform", "apb_action", "registry_url", "registry_namespace", "docker_tag",
    "kubevirt_web_ui_namespace", "preserve_namespace", "openshift_master_default_subdomain",
    "public_master_hostname"]

/-- The names that get values fit themselves. -/
theorem fits_variableNames : ∀ key ∈ variableNames, Fits key := by
  decide +kernel

/-- No name gets two values. -/
theorem nodup_variableNames : variableNames.Nodup := by
  decide +kernel

/-- Only these variables are given a value, each at most once. -/
theorem names_sublist :
    ((assignments spec ns action defaults).map (·.1)).Sublist variableNames := by
  have optional : ∀ (p : Prop) [Decidable p] (key value : String),
      ((if p then [(key, value)] else []).map (·.1)).Sublist [key] := by
    intro p _ key value
    split <;> simp
  have optional' : ∀ (p : Prop) [Decidable p] (key value : String),
      ((if p then [] else [(key, value)]).map (·.1)).Sublist [key] := by
    intro p _ key value
    split <;> simp
  unfold assignments
  simp only [List.map_append]
  -- The names come in the order in which they are listed; the last ones may be missing.
  exact (((List.Sublist.refl _).append (optional _ _ _)).append (optional' _ _ _)).append
    (optional' _ _ _)

/-- Only those names get values. -/
theorem mem_variableNames {pair : String × String}
    (h : pair ∈ assignments spec ns action defaults) : pair.1 ∈ variableNames :=
  names_sublist.subset (List.mem_map_of_mem h)

/-- The texts that an inventory puts in for its variables. -/
def inserted (spec : WebUI.Spec) (ns : String) (defaults : InventoryDefaults) : List String :=
  [orDefault spec.registryUrl defaults.registryUrl,
    orDefault spec.registryNamespace defaults.registryNamespace,
    orDefault spec.version defaults.version, orDefault ns defaults.ns, spec.defaultSubdomain,
    spec.masterHostname]

/-- The values of a run fit on lines if the texts do that are put in. -/
theorem fits_values (h : ∀ text ∈ inserted spec ns defaults, Fits text) :
    ∀ pair ∈ assignments spec ns action defaults, Fits pair.2 := by
  simp only [inserted, List.forall_mem_cons] at h
  obtain ⟨hurl, hregistry, hversion, hns, hsubdomain, hhostname, -⟩ := h
  have hopenshift : Fits "openshift" := by decide +kernel
  have htrue : Fits "true" := by decide +kernel
  have htask : Fits action.name := by cases action <;> decide +kernel
  simp only [assignments, List.forall_mem_append, List.forall_mem_cons]
  refine ⟨⟨⟨⟨hopenshift, htask, hurl, hregistry, hversion, hns, by simp⟩, ?_⟩, ?_⟩, ?_⟩
  · split <;> simp [htrue]
  · split <;> simp [hsubdomain]
  · split <;> simp [hhostname]

/-- The value of a variable that is given one once. -/
theorem valueOf?_of_mem {pairs : List (String × String)} (hnodup : (pairs.map (·.1)).Nodup)
    {key value : String} (h : (key, value) ∈ pairs) : valueOf? pairs key = some value := by
  unfold valueOf?
  cases hfind : pairs.reverse.find? (·.1 = key) with
  | none =>
    have hne := List.find?_eq_none.mp hfind (key, value) (List.mem_reverse.mpr h)
    simp at hne
  | some pair =>
    have hkey : pair.1 = key := by simpa using List.find?_some hfind
    have hmem : pair ∈ pairs := List.mem_reverse.mp (List.mem_of_find?_eq_some hfind)
    have hsame : pair = (key, value) := List.inj_on_of_nodup_map hnodup hmem h hkey
    rw [hsame]
    rfl

/-- The value that is read of a variable. -/
theorem valueOf?_assignments {key value : String}
    (h : (key, value) ∈ assignments spec ns action defaults) :
    valueOf? (assignments spec ns action defaults) key = some value :=
  valueOf?_of_mem (nodup_variableNames.sublist names_sublist) h

/-- A line with a name and a value is read as that. -/
theorem assignment?_line {key value : String} (hkey : Fits key) (hvalue : Fits value) :
    assignment? (key ++ "=" ++ value).toList = some (key, value) := by
  have hkey' : '=' ∉ key.toList := fun h => (hkey _ h).1 rfl
  have hvalue' : '=' ∉ value.toList := fun h => (hvalue _ h).1 rfl
  have hblank : ' ' ∉ key.toList := fun h => (hkey _ h).2.1 rfl
  have hblank' : ' ' ∉ value.toList := fun h => (hvalue _ h).2.1 rfl
  have hline : (key ++ "=" ++ value).toList = key.toList ++ '=' :: value.toList := by
    simp [String.toList_append]
  rw [hline, assignment?, Text.cutFirst_append hkey']
  simp [List.count_eq_zero_of_not_mem hkey', List.count_eq_zero_of_not_mem hvalue', hblank,
    hblank']

/-- Lines with names and values are read as these. -/
theorem filterMap_assignment? {pairs : List (String × String)}
    (h : ∀ pair ∈ pairs, Fits pair.1 ∧ Fits pair.2) :
    pairs.filterMap (fun pair => assignment? (pair.1 ++ "=" ++ pair.2).toList) = pairs := by
  induction pairs with
  | nil => rfl
  | cons pair rest ih =>
    obtain ⟨hkey, hvalue⟩ := h pair List.mem_cons_self
    rw [List.filterMap_cons, assignment?_line hkey hvalue,
      ih fun p hp => h p (List.mem_cons_of_mem pair hp)]

/-- The characters of an inventory. -/
theorem toList_render :
    (render spec ns action defaults).toList =
      ((renderedLines spec ns action defaults).map String.toList).flatMap (· ++ ['\n']) := by
  simp [render, String.toList_join, List.flatMap_map, String.toList_append]

/-- No line of an inventory is broken if its values fit. -/
theorem unbroken_renderedLines
    (h : ∀ pair ∈ assignments spec ns action defaults, Fits pair.2) :
    ∀ line ∈ (renderedLines spec ns action defaults).map String.toList, Text.Unbroken line := by
  unfold renderedLines
  simp only [List.map_append, List.forall_mem_append]
  -- The lines before and after the variables are constant.
  refine ⟨⟨?_, ?_⟩, ?_⟩
  · decide +kernel
  · simp only [List.map_map, List.mem_map, forall_exists_index, and_imp]
    rintro line pair hmem rfl
    have hkey := fits_variableNames pair.1 (mem_variableNames hmem)
    intro c hc
    simp only [Function.comp_apply, String.toList_append, List.mem_append] at hc
    obtain (hc | hc) | hc := hc
    · exact hkey.unbroken c hc
    · have hequals : Text.Unbroken "=".toList := by decide +kernel
      exact hequals c hc
    · exact (h _ hmem).unbroken c hc
  · decide +kernel

/-- The variables of a run are read back as they were written. -/
theorem runVariables_render (h : ∀ pair ∈ assignments spec ns action defaults, Fits pair.2) :
    runVariables (render spec ns action defaults) = assignments spec ns action defaults := by
  have hlines := filterMap_assignment? fun pair hpair =>
    ⟨fits_variableNames _ (mem_variableNames hpair), h pair hpair⟩
  -- The lines around the variables have no equals sign, or they have a blank.
  have hhead : (["[OSEv3:children]", "masters", "", "[OSEv3:vars]"].filterMap
      fun line => assignment? line.toList) = [] := by
    decide +kernel
  have htail : (["", "[masters]", "127.0.0.1 ansible_connection=local"].filterMap
      fun line => assignment? line.toList) = [] := by
    decide +kernel
  rw [runVariables, toList_render, Text.lines_flatMap (unbroken_renderedLines h),
    List.filterMap_map]
  simp only [renderedLines, List.filterMap_append, List.filterMap_map, Function.comp_def, hhead,
    htail, hlines, List.nil_append, List.append_nil]

end ConsoleKeeper.Inventory
