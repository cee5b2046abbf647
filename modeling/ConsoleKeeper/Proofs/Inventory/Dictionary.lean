import ConsoleKeeper.Proofs.Inventory.Outline

/-!
# `ConsoleKeeper.Proofs.Inventory.Dictionary`: what a dry run knows about a run

A dry run reads an inventory into a dictionary, in which the last assignment to a name counts. The
inventory is written line by line, and the reader looks at the characters of each line only, so it
is not the same thing that decides on both sides what a variable is.

`recovers_iff` says when they agree. The dictionary has all that the inventory was written from and
no other name exactly if every text that was put in is one that a line can hold as a value. A reader
never finds other values (`fits_of_mem_runVariables`), whatever the document is.
-/

set_option autoImplicit false

namespace ConsoleKeeper.Inventory

variable {spec : WebUI.Spec} {ns : String} {action : PlaybookAction} {defaults : InventoryDefaults}
  {key value : String} {pairs : List (String × String)}

/-- A dictionary has what an inventory is written from: the variables of every run, the ones of this
run only if they have something to say, and no other name. -/
structure Recovers (dictionary : String → Option String) (spec : WebUI.Spec) (ns : String)
    (action : PlaybookAction) (defaults : InventoryDefaults) : Prop where
  platform : dictionary "platform" = some "openshift"
  task : dictionary "apb_action" = some action.name
  registryUrl : dictionary "registry_url" =
    some (orDefault spec.registryUrl defaults.registryUrl)
  registryNamespace : dictionary "registry_namespace" =
    some (orDefault spec.registryNamespace defaults.registryNamespace)
  version : dictionary "docker_tag" = some (orDefault spec.version defaults.version)
  ns : dictionary "kubevirt_web_ui_namespace" = some (orDefault ns defaults.ns)
  preserved : dictionary "preserve_namespace" =
    if action = .deprovision then some "true" else none
  subdomain : dictionary "openshift_master_default_subdomain" =
    if spec.defaultSubdomain = "" then none else some spec.defaultSubdomain
  hostname : dictionary "public_master_hostname" =
    if spec.masterHostname = "" then none else some spec.masterHostname
  other : ∀ key ∉ variableNames, dictionary key = none

/-! ### What a reader finds -/

/-- A value that a key has was given to it. -/
theorem mem_of_valueOf? (h : valueOf? pairs key = some value) : (key, value) ∈ pairs := by
  obtain ⟨⟨found, value⟩, hfind, rfl⟩ := Option.map_eq_some_iff.mp h
  have hkey : found = key := by simpa using List.find?_some hfind
  rw [← hkey]
  exact List.mem_reverse.mp (List.mem_of_find?_eq_some hfind)

/-- A key that was given no value has none. -/
theorem valueOf?_eq_none (h : key ∉ pairs.map (·.1)) : valueOf? pairs key = none := by
  refine Option.map_eq_none_iff.mpr (List.find?_eq_none.mpr fun pair hpair hkey => ?_)
  rw [← of_decide_eq_true hkey] at h
  exact h (List.mem_map_of_mem (List.mem_reverse.mp hpair))

/-- A line that is read has one equals sign between the name and the value, and no blank. -/
theorem assignment?_eq_some {line : List Char} (h : assignment? line = some (key, value)) :
    line = key.toList ++ '=' :: value.toList ∧ line.count '=' = 1 ∧ ' ' ∉ line := by
  unfold assignment? at h
  split at h
  · next hline =>
    rw [Bool.and_eq_true, decide_eq_true_eq] at hline
    -- The line has exactly one equals sign, so the first one is where it is cut.
    split at h
    · next before after hcut =>
      obtain ⟨rfl, rfl⟩ := Prod.mk.inj (Option.some.inj h)
      refine ⟨?_, hline.1, by simpa using hline.2⟩
      rw [String.toList_ofList, String.toList_ofList]
      exact Text.cutFirst_eq_some hcut
    · cases h
  · cases h

/-- The name and the value on an unbroken line fit on a line. -/
theorem fits_of_assignment? {line : List Char} (hline : Text.Unbroken line)
    (h : assignment? line = some (key, value)) : Fits key ∧ Fits value := by
  obtain ⟨rfl, hcount, hblank⟩ := assignment?_eq_some h
  -- The equals sign between the two is the only one.
  rw [List.count_append, List.count_cons_self] at hcount
  have hkey : '=' ∉ key.toList := List.count_eq_zero.mp (by omega)
  have hvalue : '=' ∉ value.toList := List.count_eq_zero.mp (by omega)
  have fits : ∀ text : String, text.toList ⊆ key.toList ++ '=' :: value.toList →
      '=' ∉ text.toList → Fits text := by
    intro text hsub hequals c hc
    exact ⟨fun he => hequals (he ▸ hc), fun he => hblank (he ▸ hsub hc), hline c (hsub hc)⟩
  exact ⟨fits key (List.subset_append_left _ _) hkey,
    fits value (fun c hc => List.mem_append_right _ (List.mem_cons_of_mem _ hc)) hvalue⟩

/-- The names and values that are read off a document fit on a line. -/
theorem fits_of_mem_runVariables {document : String}
    (h : (key, value) ∈ runVariables document) : Fits key ∧ Fits value := by
  obtain ⟨line, hline, hread⟩ := List.mem_filterMap.mp h
  exact fits_of_assignment? (Text.unbroken_of_mem_lines hline) hread

/-! ### What an inventory is written from -/

/-- A name that this run has no use for is given no value. -/
theorem valueOf?_assignments_eq_none
    (h : key ∉ keys action (!spec.defaultSubdomain.isEmpty) (!spec.masterHostname.isEmpty)) :
    valueOf? (assignments spec ns action defaults) key = none :=
  valueOf?_eq_none (by rwa [map_fst_assignments])

/-- The assignments of a run, read as a dictionary. -/
theorem recovers_assignments (spec : WebUI.Spec) (ns : String) (action : PlaybookAction)
    (defaults : InventoryDefaults) :
    Recovers (valueOf? (assignments spec ns action defaults)) spec ns action defaults where
  platform := valueOf?_assignments (by simp [assignments])
  task := valueOf?_assignments (by simp [assignments])
  registryUrl := valueOf?_assignments (by simp [assignments])
  registryNamespace := valueOf?_assignments (by simp [assignments])
  version := valueOf?_assignments (by simp [assignments])
  ns := valueOf?_assignments (by simp [assignments])
  preserved := by
    split
    · next h => exact valueOf?_assignments (by simp [assignments, h])
    · next h => exact valueOf?_assignments_eq_none (by simp [keys, h])
  subdomain := by
    split
    · next h => exact valueOf?_assignments_eq_none (by simp [keys, h])
    · next h => exact valueOf?_assignments (by simp [assignments, h])
  hostname := by
    split
    · next h => exact valueOf?_assignments_eq_none (by simp [keys, h])
    · next h => exact valueOf?_assignments (by simp [assignments, h])
  other key hkey := valueOf?_eq_none fun h => hkey (names_sublist.subset h)

/-- A value that is recovered fits on a line. -/
theorem Recovers.fits {document : String}
    (h : Recovers (valueOf? (runVariables document)) spec ns action defaults) :
    ∀ text ∈ inserted spec ns defaults, Fits text := by
  have hread : ∀ {key text : String}, valueOf? (runVariables document) key = some text →
      Fits text := fun hvalue => (fits_of_mem_runVariables (mem_of_valueOf? hvalue)).2
  have hoptional : ∀ {key text : String}, valueOf? (runVariables document) key =
      (if text = "" then none else some text) → Fits text := by
    intro key text hvalue
    split at hvalue
    · next hempty =>
      -- The text does not come up in the dictionary, but an empty text fits on any line.
      rw [hempty]
      decide
    · exact hread hvalue
  simp only [inserted, List.forall_mem_cons]
  exact ⟨hread h.registryUrl, hread h.registryNamespace, hread h.version, hread h.ns,
    hoptional h.subdomain, hoptional h.hostname, List.forall_mem_nil _⟩

/-- The dictionary that is read back from an inventory is what the inventory was written from
exactly if a line can hold each text that was put in: it has no equals sign, no blank, and nothing
that ends a line. -/
theorem recovers_iff :
    Recovers (valueOf? (runVariables (render spec ns action defaults))) spec ns action defaults ↔
      ∀ text ∈ inserted spec ns defaults, Fits text := by
  constructor
  · exact Recovers.fits
  · intro h
    rw [runVariables_render (fits_values h)]
    exact recovers_assignments spec ns action defaults

end ConsoleKeeper.Inventory
