import ConsoleKeeper.Proofs.Inventory

/-!
# `ConsoleKeeper.Proofs.Inventory.Outline`: what a value can do to an inventory

The outline of an inventory is what a reader of its lines sees: the headings of sections, the names
that are given values, and the other lines. An inventory is `Orderly` if its lines are the ones that
were written, in the outline that the action and the two optional names of hosts ask for, and if
only one line says what to do.

Values are written as they are. `orderly_iff` says that an inventory is orderly exactly if no text
that is taken from the resource has a newline, and `not_always_orderly` shows what a version with a
newline can do. A newline never goes unseen: with one the outline is a different one
(`outline_linesRead_iff`).
-/

set_option autoImplicit false

namespace ConsoleKeeper.Inventory

/-! ### The outline of a document -/

/-- What a line is to a reader of the outline. -/
inductive Entry where
  /-- It opens a section. -/
  | heading (line : String)
  /-- It gives this name a value. -/
  | key (name : String)
  /-- It does neither. -/
  | plain (line : String)
  deriving DecidableEq, Repr

/-- Reads a line. A name has no blanks, so the line of a host with its variables is plain. -/
def Entry.ofLine (line : List Char) : Entry :=
  if line.head? = some '[' then .heading (String.ofList line)
  else
    match Text.cutFirst '=' line with
    | (name, some _) =>
      if ' ' ∈ name then .plain (String.ofList line) else .key (String.ofList name)
    | (_, none) => .plain (String.ofList line)

/-- The names that are given values, in order. -/
def keys (action : PlaybookAction) (withSubdomain withHostname : Bool) : List String :=
  ["platform", "apb_action", "registry_url", "registry_namespace", "docker_tag",
    "kubevirt_web_ui_namespace"] ++
  (if action = .deprovision then ["preserve_namespace"] else []) ++
  (if withSubdomain then ["openshift_master_default_subdomain"] else []) ++
  (if withHostname then ["public_master_hostname"] else [])

/-- The outline of an inventory: three sections, of which the last has one host, and nothing after
the last newline. -/
def outline (action : PlaybookAction) (withSubdomain withHostname : Bool) : List Entry :=
  [.heading "[OSEv3:children]", .plain "masters", .plain "", .heading "[OSEv3:vars]"] ++
  (keys action withSubdomain withHostname).map .key ++
  [.plain "", .heading "[masters]", .plain "127.0.0.1 ansible_connection=local", .plain ""]

/-- The lines of an inventory as a reader sees them, with the standard defaults. -/
def linesRead (spec : WebUI.Spec) (ns : String) (action : PlaybookAction) : List (List Char) :=
  Text.splitOn '\n' (render spec ns action {}).toList

/-- An inventory holds what it is meant to hold and nothing else. -/
structure Orderly (spec : WebUI.Spec) (ns : String) (action : PlaybookAction) : Prop where
  /-- The lines are the ones that were written; nothing follows the last newline. -/
  lines : linesRead spec ns action =
    (renderedLines spec ns action {}).map String.toList ++ [[]]
  /-- Headings and names depend on the action and on which optional names there are. -/
  outline : (linesRead spec ns action).map Entry.ofLine =
    outline action (!spec.defaultSubdomain.isEmpty) (!spec.masterHostname.isEmpty)
  /-- One line says what to do, and it says what was asked for. -/
  action : (linesRead spec ns action).filter ("apb_action=".toList.isPrefixOf ·) =
    [("apb_action=" ++ action.name).toList]

/-- The texts that an inventory takes from a resource. -/
def taken (spec : WebUI.Spec) (ns : String) : List String :=
  [spec.registryUrl, spec.registryNamespace, spec.version, ns, spec.defaultSubdomain,
    spec.masterHostname]

variable {spec : WebUI.Spec} {ns : String} {action : PlaybookAction} {defaults : InventoryDefaults}

/-! ### Lines that give values -/

/-- The line that gives a name a value. -/
theorem toList_line (key value : String) :
    (key ++ "=" ++ value).toList = key.toList ++ '=' :: value.toList := by
  simp [String.toList_append]

/-- The line that gives a name a value is read as that, whatever the value is. -/
theorem Entry.ofLine_line {key : String} (hkey : Fits key) (hopen : key.toList.head? ≠ some '[')
    (value : String) : Entry.ofLine (key ++ "=" ++ value).toList = .key key := by
  have hequals : '=' ∉ key.toList := fun h => (hkey _ h).1 rfl
  have hblank : ' ' ∉ key.toList := fun h => (hkey _ h).2.1 rfl
  have hhead : (key.toList ++ '=' :: value.toList).head? ≠ some '[' := by
    cases h : key.toList with
    | nil => simp
    | cons c rest => simpa [h] using hopen
  rw [toList_line, Entry.ofLine, if_neg hhead, Text.cutFirst_append hequals]
  simp [hblank]

/-- Only the line of a name begins with that name and an equals sign. -/
theorem isPrefixOf_line (name : String) {key : String} (hname : '=' ∉ name.toList)
    (hkey : '=' ∉ key.toList) (value : String) :
    (name ++ "=").toList.isPrefixOf (key ++ "=" ++ value).toList = true ↔ key = name := by
  rw [List.isPrefixOf_iff_prefix, toList_line]
  constructor
  · rintro ⟨rest, hrest⟩
    -- Both ways to write the line are cut at the same place.
    have hcut := Text.cutFirst_append hkey value.toList
    rw [← hrest, String.toList_append, List.append_assoc] at hcut
    have hcut' := (Text.cutFirst_append hname rest).symm.trans hcut
    exact (String.toList_inj.mp (congrArg Prod.fst hcut')).symm
  · rintro rfl
    exact ⟨value.toList, by simp⟩

/-- No name of a variable looks like a heading. -/
theorem head?_variableNames : ∀ key ∈ variableNames, key.toList.head? ≠ some '[' := by
  decide +kernel

/-- The names that are given values. -/
theorem map_fst_assignments (spec : WebUI.Spec) (ns : String) (action : PlaybookAction)
    (defaults : InventoryDefaults) :
    (assignments spec ns action defaults).map (·.1) =
      keys action (!spec.defaultSubdomain.isEmpty) (!spec.masterHostname.isEmpty) := by
  unfold assignments keys
  cases action <;> cases spec.defaultSubdomain.isEmpty <;>
    cases spec.masterHostname.isEmpty <;> rfl

/-- One variable says what to do. -/
theorem filter_assignments_action :
    (assignments spec ns action defaults).filter (·.1 = "apb_action") =
      [("apb_action", action.name)] := by
  unfold assignments
  cases action <;> cases spec.defaultSubdomain.isEmpty <;>
    cases spec.masterHostname.isEmpty <;> rfl

/-! ### The written lines -/

/-- The lines that were written have the outline that they should have. -/
theorem map_ofLine_renderedLines (spec : WebUI.Spec) (ns : String) (action : PlaybookAction)
    (defaults : InventoryDefaults) :
    ((renderedLines spec ns action defaults).map String.toList ++ [[]]).map Entry.ofLine =
      outline action (!spec.defaultSubdomain.isEmpty) (!spec.masterHostname.isEmpty) := by
  have hvariables : (assignments spec ns action defaults).map
        (fun pair => Entry.ofLine (pair.1 ++ "=" ++ pair.2).toList) =
      (assignments spec ns action defaults).map fun pair => .key pair.1 := by
    refine List.map_congr_left fun pair hpair => ?_
    have hname := mem_variableNames hpair
    exact Entry.ofLine_line (fits_variableNames _ hname) (head?_variableNames _ hname) pair.2
  rw [outline, ← map_fst_assignments spec ns action defaults]
  simp only [renderedLines, List.map_append, List.map_map, Function.comp_def, hvariables]
  -- The other lines are constant.
  simp only [List.append_assoc]
  rfl

/-- The outline has an entry for every line, and one for the end. -/
theorem length_renderedLines (spec : WebUI.Spec) (ns : String) (action : PlaybookAction)
    (defaults : InventoryDefaults) :
    (renderedLines spec ns action defaults).length + 1 =
      (outline action (!spec.defaultSubdomain.isEmpty) (!spec.masterHostname.isEmpty)).length := by
  rw [← map_ofLine_renderedLines spec ns action defaults]
  simp

/-- One of the lines that were written says what to do. -/
theorem filter_action_renderedLines :
    ((renderedLines spec ns action defaults).map String.toList ++ [[]]).filter
        ("apb_action=".toList.isPrefixOf ·) =
      [("apb_action=" ++ action.name).toList] := by
  have hvariables : ((assignments spec ns action defaults).map
        fun pair => (pair.1 ++ "=" ++ pair.2).toList).filter ("apb_action=".toList.isPrefixOf ·) =
      [("apb_action" ++ "=" ++ action.name).toList] := by
    have hsame : (assignments spec ns action defaults).filter
          (fun pair => "apb_action=".toList.isPrefixOf (pair.1 ++ "=" ++ pair.2).toList) =
        (assignments spec ns action defaults).filter (·.1 = "apb_action") := by
      refine List.filter_congr fun pair hpair => ?_
      have hname : '=' ∉ pair.1.toList := fun h =>
        (fits_variableNames _ (mem_variableNames hpair) _ h).1 rfl
      have hiff := isPrefixOf_line "apb_action" (by decide) hname pair.2
      exact Bool.eq_iff_iff.mpr (hiff.trans decide_eq_true_iff.symm)
    rw [List.filter_map, Function.comp_def, hsame, filter_assignments_action, List.map_singleton]
  simp only [renderedLines, List.map_append, List.map_map, Function.comp_def, List.filter_append,
    hvariables]
  rfl

/-! ### Newlines -/

/-- A newline comes from the given text, since the default has none. -/
theorem newline_mem_orDefault {value default : String} (h : '\n' ∉ default.toList) :
    '\n' ∈ (orDefault value default).toList ↔ '\n' ∈ value.toList := by
  unfold orDefault
  split
  · next hempty => simp [String.isEmpty_iff.mp hempty, h]
  · rfl

/-- A value is empty where its variable is left out, so no newline is left out. -/
theorem forall_mem_optional {key value : String} :
    (∀ pair ∈ (if value.isEmpty then [] else [(key, value)]), '\n' ∉ pair.2.toList) ↔
      '\n' ∉ value.toList := by
  split
  · next hempty => simp [String.isEmpty_iff.mp hempty]
  · simp

/-- The values have no newline exactly if the texts taken from the resource have none. -/
theorem newline_not_mem_values_iff (spec : WebUI.Spec) (ns : String) (action : PlaybookAction) :
    (∀ pair ∈ assignments spec ns action {}, '\n' ∉ pair.2.toList) ↔
      ∀ text ∈ taken spec ns, '\n' ∉ text.toList := by
  have hname : '\n' ∉ action.name.toList := by cases action <;> decide
  unfold assignments
  simp only [List.forall_mem_append, forall_mem_optional, List.forall_mem_cons, taken,
    newline_mem_orDefault (show '\n' ∉ ({} : InventoryDefaults).registryUrl.toList by decide),
    newline_mem_orDefault (show '\n' ∉ ({} : InventoryDefaults).registryNamespace.toList by decide),
    newline_mem_orDefault (show '\n' ∉ ({} : InventoryDefaults).version.toList by decide),
    newline_mem_orDefault (show '\n' ∉ ({} : InventoryDefaults).ns.toList by decide)]
  simp [hname, and_assoc]

/-- The lines have no newline exactly if the texts taken from the resource have none. -/
theorem newline_not_mem_renderedLines_iff (spec : WebUI.Spec) (ns : String)
    (action : PlaybookAction) :
    (∀ line ∈ (renderedLines spec ns action {}).map String.toList, '\n' ∉ line) ↔
      ∀ text ∈ taken spec ns, '\n' ∉ text.toList := by
  rw [← newline_not_mem_values_iff spec ns action]
  have hline : ∀ pair ∈ assignments spec ns action {},
      ('\n' ∉ (pair.1 ++ "=" ++ pair.2).toList ↔ '\n' ∉ pair.2.toList) := by
    intro pair hpair
    have hkey : '\n' ∉ pair.1.toList := fun h => by
      have hfits := fits_variableNames _ (mem_variableNames hpair) _ h
      exact absurd hfits.2.2 (by decide)
    rw [toList_line]
    simp [hkey]
  unfold renderedLines
  simp only [List.map_append, List.forall_mem_append, List.map_map, List.forall_mem_map,
    Function.comp_apply]
  constructor
  · rintro ⟨⟨-, h⟩, -⟩ pair hpair
    exact (hline pair hpair).mp (h pair hpair)
  · intro h
    exact ⟨⟨by decide, fun pair hpair => (hline pair hpair).mpr (h pair hpair)⟩, by decide⟩

/-- Without a newline in its lines, an inventory is read as these lines. -/
theorem linesRead_eq
    (h : ∀ line ∈ (renderedLines spec ns action {}).map String.toList, '\n' ∉ line) :
    linesRead spec ns action = (renderedLines spec ns action {}).map String.toList ++ [[]] := by
  rw [linesRead, toList_render, Text.splitOn_flatMap h]

/-- The outline is the one that was meant exactly if the texts taken from the resource have no
newline: each newline is one line more than there should be. -/
theorem outline_linesRead_iff :
    (linesRead spec ns action).map Entry.ofLine =
        outline action (!spec.defaultSubdomain.isEmpty) (!spec.masterHostname.isEmpty) ↔
      ∀ text ∈ taken spec ns, '\n' ∉ text.toList := by
  rw [← newline_not_mem_renderedLines_iff spec ns action]
  constructor
  · intro h line hline
    have hread := congrArg List.length h
    rw [linesRead, toList_render, List.length_map, Text.length_splitOn_flatMap, List.length_map,
      ← length_renderedLines spec ns action {}] at hread
    -- The lines that were written are as many as the outline has, so no newline is over.
    have hcount : ((renderedLines spec ns action {}).map String.toList).flatten.count '\n' = 0 := by
      omega
    exact fun hmem => List.count_eq_zero.mp hcount (List.mem_flatten_of_mem hline hmem)
  · intro h
    rw [linesRead_eq h, map_ofLine_renderedLines]

/-- An inventory holds what it is meant to hold and nothing else exactly if the texts taken from the
resource have no newline. -/
theorem orderly_iff :
    Orderly spec ns action ↔ ∀ text ∈ taken spec ns, '\n' ∉ text.toList := by
  constructor
  · exact fun h => outline_linesRead_iff.mp h.outline
  · intro h
    have hlines := linesRead_eq ((newline_not_mem_renderedLines_iff spec ns action).mpr h)
    exact ⟨hlines, outline_linesRead_iff.mpr h, by rw [hlines, filter_action_renderedLines]⟩

/-- What an owner may want whose version goes on in a second line. -/
def twoLineSpec : WebUI.Spec :=
  { version := "v1.4\napb_action=deprovision" }

/-- A version with a newline can say a second time what to do. -/
theorem not_always_orderly :
    (linesRead twoLineSpec "ns" .provision).filter ("apb_action=".toList.isPrefixOf ·) =
      ["apb_action=provision".toList, "apb_action=deprovision".toList] ∧
    ¬ Orderly twoLineSpec "ns" .provision := by
  have hread : (linesRead twoLineSpec "ns" .provision).filter
        ("apb_action=".toList.isPrefixOf ·) =
      ["apb_action=provision".toList, "apb_action=deprovision".toList] := by
    rw [linesRead, toList_render]
    decide +kernel
  refine ⟨hread, fun h => ?_⟩
  have hone := h.action
  rw [hread] at hone
  exact absurd (congrArg List.length hone) (by decide)

end ConsoleKeeper.Inventory
