import Mathlib.Data.List.Induction
import ConsoleKeeper.Proofs.Data.Fields
import ConsoleKeeper.Proofs.Text.Case
import ConsoleKeeper.Proofs.Text.Split
import ConsoleKeeper.Settings.Sources

/-!
# `ConsoleKeeper.Proofs.Settings.Nesting`: the values of a section one by one

With the usual rules a name that begins with the name of a section and two underscores leads to a
place in the section: what follows is cut at double underscores (`pathBelow`). The entries of a
source are planted one after the other.

An entry that leads to a key itself puts its text there, whatever stood there before. One that leads
below the key finds the text in its way and changes nothing. So the text stays whichever of them
comes first (`get?_nestedValues_of_text`). Without any of them there is nothing under the key
(`get?_nestedValues_of_apart`).

The names in a section may be written in any case. A name in small letters keeps its value if it is
not there in another spelling (`get?_ownNames`).
-/

set_option autoImplicit false

namespace ConsoleKeeper.Settings

variable {source : Source} {fields : Fields} {entry : String × SourceValue} {name key own : String}

/-! ### Names below the name of a section -/

/-- What stands between the names of a section and of a value in it. -/
def gap : List Char := ['_', '_']

/-- The path behind the name of a section, if a name begins with that name. -/
def pathBelow (name given : String) : Option (List String) :=
  (List.isPrefixOf? (name.toList ++ gap) given.toList).map fun rest =>
    (Text.piecesBetween gap none rest).map String.ofList

/-- A name that leads to a key or below it: that key itself, or longer by more than a gap. -/
theorem toList_of_pathBelow {given : String} {more : List String}
    (h : pathBelow name given = some (key :: more)) :
    given.toList = name.toList ++ gap ++ key.toList ∧ more = [] ∨
      name.toList ++ gap ++ key.toList ++ gap <+: given.toList ∧ more ≠ [] := by
  obtain ⟨rest, hrest, hpieces⟩ := Option.map_eq_some_iff.mp h
  have hgiven := List.isPrefixOf?_eq_some_iff_append_eq.mp hrest
  -- The pieces, with gaps between them, are the rest of the name.
  have hjoin : List.intercalate gap (Text.piecesBetween gap none rest) = rest :=
    Text.intercalate_piecesBetween (List.cons_ne_nil _ _) none rest
  obtain ⟨piece, pieces, hcut, hkey, hmore⟩ := List.map_eq_cons_iff.mp hpieces
  have hpiece : piece = key.toList := by rw [← hkey, String.toList_ofList]
  rw [hcut, hpiece] at hjoin
  cases pieces with
  | nil =>
    left
    rw [← hgiven, ← hjoin, ← hmore, List.intercalate_singleton]
    exact ⟨rfl, rfl⟩
  | cons next pieces =>
    right
    rw [List.intercalate_cons_cons] at hjoin
    refine ⟨?_, ?_⟩
    · rw [← hgiven, ← hjoin]
      exact ⟨List.intercalate gap (next :: pieces), by simp only [List.append_assoc]⟩
    · rw [← hmore]
      exact List.cons_ne_nil _ _

/-- The name of a key below the name of a section. -/
theorem pathBelow_of_toList {given : String}
    (hkey : Text.piecesBetween gap none key.toList = [key.toList])
    (h : given.toList = name.toList ++ gap ++ key.toList) : pathBelow name given = some [key] := by
  have hrest : List.isPrefixOf? (name.toList ++ gap) given.toList = some key.toList :=
    List.isPrefixOf?_eq_some_iff_append_eq.mpr h.symm
  rw [pathBelow, hrest, Option.map_some, hkey, List.map_singleton, String.ofList_toList]

/-- A path is written with the characters of the name. -/
theorem mem_of_pathBelow {given : String} {path : List String}
    (h : pathBelow name given = some path) {k : String} (hk : k ∈ path) {c : Char}
    (hc : c ∈ k.toList) : c ∈ given.toList := by
  obtain ⟨rest, hrest, rfl⟩ := Option.map_eq_some_iff.mp h
  obtain ⟨piece, hpiece, rfl⟩ := List.mem_map.mp hk
  rw [String.toList_ofList] at hc
  have hjoin : List.intercalate gap (Text.piecesBetween gap none rest) = rest :=
    Text.intercalate_piecesBetween (List.cons_ne_nil _ _) none rest
  rw [← List.isPrefixOf?_eq_some_iff_append_eq.mp hrest, ← hjoin]
  exact List.mem_append_right _ (Text.mem_intercalate hpiece hc)

/-! ### Planting -/

variable {fills : Bool} {value : Data} {path more : List String} {v : String}

/-- A value for no name is planted nowhere. -/
@[simp] theorem plant_nil (fills : Bool) (fields : Fields) (value : Data) :
    plant fills fields value [] = fields := by
  rw [plant]

/-- A value for one name is put under it. -/
theorem plant_singleton (fields : Fields) (value : Data) (key : String) :
    plant false fields value [key] = fields.put key value := by
  rw [plant]

/-- What is planted under one name changes nothing or the value of that name. -/
theorem plant_cases (fills : Bool) (fields : Fields) (value : Data) (key : String)
    (more : List String) :
    plant fills fields value (key :: more) = fields ∨
      ∃ planted, plant fills fields value (key :: more) = fields.put key planted := by
  rw [plant.eq_def]
  split
  · exact .inl rfl
  · next h =>
    obtain ⟨rfl, -⟩ := List.cons.inj h
    split
    · exact .inr ⟨_, rfl⟩
    · exact .inr ⟨_, rfl⟩
    · exact .inr ⟨_, rfl⟩
    · exact .inl rfl
  · next h =>
    obtain ⟨rfl, -⟩ := List.cons.inj h
    split
    · exact .inr ⟨_, rfl⟩
    · exact .inl rfl
    · exact .inr ⟨_, rfl⟩

/-- A text is not replaced by what is planted below it. -/
theorem plant_below_text (h : fields.get? key = some (.text v)) (hmore : more ≠ []) :
    plant fills fields value (key :: more) = fields := by
  obtain ⟨k, rest, rfl⟩ := List.exists_cons_of_ne_nil hmore
  rw [plant, h]
  simp

/-- What is planted elsewhere does not change the value of a name. -/
theorem get?_plant_of_apart (h : path.head? ≠ some key) :
    (plant fills fields value path).get? key = fields.get? key := by
  cases path with
  | nil => rw [plant_nil]
  | cons k more =>
    have hk : key ≠ k := fun hk => h (congrArg some hk.symm)
    obtain hsame | ⟨planted, hset⟩ := plant_cases fills fields value k more
    · rw [hsame]
    · rw [hset, Table.get?_put, if_neg hk]

/-- Planting makes no name occur twice. -/
theorem distinct_plant (h : fields.Distinct) : (plant fills fields value path).Distinct := by
  cases path with
  | nil => rwa [plant_nil]
  | cons k more =>
    obtain hsame | ⟨planted, hset⟩ := plant_cases fills fields value k more
    · rwa [hsame]
    · rw [hset]
      exact h.put k planted

/-- A name that is there after planting was there before or begins the path. -/
theorem mem_plant {field : String × Data} (h : field ∈ plant fills fields value path) :
    field.1 ∈ path ∨ field ∈ fields := by
  cases path with
  | nil => exact .inr (by rwa [plant_nil] at h)
  | cons k more =>
    obtain hsame | ⟨planted, hset⟩ := plant_cases fills fields value k more
    · exact .inr (hsame ▸ h)
    · rw [hset] at h
      obtain rfl | h := Table.mem_put h
      · exact .inl List.mem_cons_self
      · exact .inr h

/-! ### The entries of a source -/

/-- The values of a section after one more entry of a source. -/
def withEntry (name : String) (fields : Fields) (entry : String × SourceValue) : Fields :=
  match pathBelow name entry.1 with
  | none => fields
  | some path =>
    match entry.2 with
    | .text s => plant false fields (.text s) path
    | .nullWord _ => plant true fields .null path
    | .nothing => plant false fields .null path

/-- The nested values of a name are gathered entry by entry. -/
theorem nestedValues_eq (source : Source) (name : String) :
    nestedValues {} source name = source.foldl (withEntry name) [] := by
  have hnesting : ({} : SourceRules).nesting = gap := rfl
  rw [nestedValues, hnesting, if_neg (by decide)]
  refine List.foldl_ext _ _ _ fun fields entry _ => ?_
  obtain ⟨given, said⟩ := entry
  dsimp only [withEntry, pathBelow]
  cases List.isPrefixOf? (name.toList ++ gap) given.toList with
  | none => rfl
  | some rest => rfl

/-- An entry changes nothing, or plants something at the path that its name leads to. -/
theorem withEntry_cases (name : String) (fields : Fields) (entry : String × SourceValue) :
    withEntry name fields entry = fields ∨
      ∃ path fills value, pathBelow name entry.1 = some path ∧
        withEntry name fields entry = plant fills fields value path := by
  unfold withEntry
  split
  · exact .inl rfl
  · next path hpath =>
    split
    · exact .inr ⟨path, _, _, hpath, rfl⟩
    · exact .inr ⟨path, _, _, hpath, rfl⟩
    · exact .inr ⟨path, _, _, hpath, rfl⟩

/-- A name leads neither to a key of a section nor below it. -/
def LeadsElsewhere (name key given : String) : Prop :=
  ∀ path, pathBelow name given = some path → path.head? ≠ some key

/-- An entry that leads elsewhere does not change the value of a key. -/
theorem get?_withEntry_of_apart (h : LeadsElsewhere name key entry.1) :
    (withEntry name fields entry).get? key = fields.get? key := by
  obtain hsame | ⟨path, fills, value, hpath, hplant⟩ := withEntry_cases name fields entry
  · rw [hsame]
  · rw [hplant, get?_plant_of_apart (h path hpath)]

/-- An entry names nothing twice. -/
theorem distinct_withEntry (h : fields.Distinct) : (withEntry name fields entry).Distinct := by
  obtain hsame | ⟨path, fills, value, -, hplant⟩ := withEntry_cases name fields entry
  · rwa [hsame]
  · rw [hplant]
    exact distinct_plant h

/-- A key keeps its text while entries come that have another name than its own. -/
theorem get?_withEntry_of_text (hown : own.toList = name.toList ++ gap ++ key.toList)
    (h : fields.get? key = some (.text v)) (hentry : entry.1 ≠ own) :
    (withEntry name fields entry).get? key = some (.text v) := by
  obtain hsame | ⟨path, fills, value, hpath, hplant⟩ := withEntry_cases name fields entry
  · rwa [hsame]
  · rw [hplant]
    by_cases hhead : path.head? = some key
    · obtain ⟨more, rfl⟩ := List.head?_eq_some_iff.mp hhead
      obtain ⟨hsame, -⟩ | ⟨-, hmore⟩ := toList_of_pathBelow hpath
      · exact absurd (String.toList_inj.mp (hsame.trans hown.symm)) hentry
      · rwa [plant_below_text h hmore]
    · rwa [get?_plant_of_apart hhead]

/-- A key that no entry leads to keeps its value. -/
theorem get?_foldl_withEntry_of_apart (h : ∀ entry ∈ source, LeadsElsewhere name key entry.1) :
    (source.foldl (withEntry name) fields).get? key = fields.get? key := by
  induction source generalizing fields with
  | nil => rfl
  | cons entry rest ih =>
    obtain ⟨hentry, hrest⟩ := List.forall_mem_cons.mp h
    rw [List.foldl_cons, ih hrest, get?_withEntry_of_apart hentry]

/-- A key keeps its text if no entry has its name. -/
theorem get?_foldl_withEntry_keeps (hown : own.toList = name.toList ++ gap ++ key.toList)
    (h : fields.get? key = some (.text v)) (hsource : ∀ entry ∈ source, entry.1 ≠ own) :
    (source.foldl (withEntry name) fields).get? key = some (.text v) := by
  induction source generalizing fields with
  | nil => exact h
  | cons entry rest ih =>
    obtain ⟨hentry, hrest⟩ := List.forall_mem_cons.mp hsource
    exact ih (get?_withEntry_of_text hown h hentry) hrest

/-- The entry with the name of a key decides what stands under the key. -/
theorem get?_foldl_withEntry_of_text (hown : own.toList = name.toList ++ gap ++ key.toList)
    (hkey : Text.piecesBetween gap none key.toList = [key.toList]) (hdistinct : source.Distinct)
    (h : Table.get? source own = some (.text v)) :
    (source.foldl (withEntry name) fields).get? key = some (.text v) := by
  induction source generalizing fields with
  | nil => cases h
  | cons entry rest ih =>
    obtain ⟨given, said⟩ := entry
    obtain ⟨hnew, hrest⟩ := List.nodup_cons.mp hdistinct
    rw [Table.get?] at h
    rw [List.foldl_cons]
    split at h
    · next hgiven =>
      subst hgiven
      cases h
      have hset : withEntry name fields (given, .text v) = fields.put key (.text v) := by
        rw [withEntry, pathBelow_of_toList hkey hown]
        exact plant_singleton fields (.text v) key
      -- The name does not come again, and nothing else replaces the text.
      refine get?_foldl_withEntry_keeps hown ?_ fun other hother hsame => hnew ?_
      · rw [hset, Table.get?_put, if_pos rfl]
      · exact List.mem_map.mpr ⟨other, hother, hsame⟩
    · exact ih hrest h

/-! ### The values of a section -/

/-- The nested values of a name have each name once. -/
theorem distinct_nestedValues (source : Source) (name : String) :
    (nestedValues {} source name).Distinct := by
  rw [nestedValues_eq]
  exact List.foldlRecOn source (withEntry name) List.nodup_nil fun _ h _ _ => distinct_withEntry h

/-- A name in a section is part of a path that an entry leads to. -/
theorem exists_of_mem_nestedValues {field : String × Data}
    (h : field ∈ nestedValues {} source name) :
    ∃ entry ∈ source, ∃ path, pathBelow name entry.1 = some path ∧ field.1 ∈ path := by
  rw [nestedValues_eq] at h
  revert h
  refine List.foldlRecOn (motive := fun fields : Fields => field ∈ fields → _) source
    (withEntry name) (fun h => absurd h List.not_mem_nil) fun fields ih entry hentry h => ?_
  obtain hsame | ⟨path, fills, value, hpath, hplant⟩ := withEntry_cases name fields entry
  · exact ih (hsame ▸ h)
  · rw [hplant] at h
    obtain hfield | h := mem_plant h
    · exact ⟨entry, hentry, path, hpath, hfield⟩
    · exact ih h

/-- What a source says under the name of a key stands under the key. -/
theorem get?_nestedValues_of_text (hown : own.toList = name.toList ++ gap ++ key.toList)
    (hkey : Text.piecesBetween gap none key.toList = [key.toList]) (hdistinct : source.Distinct)
    (h : Table.get? source own = some (.text v)) :
    (nestedValues {} source name).get? key = some (.text v) := by
  rw [nestedValues_eq]
  exact get?_foldl_withEntry_of_text hown hkey hdistinct h

/-- Nothing stands under a key that no entry leads to. -/
theorem get?_nestedValues_of_apart (h : ∀ entry ∈ source, LeadsElsewhere name key entry.1) :
    (nestedValues {} source name).get? key = none := by
  rw [nestedValues_eq, get?_foldl_withEntry_of_apart h, Table.get?_nil]

/-! ### Names in any case -/

/-- The known name that is meant by a name, or the name itself if it means none. -/
def ownName (names : List String) (name : String) : String :=
  (names.find? (· = small name)).getD name

/-- One more field is put under its own name. -/
theorem ownNames_concat (names : List String) (fields : Fields) (field : String × Data) :
    ownNames names (fields ++ [field]) =
      (ownNames names fields).put (ownName names field.1) field.2 := by
  obtain ⟨name, value⟩ := field
  unfold ownNames ownName
  rw [List.foldl_concat]
  dsimp only
  cases names.find? (· = small name) <;> rfl

/-- A known name is meant by what has its small letters. -/
theorem ownName_eq_iff {names : List String} (hkey : key ∈ names) (hsmall : small key = key) :
    ownName names name = key ↔ small name = key := by
  unfold ownName
  cases hfound : names.find? (· = small name) with
  | some found =>
    have hname : found = small name := by simpa using List.find?_some hfound
    rw [Option.getD_some, hname]
  | none =>
    have hunknown : small name ≠ key := fun hsame => by
      simpa [hsame] using List.find?_eq_none.mp hfound key hkey
    rw [Option.getD_none]
    exact iff_of_false (fun hname => hunknown (hname ▸ hsmall)) hunknown

/-- Under a known name stands what stood there, if no other name means it. -/
theorem get?_ownNames {names : List String} (hkey : key ∈ names) (hsmall : small key = key)
    (hdistinct : fields.Distinct) (honly : ∀ field ∈ fields, small field.1 = key → field.1 = key) :
    (ownNames names fields).get? key = fields.get? key := by
  induction fields using List.reverseRecOn with
  | nil => rfl
  | append_singleton fields field ih =>
    rw [Table.Distinct, List.map_append, List.map_singleton, List.nodup_append] at hdistinct
    obtain ⟨hfields, -, hnew⟩ := hdistinct
    obtain ⟨hothers, hlast⟩ := List.forall_mem_append.mp honly
    -- The last field is put under `key` just if it has this name, since no other spelling of it
    -- occurs.
    have hmeant : key = ownName names field.1 ↔ key = field.1 := by
      rw [eq_comm, ownName_eq_iff hkey hsmall, eq_comm (a := key)]
      exact ⟨hlast field (List.mem_singleton_self _), fun hname => hname ▸ hsmall⟩
    rw [ownNames_concat, Table.get?_put, ih hfields hothers, Table.get?_append, Table.get?_cons,
      Table.get?_nil]
    by_cases hname : key = field.1
    · -- The name is not among the earlier ones.
      have hnone : Table.get? fields key = none := Table.get?_eq_none_iff.mpr fun hmem =>
        hnew key hmem field.1 (List.mem_singleton_self _) hname
      rw [if_pos (hmeant.mpr hname), if_pos hname, hnone, Option.none_or]
    · rw [if_neg (mt hmeant.mp hname), if_neg hname, Option.or_none]

end ConsoleKeeper.Settings
