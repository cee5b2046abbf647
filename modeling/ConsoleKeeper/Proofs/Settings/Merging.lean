import ConsoleKeeper.Proofs.Settings.Values
import ConsoleKeeper.Settings.Layers

/-!
# `ConsoleKeeper.Proofs.Settings.Merging`: a layer over a layer

A layer is put over another name by name. Where both have a mapping, the names in them are merged as
well; everything else hides what is below it. `overlaid` says this for what stands in one place,
under a name (`at?_mergeInto_singleton`) or in a section (`at?_mergeInto_pair`).

A setting is no mapping. So whoever reads a setting reads what the upper layer gives if it gives
something, and what the lower one gives if it does not (`overlaid_cases`).
-/

set_option autoImplicit false

namespace ConsoleKeeper.Settings

variable {lower upper : Fields} {key name : String}

/-- What stands in a place after what is above was put over what is below. -/
def overlaid (below above : Option Data) : Option Data :=
  match below, above with
  | below, none => below
  | none, some above => some above
  | some below, some above => some (mergeData below above)

/-- Where nothing lies above, what is below counts. -/
@[simp] theorem overlaid_none (below : Option Data) : overlaid below none = below := by
  cases below <;> rfl

/-- Where nothing lies below, what is above counts. -/
@[simp] theorem none_overlaid (above : Option Data) : overlaid none above = above := by
  cases above <;> rfl

/-- Where there is something in both layers, the two are merged. -/
@[simp] theorem some_overlaid_some (below above : Data) :
    overlaid (some below) (some above) = some (mergeData below above) := rfl

/-- Mappings are merged name by name. -/
@[simp] theorem mergeData_object (u o : Fields) :
    mergeData (.object u) (.object o) = .object (mergeInto u o) := by
  rw [mergeData]

/-- Nothing but a mapping is merged with what is below it. -/
theorem mergeData_eq (below above : Data) :
    mergeData below above = above ∨
      ∃ u o, below = .object u ∧ above = .object o ∧
        mergeData below above = .object (mergeInto u o) := by
  cases below with
  | object u =>
    cases above with
    | object o => exact .inr ⟨u, o, rfl, rfl, mergeData_object u o⟩
    | _ => exact .inl (by simp [mergeData])
  | _ => exact .inl (by simp [mergeData])

/-- In one place stands what the upper layer gives or else the lower, unless the upper gives a
mapping there. -/
theorem overlaid_cases (below above : Option Data) :
    overlaid below above = above.or below ∨
      (∃ o, above = some (.object o)) ∧ ∃ fields, overlaid below above = some (.object fields) := by
  cases above with
  | none => exact .inl (by simp)
  | some a =>
    cases below with
    | none => exact .inl rfl
    | some b =>
      obtain hsame | ⟨u, o, rfl, rfl, hmerged⟩ := mergeData_eq b a
      · exact .inl (congrArg some hsame)
      · exact .inr ⟨⟨o, rfl⟩, mergeInto u o, congrArg some hmerged⟩

/-- A text hides what is below it. -/
theorem overlaid_text (below : Option Data) (text : Option String) :
    overlaid below (text.map .text) = (text.map .text).or below := by
  obtain hsame | ⟨⟨o, ho⟩, -⟩ := overlaid_cases below (text.map .text)
  · exact hsame
  · obtain ⟨s, -, hs⟩ := Option.map_eq_some_iff.mp ho
    cases hs

/-- What stands under a name after a layer was put over another. -/
theorem get?_mergeInto (h : upper.Distinct) (lower : Fields) (key : String) :
    Table.get? (mergeInto lower upper) key = overlaid (lower.get? key) (upper.get? key) := by
  induction upper generalizing lower with
  | nil =>
    rw [mergeInto]
    exact (overlaid_none _).symm
  | cons entry rest ih =>
    obtain ⟨k, value⟩ := entry
    obtain ⟨hnew, hrest⟩ := List.nodup_cons.mp h
    rw [mergeInto, ih hrest, Table.get?_put, Table.get?_cons]
    by_cases hk : key = k
    · -- The name does not come again.
      subst hk
      rw [if_pos rfl, if_pos rfl, Table.get?_eq_none_iff.mpr hnew, overlaid_none]
      cases lower.get? key <;> rfl
    · rw [if_neg hk, if_neg hk]

/-- The names after a layer was put over another are those of both. -/
theorem mem_map_fst_mergeInto {k : String} :
    k ∈ (mergeInto lower upper).map (·.1) ↔ k ∈ lower.map (·.1) ∨ k ∈ upper.map (·.1) := by
  induction upper generalizing lower with
  | nil => rw [mergeInto]; simp
  | cons entry rest ih =>
    obtain ⟨key, value⟩ := entry
    rw [mergeInto, ih, Table.mem_map_fst_put, List.map_cons, List.mem_cons]
    tauto

/-- What holds of all names after a layer was put over another holds of the names of both. -/
theorem forall_mem_mergeInto {p : String → Prop} :
    (∀ field ∈ mergeInto lower upper, p field.1) ↔
      (∀ field ∈ lower, p field.1) ∧ ∀ field ∈ upper, p field.1 := by
  simp only [← List.forall_mem_map (f := fun field : String × Data => field.1),
    mem_map_fst_mergeInto, or_imp, forall_and]

/-- A layer over one without names that occur twice has none either. -/
theorem distinct_mergeInto (h : lower.Distinct) (upper : Fields) :
    Table.Distinct (mergeInto lower upper) := by
  induction upper generalizing lower with
  | nil => rwa [mergeInto]
  | cons entry rest ih =>
    obtain ⟨key, value⟩ := entry
    rw [mergeInto]
    exact ih (h.put key _)

/-- A layer over nothing is that layer. -/
theorem mergeInto_nil (h : upper.Distinct) : mergeInto [] upper = upper := by
  suffices hall : ∀ lower : Fields, (lower ++ upper).Distinct →
      mergeInto lower upper = lower ++ upper from hall [] h
  intro lower hlower
  induction upper generalizing lower with
  | nil => rw [mergeInto, List.append_nil]
  | cons entry rest ih =>
    obtain ⟨key, value⟩ := entry
    -- Each name is new, so it goes to the end, where it stood in the upper layer.
    have hnew : key ∉ lower.map (·.1) := by
      rw [Table.Distinct, List.map_append, List.nodup_append] at hlower
      exact fun hmem => hlower.2.2 key hmem key List.mem_cons_self rfl
    rw [mergeInto, Table.get?_eq_none_iff.mpr hnew, Table.put_eq_append hnew]
    have happend : lower ++ [(key, value)] ++ rest = lower ++ (key, value) :: rest := by simp
    rw [ih (List.nodup_cons.mp h).2 _ (happend ▸ hlower), happend]

/-- A section is open after a layer was put over another if the upper layer gives it as a mapping,
or does not give it and it is open in the lower one. -/
theorem openAt_mergeInto_iff (h : upper.Distinct) (lower : Fields) (name : String) :
    Fields.OpenAt (mergeInto lower upper) name ↔
      ∀ value, (upper.get? name).or (lower.get? name) = some value →
        ∃ inner, value = .object inner := by
  rw [Fields.OpenAt, get?_mergeInto h]
  obtain hsame | ⟨⟨o, ho⟩, fields, hmerged⟩ := overlaid_cases (lower.get? name) (upper.get? name)
  · rw [hsame]
  · rw [hmerged, ho]
    simp

/-- What stands under a name after a layer was put over another. -/
theorem at?_mergeInto_singleton (h : upper.Distinct) (lower : Fields) (key : String) :
    (Data.object (mergeInto lower upper)).at? [key] =
      overlaid ((Data.object lower).at? [key]) ((Data.object upper).at? [key]) := by
  simp only [Data.at?_singleton, get?_mergeInto h]

/-- What stands in a section that is a mapping after a layer was put over another. -/
theorem at?_mergeInto_pair (h : upper.Distinct)
    (hinner : ∀ inner, upper.get? name = some (.object inner) → Table.Distinct inner)
    (hopen : Fields.OpenAt (mergeInto lower upper) name) (key : String) :
    (Data.object (mergeInto lower upper)).at? [name, key] =
      overlaid ((Data.object lower).at? [name, key]) ((Data.object upper).at? [name, key]) := by
  rw [openAt_mergeInto_iff h] at hopen
  simp only [Data.at?_cons, get?_mergeInto h]
  cases hupper : upper.get? name with
  | none => simp
  | some above =>
    obtain ⟨inner, rfl⟩ := hopen above (by rw [hupper, Option.some_or])
    cases lower.get? name with
    | none => simp
    | some below =>
      -- Below something that is no mapping there is nothing to find.
      cases below with
      | object u => simp [get?_mergeInto (hinner inner hupper)]
      | _ => simp [mergeData, Data.at?]

/-! ### Reading what was merged -/

variable {setting : Setting Settings} {below above : Option Data}

/-- A setting is taken from what was merged as it is from what counts. -/
theorem takes_overlaid_iff (hmem : setting ∈ all) {s : Settings} :
    setting.Takes {} (overlaid below above) s ↔ setting.Takes {} (above.or below) s := by
  obtain hsame | ⟨⟨o, rfl⟩, fields, hmerged⟩ := overlaid_cases below above
  · rw [hsame]
  · -- Neither mapping is a setting.
    rw [hmerged, Option.some_or]
    exact iff_of_false (not_read_object setting hmem _ _) (not_read_object setting hmem _ _)

/-- A setting can be read from what was merged if it can be from what counts. -/
theorem legible_overlaid_iff (hmem : setting ∈ all) :
    setting.Legible (overlaid below above) ↔ setting.Legible (above.or below) := by
  obtain hsame | ⟨⟨o, rfl⟩, fields, hmerged⟩ := overlaid_cases below above
  · rw [hsame]
  · rw [hmerged, Option.some_or]
    have hnever : ∀ inner, ¬setting.Legible (some (.object inner)) := fun inner h => by
      obtain ⟨a, ha⟩ := h _ rfl
      exact not_read_object setting hmem inner a ha
    exact iff_of_false (hnever fields) (hnever o)

end ConsoleKeeper.Settings
