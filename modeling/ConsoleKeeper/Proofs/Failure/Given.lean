import ConsoleKeeper.Failure.Given
import ConsoleKeeper.Proofs.Data.Table

/-!
# `ConsoleKeeper.Proofs.Failure.Given`: errors from arguments that fit

`toError_build?` says which error comes from a message, details, and a value for each argument of a
kind's own: the error that `OperatorError.plain` makes, with those values put into the details. So
an error that is described by its arguments is one that a pass can raise itself. For failed calls
this is `OperatorError.aboutObject` (`toError_build?_aboutObject`).

What the details said before about an argument of the kind's own does not count (`get?_details`).
-/

set_option autoImplicit false

namespace ConsoleKeeper

namespace ErrorKind

/-- No kind has an argument of its own twice, nor one with a name that all errors have. -/
theorem traits_names (kind : ErrorKind) :
    (kind.traits.map (·.1)).Nodup ∧ "message" ∉ kind.traits.map (·.1) ∧
      "details" ∉ kind.traits.map (·.1) ∧ "error_code" ∉ kind.traits.map (·.1) := by
  cases kind <;> decide

end ErrorKind

namespace GivenError

variable {kind : ErrorKind} {message : String} {arguments details traits : Fields}

/-- The arguments that all errors of a kind take, as far as they take them: a message and details. -/
def commonArguments (kind : ErrorKind) (message : String) (details : Fields) : Fields :=
  (if kind = .emptyTag then [] else [("message", .text message)]) ++
    if kind.takesDetails then [("details", .object details)] else []

/-- A value for each argument of a kind's own. -/
def Complete (kind : ErrorKind) (traits : Fields) : Prop :=
  traits.map (·.1) = kind.traits.map (·.1)

/-- Complete traits name each trait once. -/
theorem Complete.distinct (h : Complete kind traits) : traits.Distinct := by
  rw [Table.Distinct, h]
  exact kind.traits_names.1

/-- The arguments of a kind's own are taken from those that are given. -/
theorem traitsOf?_eq (h : Complete kind traits)
    (hgiven : ∀ entry ∈ traits, arguments.get? entry.1 = some entry.2) :
    traitsOf? arguments kind = some traits := by
  unfold traitsOf?
  unfold Complete at h
  -- Only the names of the two rows have to agree, so the induction is on both rows at once.
  generalize kind.traits = asked at h
  induction traits generalizing asked with
  | nil =>
    obtain rfl := List.map_eq_nil_iff.mp h.symm
    rfl
  | cons entry traits ih =>
    obtain ⟨⟨name, default⟩, asked, rfl, rfl, hrest⟩ := List.map_eq_cons_iff.mp h.symm
    rw [List.mapM_cons, ih (fun e he => hgiven e (List.mem_cons_of_mem _ he)) _ hrest.symm]
    simp only [hgiven entry List.mem_cons_self]
    rfl

/-- What stands under a name among the arguments of an error. -/
theorem get?_arguments (key : String) :
    Table.get? (commonArguments kind message details ++ traits) key =
      ((commonArguments kind message details).get? key).or (traits.get? key) :=
  Table.get?_append _ _ key

/-- The names of the arguments that all errors take are none of a kind's own. -/
theorem get?_of_not_trait (h : Complete kind traits) {key : String}
    (hkey : key ∉ kind.traits.map (·.1)) :
    Table.get? (commonArguments kind message details ++ traits) key =
      (commonArguments kind message details).get? key := by
  rw [← h] at hkey
  rw [get?_arguments, Table.get?_eq_none_iff.mpr hkey, Option.or_none]

/-- An argument of a kind's own is the one that was given. -/
theorem get?_of_mem (h : Complete kind traits) {entry : String × Data} (hmem : entry ∈ traits) :
    Table.get? (commonArguments kind message details ++ traits) entry.1 = some entry.2 := by
  have htrait : entry.1 ∈ kind.traits.map (·.1) := h ▸ List.mem_map_of_mem hmem
  obtain ⟨-, hmessage, hdetails, -⟩ := kind.traits_names
  have hcommon : (commonArguments kind message details).get? entry.1 = none := by
    refine Table.get?_eq_none_iff.mpr fun hcommon => ?_
    have hnames : entry.1 = "message" ∨ entry.1 = "details" := by
      unfold commonArguments at hcommon
      split at hcommon <;> split at hcommon <;> simp_all
    obtain hname | hname := hnames
    · exact hmessage (hname ▸ htrait)
    · exact hdetails (hname ▸ htrait)
  rw [get?_arguments, hcommon, Option.none_or, h.distinct.get?_of_mem hmem]

/-- The arguments are all such as errors of the kind take. -/
theorem all_known (h : Complete kind traits) :
    (commonArguments kind message details ++ traits).all
      (fun argument => (known kind).contains argument.1) = true := by
  rw [List.all_eq_true]
  intro argument hmem
  rw [List.contains_iff_mem, known]
  obtain hmem | hmem := List.mem_append.mp hmem
  · unfold commonArguments at hmem
    obtain hmem | hmem := List.mem_append.mp hmem <;> split at hmem <;> simp_all
  · exact List.mem_append_right _ (h ▸ List.mem_map_of_mem hmem)

/-- The message is the one that was given. -/
theorem messageIn?_eq (h : Complete kind traits)
    (hmessage : kind = .emptyTag → message = "failed to read existing image tag") :
    messageIn? (commonArguments kind message details ++ traits) kind = some (.text message) := by
  unfold messageIn?
  split
  · next hkind => rw [hmessage hkind]
  · next hkind =>
    rw [get?_of_not_trait h kind.traits_names.2.1, commonArguments, if_neg hkind]
    rfl

/-- The details of an error with a kind's own arguments put into them. -/
theorem detailsWith?_eq (h : Complete kind traits)
    (hdetails : kind.takesDetails = false → details = []) :
    detailsWith? (detailsIn (commonArguments kind message details ++ traits) kind) traits =
      some (.object (traits.foldl (fun all trait => Table.put all trait.1 trait.2) details)) := by
  unfold detailsIn
  cases htakes : kind.takesDetails with
  | true =>
    have hget : (commonArguments kind message details).get? "details" = some (.object details) := by
      unfold commonArguments
      rw [htakes]
      split <;> rfl
    rw [if_pos rfl, Data.field, get?_of_not_trait h kind.traits_names.2.2.1, hget]
    rfl
  | false =>
    -- Where no details are taken they are the kind's own arguments and nothing else.
    have hempty : Table.Distinct ([] ++ traits) := h.distinct
    rw [if_neg Bool.false_ne_true, hdetails htakes, Table.foldl_put_eq_append hempty]
    rfl

/-- An error that is made from a message, details and all arguments of its own is the plain error
with those arguments in its details. -/
theorem toError_build? (h : Complete kind traits)
    (hmessage : kind = .emptyTag → message = "failed to read existing image tag")
    (hdetails : kind.takesDetails = false → details = []) :
    (build? kind (commonArguments kind message details ++ traits)).map toError =
      some (.plain kind message
        (traits.foldl (fun all trait => Table.put all trait.1 trait.2) details)) := by
  have hcode : Table.get? (commonArguments kind message details ++ traits) "error_code" = none := by
    rw [get?_of_not_trait h kind.traits_names.2.2.2, commonArguments]
    split <;> split <;> rfl
  rw [build?, if_pos (all_known h), messageIn?_eq h hmessage, traitsOf?_eq h fun _ => get?_of_mem h]
  show Option.map toError (detailsWith? _ traits >>= _) = _
  rw [detailsWith?_eq h hdetails, hcode]
  rfl

/-- A failed call about an object is made from a message, details, and what names the object. -/
theorem toError_build?_aboutObject {objectKind ns name : String}
    (hkind : kind = .cluster ∨ kind = .notFound) :
    (build? kind (commonArguments kind message details ++
        [("kind", .text objectKind), ("namespace", .text ns), ("name", .text name)])).map toError =
      some (.aboutObject kind message objectKind ns name details) := by
  obtain rfl | rfl := hkind <;> refine toError_build? rfl ?_ ?_ <;> intro h <;> cases h

/-- What a kind's own argument is stands in the details, whatever they said before. -/
theorem get?_details (h : Complete kind traits) {trait : String × Data} (hmem : trait ∈ traits) :
    (OperatorError.plain kind message
      (traits.foldl (fun all trait => Table.put all trait.1 trait.2) details)).details.get?
        trait.1 = some trait.2 := by
  have hreverse : Table.Distinct traits.reverse := by
    rw [Table.Distinct, List.map_reverse]
    exact List.nodup_reverse.mpr h.distinct
  show Table.get? (traits.foldl _ details) trait.1 = _
  rw [Table.get?_foldl_put, hreverse.get?_of_mem (List.mem_reverse.mpr hmem), Option.some_or]

end GivenError

end ConsoleKeeper
