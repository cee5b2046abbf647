import ConsoleKeeper.Assignment
import ConsoleKeeper.Proofs.Data.Table

/-!
# `ConsoleKeeper.Proofs.Assignment`: records before and after a change

A change puts a value under a name that the record has, or it leaves the record as it is
(`assign_cases`). From this `assignAll_keeps` follows by induction on the row of changes: the names
of a record never change, and neither does a field that no change names, that is derived, or that
belongs to a record which never changes.

What is derived from fields of any kind is what the record itself gives, as long as the fields are
those of the record: `display_fields`, `commandLiteral_fields`, `comparedVersion_fields`,
`groupVersion_fields`, `ownerAsWritten_fields`. In the same way `chosen_texts` leads back to the
choice that a pass makes.
-/

set_option autoImplicit false

namespace ConsoleKeeper.Assignment

variable {rules : Rules} {fields fields' changes : Fields} {name : String} {value : Data}

/-! ### Changes -/

/-- A change that succeeds puts a value under one of the names, unless the name is private. -/
theorem assign_cases (h : assign rules fields name value = .ok fields') :
    fields' = fields ∨ fields' = fields.put name value ∧ name ∈ fields.map (·.1) ∧
      rules.frozen = false ∧ name ∉ rules.derived := by
  unfold assign at h
  split at h
  · cases h
    exact .inl rfl
  · split at h
    · cases h
    · next hfrozen =>
      split at h
      · cases h
      · next hderived =>
        split at h
        · next hhas =>
          cases h
          have hmem : name ∈ fields.map (·.1) := by
            by_contra hnew
            rw [Table.has, Table.get?_eq_none_iff.mpr hnew] at hhas
            cases hhas
          exact .inr ⟨rfl, hmem, (Bool.not_eq_true _).mp hfrozen, by simpa using hderived⟩
        · cases h

/-- A field that a row of changes cannot reach. -/
def Kept (rules : Rules) (changes : Fields) (key : String) : Prop :=
  key ∉ changes.map (·.1) ∨ rules.frozen = true ∨ key ∈ rules.derived

/-- A row of changes keeps the names of a record, and the fields that it cannot reach. -/
theorem assignAll_keeps (h : assignAll rules fields changes = .ok fields') :
    fields'.map (·.1) = fields.map (·.1) ∧
      ∀ key, Kept rules changes key → fields'.get? key = fields.get? key := by
  unfold assignAll at h
  induction changes generalizing fields with
  | nil =>
    cases h
    exact ⟨rfl, fun _ _ => rfl⟩
  | cons change rest ih =>
    obtain ⟨name, value⟩ := change
    rw [List.foldlM_cons] at h
    dsimp only at h
    cases hstep : assign rules fields name value with
    | error failure =>
      rw [hstep] at h
      cases h
    | ok next =>
      rw [hstep] at h
      obtain ⟨hnames, hkept⟩ := ih h
      have hrest : ∀ key, Kept rules ((name, value) :: rest) key → Kept rules rest key :=
        fun key hkey => hkey.imp_left fun hnew hmem => hnew (List.mem_cons_of_mem _ hmem)
      obtain rfl | ⟨rfl, hmem, hfrozen, hderived⟩ := assign_cases hstep
      · exact ⟨hnames, fun key hkey => hkept key (hrest key hkey)⟩
      · rw [hnames, Table.map_fst_put, if_pos hmem]
        refine ⟨rfl, fun key hkey => ?_⟩
        -- Whatever protects a field also says that this change is about another one.
        have hother : key ≠ name := by
          rintro rfl
          obtain hnew | hfixed | hfixed := hkey
          · exact hnew List.mem_cons_self
          · rw [hfrozen] at hfixed
            cases hfixed
          · exact hderived hfixed
        rw [hkept key (hrest key hkey), Table.get?_put, if_neg hother]

/-! ### Records that nobody changed -/

/-- What is done with each of some texts. -/
theorem mapM_texts {α : Type} {f : Data → Except Failure α} (g : String → α)
    (h : ∀ s, f (.text s) = .ok (g s)) (items : List String) :
    (items.map Data.text).mapM f = .ok (items.map g) := by
  induction items with
  | nil => rfl
  | cons item items ih =>
    rw [List.map_cons, List.mapM_cons, h, ih]
    rfl

/-- The words of a command are its program and its arguments. -/
theorem words_fields (command : Command) :
    words command.fields = .ok (command.words.map Data.text) := rfl

/-- The secrets of a command that hide anything. -/
theorem secrets_fields (command : Command) :
    secrets command.fields = .ok (command.secrets.filter fun secret => !secret.isEmpty) := by
  have hitems : itemsOf (Data.field command.fields "secrets") =
      .ok (command.secrets.map Data.text) := rfl
  rw [secrets, hitems]
  show List.mapM _ ((command.secrets.map Data.text).filter fun item => !item.isFalsy) = _
  rw [List.filter_map]
  exact (mapM_texts id (fun _ => rfl) _).trans (congrArg _ (List.map_id _))

/-- Secrets that are empty mask nothing. -/
theorem masked_filter (secrets : List String) (text : List Char) :
    Command.masked (secrets.filter fun secret => !secret.isEmpty) text =
      Command.masked secrets text := by
  unfold Command.masked
  rw [List.foldl_filter]
  refine congrArg (fun f => secrets.foldl f text) ?_
  funext text secret
  cases secret.isEmpty <;> rfl

/-- The command line that is shown. -/
theorem display_fields (command : Command) :
    display command.fields = .ok (.text command.display) := by
  have hquoted : (command.words.map Data.text).mapM quoted =
      .ok (command.words.map fun word => Words.quote word.toList) :=
    mapM_texts (fun word => Words.quote word.toList) (fun _ => rfl) command.words
  rw [display, words_fields, secrets_fields]
  show List.mapM quoted _ >>= _ = _
  rw [hquoted, Command.display, Words.join, String.toList_ofList, ← masked_filter]
  rfl

/-- The command as a record in one line. -/
theorem commandLiteral_fields (command : Command) :
    commandLiteral command.fields = .text command.literal := rfl

/-- The version of a wanted console as it is compared. -/
theorem comparedVersion_fields (spec : WebUI.Spec) :
    comparedVersion spec.fields = .ok (.text (Version.normalize spec.version)) := rfl

/-- Group and version as an owner reference names them. -/
theorem groupVersion_fields (s : ClusterSettings) :
    groupVersion s.fields = .text s.apiVersion := rfl

/-- An owner as the cluster writes it. -/
theorem ownerAsWritten_fields (owner : OwnerReference) :
    ownerAsWritten owner.fields = .object owner.clusterFields := rfl

/-- From texts the action is chosen that a pass chooses. -/
theorem chosen_texts (desired : String) (actual : Option String) :
    chosen (.text desired) (.textOrNull actual) = .ok (Action.choose desired actual) := by
  cases actual <;> rfl

end ConsoleKeeper.Assignment
