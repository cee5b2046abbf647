import ConsoleKeeper.Files.Tree
import ConsoleKeeper.Proofs.Data.Table

/-!
# `ConsoleKeeper.Proofs.Files.Tree`: what writing and unlinking do to a tree

A tree is known by what stands at each place. `at?_put` and `at?_drop` say what a change of one
place does to that, and `write_eq_ok`, `unlink_eq_ok` say which place a write or an unlinking
changes, so that nothing else needs to open them.

Where a path leads depends on the directories alone. `Alike` relates two trees with the same
directories and the same working directory, and `locate_alike` moves a path from one to the other.
Files come and go without a change of it: `alike_put`, `alike_drop`.

The main statements are about one path. `hasFile_of_unlink_ok` and `hasFile_of_unlink_error` say
that no file stands at a path after it was unlinked, whether or not the system agreed.
-/

set_option autoImplicit false

namespace ConsoleKeeper.Tree

variable {tree tree' : Tree} {path : String} {place : Place} {content : List UInt8} {mode : Nat}

/-! ### One place -/

/-- What stands at a place after another place, or the same, was given a node. -/
theorem at?_put (hplace : place ≠ []) (node : Node) (q : Place) :
    (tree.put place node).at? q = if q = place then some node else tree.at? q := by
  by_cases hq : q = []
  · subst hq
    simp [at?, Ne.symm hplace]
  · simp [at?, put, hq, Table.get?_put]

/-- What stands at a place after a place other than the root was cleared. -/
theorem at?_drop (hplace : place ≠ []) (q : Place) :
    (tree.drop place).at? q = if q = place then none else tree.at? q := by
  by_cases hq : q = []
  · subst hq
    simp [at?, Ne.symm hplace]
  · simp only [at?, drop, hq, List.isEmpty_iff, if_false]
    exact Table.get?_erase tree.nodes place q

/-- A place without a directory is not the root. -/
theorem ne_root (h : tree.at? place ≠ some .directory) : place ≠ [] := by
  rintro rfl
  exact h rfl

/-! ### Writing and unlinking -/

/-- A write succeeds exactly where a path leads to a file, or to a free place in a directory. Then
the file at that place has the content. -/
theorem write_eq_ok :
    tree.write path content mode = .ok tree' ↔
      ∃ place, tree.locate path = .ok place ∧
        ((∃ old oldMode, tree.at? place = some (.file old oldMode) ∧
            tree' = tree.put place (.file content oldMode)) ∨
          (tree.at? place = none ∧ namesDirectory path = false ∧
            tree.at? place.dropLast = some .directory ∧
            tree' = tree.put place (.file content mode))) := by
  unfold write store
  cases hl : tree.locate path with
  | error e => simp
  | ok place =>
    simp only [Except.ok.injEq, exists_eq_left']
    cases ha : tree.at? place with
    | none =>
      cases hn : namesDirectory path with
      | true => simp
      | false =>
        cases hd : tree.at? place.dropLast with
        | none => simp
        | some node => cases node <;> simp [eq_comm]
    | some node =>
      cases node with
      | directory => simp
      -- A file that is there keeps its permissions, so they are those of the old one.
      | file old oldMode =>
        constructor
        · rintro ⟨rfl⟩
          exact .inl ⟨old, oldMode, rfl, rfl⟩
        · rintro (⟨_, _, ⟨rfl, rfl⟩, rfl⟩ | ⟨hnone, -⟩)
          · rfl
          · cases hnone

/-- A write changes the file at the place where its path leads, and nothing else. -/
theorem exists_put_of_write (h : tree.write path content mode = .ok tree') :
    ∃ place mode', tree.locate path = .ok place ∧ tree.at? place ≠ some .directory ∧
      tree' = tree.put place (.file content mode') := by
  obtain ⟨place, hl, ⟨old, oldMode, ha, rfl⟩ | ⟨ha, -, -, rfl⟩⟩ := write_eq_ok.mp h
  · exact ⟨place, oldMode, hl, by simp [ha], rfl⟩
  · exact ⟨place, mode, hl, by simp [ha], rfl⟩

/-- Unlinking succeeds exactly where a path leads to a file, and clears its place. -/
theorem unlink_eq_ok :
    tree.unlink path = .ok tree' ↔
      ∃ place old oldMode, tree.locate path = .ok place ∧
        tree.at? place = some (.file old oldMode) ∧ tree' = tree.drop place := by
  unfold unlink
  cases hl : tree.locate path with
  | error e => simp
  | ok place =>
    cases ha : tree.at? place with
    | none => simp [ha]
    | some node => cases node <;> simp [ha, eq_comm]

/-- Where a file cannot be written, none can be unlinked. -/
theorem unlink_error_of_write_error {e : Errno} (h : tree.write path content mode = .error e) :
    ∃ e', tree.unlink path = .error e' := by
  cases hu : tree.unlink path with
  | error e' => exact ⟨e', rfl⟩
  | ok files =>
    -- What can be unlinked is a file, and a file can be written over.
    obtain ⟨place, old, oldMode, hl, ha, -⟩ := unlink_eq_ok.mp hu
    have hw : tree.write path content mode = .ok (tree.put place (.file content oldMode)) :=
      write_eq_ok.mpr ⟨place, hl, .inl ⟨old, oldMode, ha, rfl⟩⟩
    rw [hw] at h
    cases h

/-- A path has a file exactly if it leads to one. -/
theorem hasFile_iff :
    tree.hasFile path = true ↔
      ∃ place old oldMode, tree.locate path = .ok place ∧
        tree.at? place = some (.file old oldMode) := by
  unfold hasFile find
  cases hl : tree.locate path with
  | error e => simp
  | ok place =>
    cases ha : tree.at? place with
    | none => simp [ha]
    | some node => cases node <;> simp [ha]

/-! ### The same directories -/

/-- Two trees with the same directories and the same working directory. -/
structure Alike (tree tree' : Tree) : Prop where
  workplace : tree'.workplace = tree.workplace
  directory : ∀ q, tree'.at? q = some .directory ↔ tree.at? q = some .directory

/-- A tree has the same directories as itself. -/
theorem Alike.refl (tree : Tree) : Alike tree tree :=
  ⟨rfl, fun _ => Iff.rfl⟩

/-- A file put where no directory stands leaves the directories alone. -/
theorem alike_put (h : tree.at? place ≠ some .directory) (content : List UInt8) (mode : Nat) :
    Alike tree (tree.put place (.file content mode)) := by
  refine ⟨rfl, fun q => ?_⟩
  rw [at?_put (ne_root h)]
  split
  · next hq => simp [hq, h]
  · exact Iff.rfl

/-- Clearing a place where no directory stands leaves the directories alone. -/
theorem alike_drop (h : tree.at? place ≠ some .directory) : Alike tree (tree.drop place) := by
  refine ⟨rfl, fun q => ?_⟩
  rw [at?_drop (ne_root h)]
  split
  · next hq => simp [hq, h]
  · exact Iff.rfl

/-- Writing a file leaves the directories as they are. -/
theorem alike_write (h : tree.write path content mode = .ok tree') : Alike tree tree' := by
  obtain ⟨place, mode', -, hd, rfl⟩ := exists_put_of_write h
  exact alike_put hd content mode'

/-- No way goes on from where no directory stands. -/
theorem walk_ne_ok (h : tree.at? place ≠ some .directory) (names : List String) (hn : names ≠ [])
    (q : Place) : tree.walk place names ≠ .ok q := by
  cases names with
  | nil => exact absurd rfl hn
  | cons name rest =>
    simp only [walk]
    cases ha : tree.at? place with
    | none => simp
    | some node =>
      cases node with
      | directory => exact absurd ha h
      | file old oldMode => simp

/-- A way from a place leads to the same place in a tree with the same directories. Where it leads
nowhere, the reasons can differ, except for a name that is too long. -/
theorem walk_alike (h : Alike tree tree') (names : List String) (place q : Place) :
    tree'.walk place names = .ok q ↔ tree.walk place names = .ok q := by
  -- The place is general, since each name leads on from another one.
  induction names generalizing place with
  | nil => simp [walk]
  | cons name rest ih =>
    by_cases hdir : tree.at? place = some .directory
    · simp only [walk, hdir, (h.directory place).mpr hdir]
      split
      · exact ih place
      · split
        · exact ih place.dropLast
        · split
          · simp
          · exact ih (place ++ [name])
    · have hno := walk_ne_ok hdir (name :: rest) (by simp) q
      have hno' := walk_ne_ok (mt (h.directory place).mp hdir) (name :: rest) (by simp) q
      exact ⟨fun hw => absurd hw hno', fun hw => absurd hw hno⟩

/-- A path leads to the same place in a tree with the same directories. -/
theorem locate_alike (h : Alike tree tree') :
    tree'.locate path = .ok place ↔ tree.locate path = .ok place := by
  unfold locate
  simp only [h.workplace]
  split
  · simp
  · split
    · simp
    · exact walk_alike h _ _ _

/-! ### Nothing elsewhere -/

/-- The second tree differs from the first at most in the file at the place where a path leads. -/
structure OnlyAt (path : String) (tree tree' : Tree) : Prop extends Alike tree tree' where
  changed : ∀ q, tree'.at? q ≠ tree.at? q → tree.locate path = .ok q

/-- A tree differs from itself nowhere. -/
theorem OnlyAt.refl (path : String) (tree : Tree) : OnlyAt path tree tree :=
  ⟨.refl tree, fun _ h => absurd rfl h⟩

/-- Writing a file changes the tree where its path leads, and nowhere else. -/
theorem onlyAt_write (h : tree.write path content mode = .ok tree') : OnlyAt path tree tree' := by
  obtain ⟨place, mode', hl, hd, rfl⟩ := exists_put_of_write h
  refine ⟨alike_put hd content mode', fun q hq => ?_⟩
  rw [at?_put (ne_root hd)] at hq
  by_cases hp : q = place
  · rw [hp, hl]
  · rw [if_neg hp] at hq
    exact absurd rfl hq

/-- Unlinking a file changes the tree where its path leads, and nowhere else. -/
theorem onlyAt_unlink (h : tree.unlink path = .ok tree') : OnlyAt path tree tree' := by
  obtain ⟨place, old, oldMode, hl, ha, rfl⟩ := unlink_eq_ok.mp h
  have hd : tree.at? place ≠ some .directory := by simp [ha]
  refine ⟨alike_drop hd, fun q hq => ?_⟩
  rw [at?_drop (ne_root hd)] at hq
  by_cases hp : q = place
  · rw [hp, hl]
  · rw [if_neg hp] at hq
    exact absurd rfl hq

/-! ### After unlinking -/

/-- No file is left at a path that was unlinked. -/
theorem hasFile_of_unlink_ok (h : tree.unlink path = .ok tree') : tree'.hasFile path = false := by
  obtain ⟨place, old, oldMode, hl, ha, rfl⟩ := unlink_eq_ok.mp h
  have hd : tree.at? place ≠ some .directory := by simp [ha]
  rw [Bool.eq_false_iff, ne_eq, hasFile_iff]
  rintro ⟨q, old', oldMode', hl', ha'⟩
  rw [locate_alike (alike_drop hd), hl] at hl'
  cases hl'
  rw [at?_drop (ne_root hd), if_pos rfl] at ha'
  cases ha'

/-- No file stands at a path that the system refuses to unlink. -/
theorem hasFile_of_unlink_error {e : Errno} (h : tree.unlink path = .error e) :
    tree.hasFile path = false := by
  rw [Bool.eq_false_iff, ne_eq, hasFile_iff]
  rintro ⟨place, old, oldMode, hl, ha⟩
  rw [unlink_eq_ok.mpr ⟨place, old, oldMode, hl, ha, rfl⟩] at h
  cases h

/-- Unlinking brings no file into being. -/
theorem hasFile_of_hasFile_unlink {other : String} (h : tree.unlink path = .ok tree')
    (hf : tree'.hasFile other = true) : tree.hasFile other = true := by
  obtain ⟨q, old', oldMode', hl', ha'⟩ := hasFile_iff.mp hf
  obtain ⟨place, old, oldMode, -, ha, rfl⟩ := unlink_eq_ok.mp h
  have hd : tree.at? place ≠ some .directory := by simp [ha]
  rw [locate_alike (alike_drop hd)] at hl'
  rw [at?_drop (ne_root hd)] at ha'
  split at ha'
  · cases ha'
  · exact hasFile_iff.mpr ⟨q, old', oldMode', hl', ha'⟩

/-! ### Room for files -/

/-- A file can be written at the path: it leads to no directory, into one. -/
def Takes (tree : Tree) (path : String) : Prop :=
  ∃ place, tree.locate path = .ok place ∧ tree.at? place ≠ some .directory ∧
    namesDirectory path = false ∧ tree.at? place.dropLast = some .directory

/-- Whether a file can be written depends on the directories alone. -/
theorem Takes.alike (h : tree.Takes path) (halike : Alike tree tree') : tree'.Takes path := by
  obtain ⟨place, hl, hd, hn, hparent⟩ := h
  exact ⟨place, (locate_alike halike).mpr hl, mt (halike.directory place).mp hd, hn,
    (halike.directory _).mpr hparent⟩

/-- A file is written where there is room for one. -/
theorem Takes.write (h : tree.Takes path) (content : List UInt8) (mode : Nat) :
    ∃ tree', tree.write path content mode = .ok tree' := by
  obtain ⟨place, hl, hd, hn, hparent⟩ := h
  cases ha : tree.at? place with
  | none => exact ⟨_, write_eq_ok.mpr ⟨place, hl, .inr ⟨ha, hn, hparent, rfl⟩⟩⟩
  | some node =>
    cases node with
    | directory => exact absurd ha hd
    | file old oldMode => exact ⟨_, write_eq_ok.mpr ⟨place, hl, .inl ⟨old, oldMode, ha, rfl⟩⟩⟩

/-- A file that is found stands at the place where its path leads. -/
theorem find_eq_ok {node : Node} :
    tree.find path = .ok node ↔
      ∃ place, tree.locate path = .ok place ∧ tree.at? place = some node := by
  unfold find
  cases hl : tree.locate path with
  | error e => simp
  | ok place => cases ha : tree.at? place <;> simp [ha]

/-- What was put at the place of a path is found. -/
theorem find_put (hl : tree.locate path = .ok place) (hd : tree.at? place ≠ some .directory)
    (content : List UInt8) (mode : Nat) :
    (tree.put place (.file content mode)).find path = .ok (.file content mode) :=
  find_eq_ok.mpr ⟨place, (locate_alike (alike_put hd content mode)).mpr hl,
    by rw [at?_put (ne_root hd), if_pos rfl]⟩

/-- What was written is found. -/
theorem find_of_write (h : tree.write path content mode = .ok tree') :
    ∃ mode', tree'.find path = .ok (.file content mode') := by
  obtain ⟨place, mode', hl, hd, rfl⟩ := exists_put_of_write h
  exact ⟨mode', find_put hl hd content mode'⟩

/-- A file that is written over keeps its permissions. -/
theorem find_of_write_over {old : List UInt8} {oldMode : Nat}
    (h : tree.write path content mode = .ok tree')
    (hold : tree.find path = .ok (.file old oldMode)) :
    tree'.find path = .ok (.file content oldMode) := by
  obtain ⟨q, hq, hat⟩ := find_eq_ok.mp hold
  obtain ⟨place, hl, ⟨_, mode', ha, rfl⟩ | ⟨ha, -⟩⟩ := write_eq_ok.mp h <;>
    obtain rfl : q = place := Except.ok.inj (hq.symm.trans hl)
  · rw [hat, Option.some.injEq, Node.file.injEq] at ha
    obtain ⟨-, rfl⟩ := ha
    exact find_put hl (by simp [hat]) content oldMode
  · rw [hat] at ha
    cases ha

/-- A file that is written where there was none has the given permissions. -/
theorem find_of_write_new (h : tree.write path content mode = .ok tree')
    (hnew : tree.hasFile path = false) : tree'.find path = .ok (.file content mode) := by
  obtain ⟨place, hl, ⟨old, oldMode, ha, rfl⟩ | ⟨ha, -, -, rfl⟩⟩ := write_eq_ok.mp h
  · rw [hasFile_iff.mpr ⟨place, old, oldMode, hl, ha⟩] at hnew
    cases hnew
  · exact find_put hl (by simp [ha]) content mode

/-- Every file at the path has a content of a kind. -/
def Only (tree : Tree) (kind : List UInt8 → Prop) (path : String) : Prop :=
  ∀ content mode, tree.find path = .ok (.file content mode) → kind content

/-- A write of the kind keeps the files of the kind. -/
theorem Only.write {kind : List UInt8 → Prop} {other : String} (h : tree.Only kind other)
    (hkind : kind content) (hw : tree.write path content mode = .ok tree') :
    tree'.Only kind other := by
  obtain ⟨place, mode', hl, hd, rfl⟩ := exists_put_of_write hw
  intro content' mode'' hfind
  obtain ⟨q, hq, ha⟩ := find_eq_ok.mp hfind
  rw [locate_alike (alike_put hd content mode')] at hq
  rw [at?_put (ne_root hd)] at ha
  split at ha
  · cases ha
    exact hkind
  · exact h content' mode'' (find_eq_ok.mpr ⟨q, hq, ha⟩)

/-- Unlinking keeps the files of a kind. -/
theorem Only.unlink {kind : List UInt8 → Prop} {other : String} (h : tree.Only kind other)
    (hu : tree.unlink path = .ok tree') : tree'.Only kind other := by
  obtain ⟨place, old, oldMode, -, ha, rfl⟩ := unlink_eq_ok.mp hu
  have hd : tree.at? place ≠ some .directory := by simp [ha]
  intro content mode hfind
  obtain ⟨q, hq, ha'⟩ := find_eq_ok.mp hfind
  rw [locate_alike (alike_drop hd)] at hq
  rw [at?_drop (ne_root hd)] at ha'
  split at ha'
  · cases ha'
  · exact h content mode (find_eq_ok.mpr ⟨q, hq, ha'⟩)

end ConsoleKeeper.Tree
