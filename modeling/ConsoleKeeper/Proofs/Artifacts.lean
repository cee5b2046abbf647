import ConsoleKeeper.Artifacts
import ConsoleKeeper.Proofs.Act
import ConsoleKeeper.Proofs.Files.Path

/-!
# `ConsoleKeeper.Proofs.Artifacts`: how files of a run come and go

A file of a run is made in three steps that can fail: bytes for its name are drawn, its path is
looked at, and the file is written. `Opening` says what is left in each case. Unless the file is
written, no file is touched, and exactly one draw is made from the source of random bytes.

A credentials file is meant for its owner alone. `credentials_private_iff` says when it is: a file
that stood in its place before is emptied, but it keeps its permissions.

`Removal` says what taking a file away does. It cannot fail: where the system refuses, that is
reported and nothing is touched. So `thenRemove_run` keeps the outcome of what ran before.
-/

set_option autoImplicit false

namespace ConsoleKeeper.Artifacts

variable {κ ρ α : Type} {settings : ArtifactSettings} {w w' : World κ ρ} {path : String}

/-- The system takes the path for a path. -/
def NulFree (path : String) : Prop :=
  path.contains '\x00' = false

/-- A text is free of NULs if none is among its characters. -/
theorem nulFree_iff : NulFree path ↔ '\x00' ∉ path.toList := by
  rw [NulFree, String.contains_char_eq, decide_eq_false_iff_not]

instance (path : String) : Decidable (NulFree path) :=
  decidable_of_iff ('\x00' ∉ path.toList) nulFree_iff.symm

/-- No NUL comes into being where two texts meet. -/
theorem NulFree.append {text more : String} (h : NulFree text) (h' : NulFree more) :
    NulFree (text ++ more) := by
  rw [nulFree_iff, String.toList_append, List.mem_append, not_or]
  exact ⟨nulFree_iff.mp h, nulFree_iff.mp h'⟩

/-- A path without NULs passes the check. -/
theorem refuseNul_ok (h : NulFree path) (w : World κ ρ) :
    (refuseNul path).runOn w = (.ok (), w) := by
  rw [refuseNul, h]
  rfl

/-- A path with a NUL does not, and nothing is changed. -/
theorem refuseNul_error (h : ¬NulFree path) (w : World κ ρ) :
    (refuseNul path).runOn w = (.error .badArgument, w) := by
  rw [refuseNul, (Bool.not_eq_false _).mp h]
  rfl

/-! ### Removing -/

/-- The world after a file was taken away, or after an attempt that the system refused. -/
inductive Removal (path : String) (w : World κ ρ) : World κ ρ → Prop where
  | done {files : Tree} (h : w.files.unlink path = .ok files) :
      Removal path w { w with files, journal := w.journal.push (.artifactRemoved path) }
  | absent (h : w.files.unlink path = .error .noEntry) :
      Removal path w { w with journal := w.journal.push (.artifactRemoved path) }
  | kept {reason : Errno} (h : w.files.unlink path = .error reason) (hr : reason ≠ .noEntry) :
      Removal path w
        { w with
          journal := w.journal.push
            (.artifactKept path (SystemError.about reason path).message) }

/-- Taking a file away gives an answer, whatever the system says. -/
theorem remove_run (h : NulFree path) (w : World κ ρ) :
    ∃ gone w', (remove path).runOn w = (.ok gone, w') ∧ Removal path w w' := by
  rw [remove, Act.runOn_bind_ok _ (refuseNul_ok h w), Act.runOn_bind_ok _ (Act.runOn_look w)]
  cases hu : w.files.unlink path with
  | ok files => exact ⟨true, _, rfl, .done hu⟩
  | error reason =>
    by_cases hr : reason = .noEntry
    · subst hr
      exact ⟨true, _, rfl, .absent hu⟩
    · refine ⟨false, _, ?_, .kept hu hr⟩
      cases reason <;> first | rfl | exact absurd rfl hr

namespace Removal

/-- A removal is reported and nothing else, as far as cluster and runner go. -/
theorem aside (h : Removal path w w') : World.Aside w w' := by
  cases h with
  | done => exact ⟨rfl, rfl, World.Later.report w _⟩
  | absent => exact ⟨rfl, rfl, World.Later.report w _⟩
  | kept => exact ⟨rfl, rfl, World.Later.report w _⟩

/-- A removal draws no random bytes. -/
theorem random (h : Removal path w w') : w'.random = w.random := by
  cases h <;> rfl

/-- The files after a removal are those of an unlinking, or the same where it was refused. -/
theorem unlinked (h : Removal path w w') :
    w.files.unlink path = .ok w'.files ∨
      ∃ reason, w.files.unlink path = .error reason ∧ w'.files = w.files := by
  cases h with
  | done h => exact .inl h
  | absent h => exact .inr ⟨.noEntry, h, rfl⟩
  | kept h => exact .inr ⟨_, h, rfl⟩

/-- No file is left at the path. -/
theorem hasFile (h : Removal path w w') : w'.files.hasFile path = false := by
  obtain hu | ⟨reason, hu, hf⟩ := h.unlinked
  · exact Tree.hasFile_of_unlink_ok hu
  · rw [hf]
    exact Tree.hasFile_of_unlink_error hu

/-- A removal brings no file into being. -/
theorem hasFile_of_hasFile {other : String} (h : Removal path w w')
    (hf : w'.files.hasFile other = true) : w.files.hasFile other = true := by
  obtain hu | ⟨reason, -, he⟩ := h.unlinked
  · exact Tree.hasFile_of_hasFile_unlink hu hf
  · rwa [he] at hf

/-- A removal changes nothing at other places. -/
theorem onlyAt (h : Removal path w w') : Tree.OnlyAt path w.files w'.files := by
  obtain hu | ⟨reason, -, he⟩ := h.unlinked
  · exact Tree.onlyAt_unlink hu
  · rw [he]
    exact .refl path w.files

end Removal

/-- An action with a removal behind it ends as the action does. -/
theorem thenRemove_run {use : Act κ ρ α} {outcome : Except Failure α} (hp : NulFree path)
    (h : use.runOn w = (outcome, w')) :
    ∃ w'', (thenRemove use path).runOn w = (outcome, w'') ∧ Removal path w' w'' := by
  obtain ⟨gone, w'', hr, hremoval⟩ := remove_run hp w'
  have hlast : (discard (remove path) : Act κ ρ Unit).runOn w' = (.ok (), w'') := by
    rw [Act.runOn_discard, hr]
    rfl
  exact ⟨w'', Act.runOn_ensuring_ok h hlast, hremoval⟩

/-- An action with a removal behind it gives what the action gives. -/
theorem thenRemove_gives {use : Act κ ρ α} {post : α → World κ ρ → Prop} (hp : NulFree path)
    (h : use.Gives w post) :
    (thenRemove use path).Gives w fun a w'' => ∃ w', post a w' ∧ Removal path w' w'' := by
  obtain ⟨a, w', hrun, ha⟩ := h
  obtain ⟨w'', hrun', hremoval⟩ := thenRemove_run hp hrun
  exact ⟨a, w'', hrun', w', ha, hremoval⟩

/-! ### Names -/

/-- The suffixes that a source of random bytes can give to the next file. -/
inductive Drawn (settings : ArtifactSettings) (source : RandomSource) : String → Prop where
  | bytes {bytes : List UInt8} (h : (source.draw settings.suffixBytes.toNat).1 = .ok bytes) :
      Drawn settings source (String.ofList (bytes.flatMap hexOf))
  | fallback {said : String} (h : (source.draw settings.suffixBytes.toNat).1 = .error said)
      (hf : settings.allowFallback = true) : Drawn settings source settings.fallbackSuffix

/-- No suffix is to be had. -/
def Nameless (settings : ArtifactSettings) (source : RandomSource) (said : String) : Prop :=
  (source.draw settings.suffixBytes.toNat).1 = .error said ∧ settings.allowFallback = false

/-- One draw was made, and no file was touched. -/
structure Naming (settings : ArtifactSettings) (w w' : World κ ρ) : Prop extends
    World.Aside w w' where
  files : w'.files = w.files
  random : w'.random = (w.random.draw settings.suffixBytes.toNat).2

/-- A suffix is drawn, or none is to be had. -/
theorem uniqueSuffix_run (settings : ArtifactSettings) (w : World κ ρ) :
    ∃ outcome w', (uniqueSuffix settings).runOn w = (outcome, w') ∧ Naming settings w w' ∧
      ((∃ suffix, outcome = .ok suffix ∧ Drawn settings w.random suffix) ∨
        ∃ said, outcome = .error (.operator (randomError said)) ∧
          Nameless settings w.random said) := by
  rw [uniqueSuffix, Act.runOn_bind_ok _ (Act.runOn_draw _ w)]
  -- A failed draw uses up the script as a good one does, so all branches name the same random
  -- source.
  cases hd : (w.random.draw settings.suffixBytes.toNat).1 with
  | ok bytes =>
    exact ⟨_, _, rfl, ⟨⟨rfl, rfl, .of_eq rfl⟩, rfl, rfl⟩, .inl ⟨_, rfl, .bytes hd⟩⟩
  | error said =>
    by_cases hf : settings.allowFallback = true
    · simp only [hf, if_true]
      exact ⟨_, _, rfl, ⟨⟨rfl, rfl, World.Later.report w (.randomFailed said _)⟩, rfl, rfl⟩,
        .inl ⟨_, rfl, .fallback hd hf⟩⟩
    · simp only [hf]
      exact ⟨_, _, rfl, ⟨⟨rfl, rfl, .of_eq rfl⟩, rfl, rfl⟩,
        .inr ⟨said, rfl, hd, by simpa using hf⟩⟩

/-! ### Making -/

/-- How a file can be made at a path, and what is left if it cannot. -/
structure Maker (make : String → Act κ ρ Unit) (content : List UInt8) (mode : Nat) : Prop where
  /-- A path that the system does not take ends the action. -/
  unusable : ∀ path w, ¬NulFree path → (make path).runOn w = (.error .badArgument, w)
  /-- The file is written. -/
  made : ∀ path w files, NulFree path → w.files.write path content mode = .ok files →
    (make path).runOn w = (.ok (), { w with files })
  /-- The system refuses, and no file was touched. -/
  refused : ∀ path w reason, NulFree path → w.files.write path content mode = .error reason →
    ∃ e w', (make path).runOn w = (.error (.operator e), w') ∧ e.kind = .artifact ∧
      World.Aside w w' ∧ w'.files = w.files ∧ w'.random = w.random

/-- The credentials file is made empty, for its owner only. -/
theorem makeCredentials_maker :
    Maker (makeCredentials : String → Act κ ρ Unit) [] privateMode where
  unusable path w hp := Act.runOn_bind_error _ (refuseNul_error hp w)
  made path w files hp hw := by
    rw [makeCredentials, Act.runOn_bind_ok _ (refuseNul_ok hp w)]
    exact Act.runOn_rescuing_ok (Act.runOn_changeFiles_ok hw)
  refused path w reason hp hw := by
    have hrun : (makeCredentials path).runOn w =
        (.error (.operator (makingError "Failed to create credentials file: "
          "CREDENTIALS_FILE_FAILED" path (.about reason path))), w) := by
      rw [makeCredentials, Act.runOn_bind_ok _ (refuseNul_ok hp w)]
      exact Act.runOn_rescuing_some (Act.runOn_changeFiles_error hw) rfl
    exact ⟨_, w, hrun, rfl, .refl w, rfl, rfl⟩

/-- Where an inventory cannot be written, the removal after it has nothing to take away. -/
theorem makeInventory_maker (content : String) :
    Maker (fun path => (makeInventory path content : Act κ ρ Unit))
      (Text.Utf8.encode content.toList) commonMode where
  unusable path w hp := Act.runOn_bind_error _ (refuseNul_error hp w)
  made path w files hp hw := by
    rw [makeInventory, Act.runOn_bind_ok _ (refuseNul_ok hp w)]
    exact Act.runOn_rescuing_ok (Act.runOn_changeFiles_ok hw)
  refused path w reason hp hw := by
    obtain ⟨gone, w', hr, hremoval⟩ := remove_run hp w
    obtain ⟨reason', hu⟩ := Tree.unlink_error_of_write_error hw
    -- The system that refused to write has no file to take away either.
    have hfiles : w'.files = w.files := by
      obtain hok | ⟨_, -, he⟩ := hremoval.unlinked
      · rw [hu] at hok
        cases hok
      · exact he
    have hrun : (makeInventory path content).runOn w =
        (.error (.operator (makingError "Failed to write inventory file: "
          "INVENTORY_WRITE_FAILED" path (.about reason path))), w') := by
      rw [makeInventory, Act.runOn_bind_ok _ (refuseNul_ok hp w)]
      exact (Act.runOn_rescuing_some (Act.runOn_changeFiles_error hw) rfl).trans
        (Act.runOn_bind_ok _ hr)
    exact ⟨_, w', hrun, rfl, hremoval.aside, hfiles, hremoval.random⟩

/-- How the making of a file of a run ends, and the files that it leaves. -/
inductive Opened (settings : ArtifactSettings) (named : String → String) (content : List UInt8)
    (mode : Nat) (w : World κ ρ) : Except Failure String → Tree → Prop where
  | nameless {said : String} (h : Nameless settings w.random said) :
      Opened settings named content mode w (.error (.operator (randomError said))) w.files
  | unusable {suffix : String} (hs : Drawn settings w.random suffix)
      (hp : ¬NulFree (named suffix)) :
      Opened settings named content mode w (.error .badArgument) w.files
  | refused {suffix : String} {reason : Errno} {e : OperatorError}
      (hs : Drawn settings w.random suffix) (hp : NulFree (named suffix))
      (hw : w.files.write (named suffix) content mode = .error reason) (he : e.kind = .artifact) :
      Opened settings named content mode w (.error (.operator e)) w.files
  | made {suffix : String} {files : Tree} (hs : Drawn settings w.random suffix)
      (hp : NulFree (named suffix)) (hw : w.files.write (named suffix) content mode = .ok files) :
      Opened settings named content mode w (.ok (named suffix)) files

/-- The making of a file of a run touches no other part of the world, and makes one draw. -/
structure Opening (settings : ArtifactSettings) (named : String → String) (content : List UInt8)
    (mode : Nat) (w : World κ ρ) (outcome : Except Failure String) (w' : World κ ρ) : Prop extends
    World.Aside w w' where
  random : w'.random = (w.random.draw settings.suffixBytes.toNat).2
  opened : Opened settings named content mode w outcome w'.files

/-- A path at which a file was made is one that the system takes. -/
theorem Opening.nulFree {named : String → String} {content : List UInt8} {mode : Nat}
    (h : Opening settings named content mode w (.ok path) w') : NulFree path := by
  obtain ⟨-, -, ho⟩ := h
  generalize hf : w'.files = files at ho
  cases ho with
  | made hs hp hw => exact hp

/-- The making of a file touches no file, or the one at the path that it gives. -/
theorem Opening.files {named : String → String} {content : List UInt8} {mode : Nat}
    {outcome : Except Failure String} (h : Opening settings named content mode w outcome w') :
    w'.files = w.files ∨
      ∃ path, outcome = .ok path ∧ w.files.write path content mode = .ok w'.files := by
  obtain ⟨-, -, ho⟩ := h
  generalize w'.files = files at ho
  cases ho with
  | nameless | unusable | refused => exact .inl rfl
  | made hs hp hw => exact .inr ⟨_, rfl, hw⟩

/-- A file that was made has a name that was drawn for it. -/
theorem Opening.written {named : String → String} {content : List UInt8} {mode : Nat}
    (h : Opening settings named content mode w (.ok path) w') :
    ∃ suffix, Drawn settings w.random suffix ∧ path = named suffix ∧
      w.files.write path content mode = .ok w'.files := by
  obtain ⟨-, -, ho⟩ := h
  generalize w'.files = files at ho
  cases ho with
  | made hs hp hw => exact ⟨_, hs, rfl, hw⟩

/-- The three steps in which a file of a run is made. -/
def openFile (settings : ArtifactSettings) (kind : ArtifactKind) (named : String → String)
    (make : String → Act κ ρ Unit) : Act κ ρ String := do
  let suffix ← uniqueSuffix settings
  make (named suffix)
  Act.report (.artifactMade kind (named suffix))
  pure (named suffix)

/-- Making a file by the three steps. -/
theorem openFile_opening {kind : ArtifactKind} {named : String → String}
    {make : String → Act κ ρ Unit} {content : List UInt8} {mode : Nat}
    {outcome : Except Failure String} (hmake : Maker make content mode)
    (h : (openFile settings kind named make).runOn w = (outcome, w')) :
    Opening settings named content mode w outcome w' := by
  obtain ⟨drawn, w₁, hrun, ⟨haside, hfiles, hrandom⟩, ⟨suffix, rfl, hs⟩ | ⟨said, rfl, hn⟩⟩ :=
    uniqueSuffix_run settings w
  · rw [openFile, Act.runOn_bind_ok _ hrun] at h
    -- The draw is made whatever comes after it, so each case starts in the world behind it.
    by_cases hp : NulFree (named suffix)
    · cases hw : w.files.write (named suffix) content mode with
      | ok files =>
        rw [Act.runOn_bind_ok _ (hmake.made _ w₁ files hp (hfiles ▸ hw))] at h
        cases h
        refine ⟨⟨haside.cluster, haside.runner, ?_⟩, hrandom, .made hs hp hw⟩
        exact haside.later.trans (World.Later.report { w₁ with files } (.artifactMade kind _))
      | error reason =>
        obtain ⟨e, w₂, hr, he, haside', hfiles', hrandom'⟩ :=
          hmake.refused _ w₁ reason hp (hfiles ▸ hw)
        rw [Act.runOn_bind_error _ hr] at h
        cases h
        refine ⟨haside.trans haside', hrandom'.trans hrandom, ?_⟩
        rw [hfiles', hfiles]
        exact .refused hs hp hw he
    · rw [Act.runOn_bind_error _ (hmake.unusable _ w₁ hp)] at h
      cases h
      refine ⟨haside, hrandom, ?_⟩
      rw [hfiles]
      exact .unusable hs hp
  · rw [openFile, Act.runOn_bind_error _ hrun] at h
    cases h
    refine ⟨haside, hrandom, ?_⟩
    rw [hfiles]
    exact .nameless hn

/-- The credentials file is opened like any file of a run. -/
theorem openCredentials_eq (settings : ArtifactSettings) :
    (openCredentials settings : Act κ ρ String) =
      openFile settings .credentials (credentialsNamed settings) makeCredentials := by
  simp only [openCredentials, credentialsPath, openFile, bind_assoc, pure_bind]

/-- The inventory file is opened like any file of a run. -/
theorem openInventory_eq (settings : ArtifactSettings) (content : String) :
    (openInventory settings content : Act κ ρ String) =
      openFile settings .inventory (inventoryNamed settings)
        fun path => makeInventory path content := by
  simp only [openInventory, inventoryPath, openFile, bind_assoc, pure_bind]

/-- Making a credentials file. -/
theorem openCredentials_opening {outcome : Except Failure String}
    (h : (openCredentials settings).runOn w = (outcome, w')) :
    Opening settings (credentialsNamed settings) [] privateMode w outcome w' := by
  rw [openCredentials_eq] at h
  exact openFile_opening makeCredentials_maker h

/-- Making an inventory file. -/
theorem openInventory_opening {content : String} {outcome : Except Failure String}
    (h : (openInventory settings content).runOn w = (outcome, w')) :
    Opening settings (inventoryNamed settings) (Text.Utf8.encode content.toList) commonMode w
      outcome w' := by
  rw [openInventory_eq] at h
  exact openFile_opening (makeInventory_maker content) h

/-! ### Permissions -/

/-- A credentials file has a name that was drawn for it, and it is empty. Its permissions are those
of the file that stood at its path before, if one did. So it is private exactly if there was no file
with other permissions. -/
theorem credentials_private_iff
    (h : (openCredentials settings).runOn w = (.ok path, w')) :
    (∃ suffix, Drawn settings w.random suffix ∧ path = credentialsNamed settings suffix) ∧
      (∃ mode, w'.files.find path = .ok (.file [] mode) ∧
        (mode = privateMode ↔
          ∀ content old, w.files.find path = .ok (.file content old) → old = privateMode)) ∧
      ∀ use : String → Act κ ρ α,
        (withCredentialsFile settings use).runOn w = (thenRemove (use path) path).runOn w' := by
  obtain ⟨suffix, hs, hpath, hw⟩ := (openCredentials_opening h).written
  refine ⟨⟨suffix, hs, hpath⟩, ?_, fun use => Act.runOn_bind_ok _ h⟩
  -- A file that was there keeps its mode; a new one gets the private one.
  cases hold : w.files.hasFile path with
  | true =>
    obtain ⟨place, content, old, hl, ha⟩ := Tree.hasFile_iff.mp hold
    have hfind := Tree.find_eq_ok.mpr ⟨place, hl, ha⟩
    refine ⟨old, Tree.find_of_write_over hw hfind, ?_⟩
    simp [hfind]
  | false =>
    refine ⟨privateMode, Tree.find_of_write_new hw hold, ?_⟩
    simp only [true_iff]
    intro content old hfind
    obtain ⟨place, hl, ha⟩ := Tree.find_eq_ok.mp hfind
    rw [Tree.hasFile_iff.mpr ⟨place, content, old, hl, ha⟩] at hold
    cases hold

/-- Where bytes are drawn and the system takes the path with them, a credentials file is made. -/
theorem openCredentials_run {bytes : List UInt8} {files : Tree}
    (hdraw : (w.random.draw settings.suffixBytes.toNat).1 = .ok bytes)
    (hpath : credentialsNamed settings (String.ofList (bytes.flatMap hexOf)) = path)
    (hnul : NulFree path) (hwrite : w.files.write path [] privateMode = .ok files) :
    ∃ w', (openCredentials settings).runOn w = (.ok path, w') := by
  have hsuffix : (uniqueSuffix settings).runOn w = (.ok (String.ofList (bytes.flatMap hexOf)),
      { w with random := (w.random.draw settings.suffixBytes.toNat).2 }) := by
    rw [uniqueSuffix, Act.runOn_bind_ok _ (Act.runOn_draw _ w), hdraw]
    rfl
  have hmake := makeCredentials_maker.made path
    { w with random := (w.random.draw settings.suffixBytes.toNat).2 } files hnul hwrite
  rw [openCredentials_eq, openFile, Act.runOn_bind_ok _ hsuffix, hpath, Act.runOn_bind_ok _ hmake]
  exact ⟨_, rfl⟩

/-- A world with a directory for files, and with one file in it that all may read. -/
def worldWith (name : String) : World Unit Unit where
  cluster := ()
  runner := ()
  files := ⟨[(["tmp"], .directory), (["tmp", name], .file [1] commonMode)], []⟩

/-- The path of the first credentials file in it. -/
def firstPath : String := "/tmp/config_0000000001"

/-- The first path of a run leads into the directory for its files. -/
theorem locate_worldWith (name : String) :
    (worldWith name).files.locate firstPath = .ok ["tmp", "config_0000000001"] := by
  have hstart : (worldWith name).files.start firstPath = [] := by
    unfold Tree.start
    split <;> rfl
  refine Tree.locate_eq_ok.mpr ⟨by decide, by decide, ?_⟩
  rw [hstart]
  rfl

/-- That place is taken if the file that is there already has the same name. -/
theorem at?_worldWith (name : String) :
    (worldWith name).files.at? ["tmp", "config_0000000001"] =
      if "config_0000000001" = name then some (.file [1] commonMode) else none := by
  simp [worldWith, Tree.at?, Table.get?_cons]

/-- The first credentials file is made there, whatever the name of the other file is. -/
theorem openCredentials_worldWith (name : String) :
    ∃ w', (openCredentials {}).runOn (worldWith name) = (.ok firstPath, w') := by
  have htakes : (worldWith name).files.Takes firstPath := by
    refine ⟨_, locate_worldWith name, ?_, by decide, rfl⟩
    rw [at?_worldWith]
    split <;> nofun
  obtain ⟨files, hwrite⟩ := htakes.write [] privateMode
  have hpath : credentialsNamed {} (String.ofList
      ((RandomSource.bytesOf 5 1).flatMap hexOf)) = firstPath := by
    decide
  exact openCredentials_run rfl hpath (by decide) hwrite

/-- Beside a file of another name, the first credentials file is private. -/
theorem credentials_private_otherName :
    ∃ w', (openCredentials {}).runOn (worldWith "config") = (.ok firstPath, w') ∧
      w'.files.find firstPath = .ok (.file [] privateMode) := by
  obtain ⟨w', hrun⟩ := openCredentials_worldWith "config"
  obtain ⟨-, ⟨mode, hfind, hprivate⟩, -⟩ := credentials_private_iff (α := Unit) hrun
  obtain rfl : mode = privateMode := by
    refine hprivate.mpr fun content old hold => ?_
    obtain ⟨place, hl, ha⟩ := Tree.find_eq_ok.mp hold
    obtain rfl := Except.ok.inj ((locate_worldWith _).symm.trans hl)
    rw [at?_worldWith, if_neg (by decide)] at ha
    cases ha
  exact ⟨w', hrun, hfind⟩

/-- A credentials file that takes the place of a file that all may read can be read by all. -/
theorem credentials_common_sameName :
    ∃ w', (openCredentials {}).runOn (worldWith "config_0000000001") = (.ok firstPath, w') ∧
      w'.files.find firstPath = .ok (.file [] commonMode) ∧ commonMode ≠ privateMode := by
  obtain ⟨w', hrun⟩ := openCredentials_worldWith "config_0000000001"
  obtain ⟨-, -, -, hwrite⟩ := (openCredentials_opening hrun).written
  have hold := Tree.find_eq_ok.mpr ⟨_, locate_worldWith "config_0000000001", at?_worldWith _⟩
  exact ⟨w', hrun, Tree.find_of_write_over hwrite hold, by decide⟩

/-! ### Usable settings -/

/-- The capital hexadecimal digits. -/
def hexCapitals : List Char :=
  "0123456789ABCDEF".toList

/-- A byte is written with two of them. -/
theorem hexOf_capitals (b : UInt8) : (hexOf b).length = 2 ∧ ∀ c ∈ hexOf b, c ∈ hexCapitals := by
  have hdigit : ∀ n < 16, (Text.hexDigit n).toUpper ∈ hexCapitals := by
    decide +kernel
  simp only [hexOf, Text.hexDigits, List.nil_append, List.map_cons, List.map_nil,
    List.cons_append]
  refine ⟨rfl, fun c hc => ?_⟩
  obtain rfl | rfl : c = (Text.hexDigit (b.toNat / 16 % 16)).toUpper ∨
      c = (Text.hexDigit (b.toNat % 16)).toUpper := by simpa using hc
  · exact hdigit _ (Nat.mod_lt _ (by omega))
  · exact hdigit _ (Nat.mod_lt _ (by omega))

/-- Bytes are written with capital hexadecimal digits. -/
theorem hex_capitals {bytes : List UInt8} {c : Char} (h : c ∈ bytes.flatMap hexOf) :
    c ∈ hexCapitals := by
  obtain ⟨b, -, hc⟩ := List.mem_flatMap.mp h
  exact (hexOf_capitals b).2 c hc

/-- Whatever suffix is drawn, the system takes the paths of both files. -/
def Usable (settings : ArtifactSettings) : Prop :=
  ∀ source suffix, Drawn settings source suffix →
    NulFree (credentialsNamed settings suffix) ∧ NulFree (inventoryNamed settings suffix)

/-- A suffix is taken if the fallback is. -/
theorem Drawn.nulFree {source : RandomSource} {suffix : String}
    (h : Drawn settings source suffix) (hfallback : NulFree settings.fallbackSuffix) :
    NulFree suffix := by
  cases h with
  | bytes h =>
    rw [nulFree_iff, String.toList_ofList]
    intro hc
    have hcapital := hex_capitals hc
    revert hcapital
    decide
  | fallback => exact hfallback

/-- The path of a name is taken if the directory and the name are. -/
theorem nulFree_pathOf {name : String} (hdir : NulFree settings.tempDir) (hname : NulFree name) :
    NulFree (pathOf settings name) := by
  rw [nulFree_iff] at *
  intro hc
  obtain hc | hc | hc | hc := Path.mem_of_mem_text_join hc
  · cases hc
  · cases hc
  · exact hdir hc
  · exact hname hc

/-- The path of a name means what it says. -/
theorem text_ofText_pathOf (settings : ArtifactSettings) (name : String) :
    (Path.ofText (pathOf settings name)).text = pathOf settings name := by
  have hproper := (Path.proper_ofText settings.tempDir).join (Path.proper_ofText name)
  rw [pathOf, hproper.ofText_text]

/-- Settings are usable if the system takes each of their texts. -/
theorem usable_of_nulFree (hdir : NulFree settings.tempDir)
    (hcredentials : NulFree settings.credentialsPrefix)
    (hinventory : NulFree settings.inventoryPrefix)
    (hextension : NulFree settings.inventoryExtension)
    (hfallback : NulFree settings.fallbackSuffix) : Usable settings := by
  intro source suffix hs
  have hsuffix := hs.nulFree hfallback
  have hunderscore : NulFree "_" := by decide +kernel
  exact ⟨nulFree_pathOf hdir ((hcredentials.append hunderscore).append hsuffix),
    nulFree_pathOf hdir (((hinventory.append hunderscore).append hsuffix).append hextension)⟩

/-- The making of a file at paths that the system takes fails with an operator error only. -/
theorem Opening.isOperator {named : String → String} {content : List UInt8} {mode : Nat}
    {failure : Failure} (h : Opening settings named content mode w (.error failure) w')
    (hnamed : ∀ suffix, Drawn settings w.random suffix → NulFree (named suffix)) :
    ∃ e, failure = .operator e := by
  obtain ⟨-, -, ho⟩ := h
  generalize w'.files = files at ho
  cases ho with
  | nameless => exact ⟨_, rfl⟩
  | unusable hs hp => exact absurd (hnamed _ hs) hp
  | refused => exact ⟨_, rfl⟩

end ConsoleKeeper.Artifacts
