import ConsoleKeeper.Proofs.Artifacts

/-!
# `ConsoleKeeper.Proofs.Workshop`: a place for the files of runs

A `Workshop` is a file system and a source of random bytes with which run after run can make its two
files: however many suffixes are drawn, the system takes files with them. It stays one when files
are made and removed, so one that is given to the first run is there for the last.

`workshop_of_directory` says what it takes: a directory without directories in it, whose path is not
too long.
-/

set_option autoImplicit false

namespace ConsoleKeeper

/-- The source of random bytes after some draws of as many bytes. -/
def RandomSource.after (count : Nat) (source : RandomSource) : Nat → RandomSource
  | 0 => source
  | draws + 1 => after count (source.draw count).2 draws

namespace RandomSource

/-- A number is given in as many bytes as were asked for. -/
theorem length_bytesOf (count n : Nat) : (bytesOf count n).length = count := by
  induction count generalizing n with
  | zero => rfl
  | succ count ih => simp [bytesOf, ih]

/-- A source without a script gives as many bytes as were asked for. -/
theorem draw_after {source : RandomSource} (h : source.script = []) (count draws : Nat) :
    ∃ bytes, ((source.after count draws).draw count).1 = .ok bytes ∧ bytes.length = count := by
  induction draws generalizing source with
  | zero =>
    refine ⟨bytesOf count (source.drawn + 1), ?_, length_bytesOf _ _⟩
    simp [after, draw, h]
  | succ draws ih => exact ih (by simp [draw, h])

end RandomSource

namespace Artifacts

variable {κ ρ : Type} {settings : ArtifactSettings} {w w' : World κ ρ} {path : String}
  {files files' : Tree} {source : RandomSource}

/-- However many draws are made, each gives a suffix, and the system takes files at both paths with
that suffix. -/
structure Workshop (settings : ArtifactSettings) (files : Tree) (source : RandomSource) : Prop where
  named : ∀ draws said,
    ¬Nameless settings (source.after settings.suffixBytes.toNat draws) said
  credentials : ∀ draws suffix,
    Drawn settings (source.after settings.suffixBytes.toNat draws) suffix →
      NulFree (credentialsNamed settings suffix) ∧ files.Takes (credentialsNamed settings suffix)
  inventory : ∀ draws suffix,
    Drawn settings (source.after settings.suffixBytes.toNat draws) suffix →
      NulFree (inventoryNamed settings suffix) ∧ files.Takes (inventoryNamed settings suffix)

namespace Workshop

/-- Files can come and go. -/
theorem alike (h : Workshop settings files source) (halike : Tree.Alike files files') :
    Workshop settings files' source where
  named := h.named
  credentials draws suffix hs :=
    ⟨(h.credentials draws suffix hs).1, (h.credentials draws suffix hs).2.alike halike⟩
  inventory draws suffix hs :=
    ⟨(h.inventory draws suffix hs).1, (h.inventory draws suffix hs).2.alike halike⟩

/-- Bytes can be drawn. -/
theorem draw (h : Workshop settings files source) :
    Workshop settings files (source.draw settings.suffixBytes.toNat).2 where
  named draws := h.named (draws + 1)
  credentials draws := h.credentials (draws + 1)
  inventory draws := h.inventory (draws + 1)

end Workshop

/-- The making of a file ends with a file if each suffix that can be drawn is good for one. -/
theorem Opening.made {named : String → String} {content : List UInt8} {mode : Nat}
    {outcome : Except Failure String} (h : Opening settings named content mode w outcome w')
    (hnamed : ∀ said, ¬Nameless settings w.random said)
    (hroom : ∀ suffix, Drawn settings w.random suffix →
      NulFree (named suffix) ∧ w.files.Takes (named suffix)) :
    ∃ path, outcome = .ok path ∧ w.files.write path content mode = .ok w'.files := by
  obtain ⟨-, -, ho⟩ := h
  generalize w'.files = files at ho
  -- Each way to fail is one that the two hypotheses exclude.
  cases ho with
  | nameless h => exact absurd h (hnamed _)
  | unusable hs hp => exact absurd (hroom _ hs).1 hp
  | @refused suffix _ _ hs hp hw =>
    obtain ⟨files', hok⟩ := (hroom suffix hs).2.write content mode
    rw [hw] at hok
    cases hok
  | made hs hp hw => exact ⟨_, rfl, hw⟩

/-- A file was made at the path, and nothing else was done but to draw its suffix. -/
structure Made (settings : ArtifactSettings) (content : List UInt8) (mode : Nat) (w : World κ ρ)
    (path : String) (w' : World κ ρ) : Prop extends World.Aside w w' where
  random : w'.random = (w.random.draw settings.suffixBytes.toNat).2
  nulFree : NulFree path
  settled : (Path.ofText path).text = path
  written : w.files.write path content mode = .ok w'.files

namespace Workshop

/-- A credentials file can be made. -/
theorem openCredentials_gives (h : Workshop settings w.files w.random) :
    (openCredentials settings).Gives w (Made settings [] privateMode w) := by
  obtain ⟨outcome, w', hrun⟩ : ∃ outcome w', (openCredentials settings).runOn w = (outcome, w') :=
    ⟨_, _, rfl⟩
  have hopening := openCredentials_opening hrun
  obtain ⟨path, rfl, hw⟩ := hopening.made (h.named 0) (h.credentials 0)
  obtain ⟨suffix, -, hnamed, -⟩ := hopening.written
  exact ⟨path, w', hrun, hopening.toAside, hopening.random, hopening.nulFree,
    hnamed ▸ text_ofText_pathOf settings _, hw⟩

/-- An inventory file can be made. -/
theorem openInventory_gives (h : Workshop settings w.files w.random) (content : String) :
    (openInventory settings content).Gives w
      (Made settings (Text.Utf8.encode content.toList) commonMode w) := by
  obtain ⟨outcome, w', hrun⟩ :
      ∃ outcome w', (openInventory settings content).runOn w = (outcome, w') := ⟨_, _, rfl⟩
  have hopening := openInventory_opening hrun
  obtain ⟨path, rfl, hw⟩ := hopening.made (h.named 0) (h.inventory 0)
  obtain ⟨suffix, -, hnamed, -⟩ := hopening.written
  exact ⟨path, w', hrun, hopening.toAside, hopening.random, hopening.nulFree,
    hnamed ▸ text_ofText_pathOf settings _, hw⟩

/-- The making of a file leaves room for others. -/
theorem made {content : List UInt8} {mode : Nat} (h : Workshop settings w.files w.random)
    (hmade : Made settings content mode w path w') : Workshop settings w'.files w'.random := by
  rw [hmade.random]
  exact h.draw.alike (Tree.alike_write hmade.written)

/-- So does a removal. -/
theorem removal (h : Workshop settings w.files w.random) (hremoval : Removal path w w') :
    Workshop settings w'.files w'.random := by
  rw [hremoval.random]
  exact h.alike hremoval.onlyAt.toAlike

end Workshop

/-! ### A directory as a workshop -/

/-- The bytes of two texts are those of the first and those of the second. -/
theorem bytesIn_append (text more : String) :
    Tree.bytesIn (text ++ more) = Tree.bytesIn text + Tree.bytesIn more := by
  simp [Tree.bytesIn, Text.Utf8.encode, String.toList_append]

/-- Bytes in hexadecimal take two bytes each. -/
theorem bytesIn_hex (bytes : List UInt8) :
    Tree.bytesIn (String.ofList (bytes.flatMap hexOf)) = 2 * bytes.length := by
  have hall : (hexCapitals.all fun c => (Text.Utf8.encodeChar c).length = 1) = true := by
    decide +kernel
  have hone : ∀ c ∈ hexCapitals, (Text.Utf8.encodeChar c).length = 1 := by
    simpa using hall
  rw [Tree.bytesIn, String.toList_ofList]
  -- A byte is written as two capitals, and each of them takes one byte.
  induction bytes with
  | nil => rfl
  | cons b rest ih =>
    obtain ⟨hlength, hcapital⟩ := hexOf_capitals b
    have hbyte : (Text.Utf8.encode (hexOf b)).length = 2 := by
      rw [Text.Utf8.encode, List.length_flatMap,
        List.map_congr_left fun c hc => hone c (hcapital c hc), List.map_const',
        List.sum_replicate_nat, hlength]
    rw [List.flatMap_cons, Text.Utf8.encode, List.flatMap_append, List.length_append]
    rw [Text.Utf8.encode] at hbyte ih
    rw [hbyte, ih, List.length_cons]
    omega

/-- Hexadecimal bytes between other parts of a name. -/
theorem isName_hex {before after : String} {bytes : List UInt8} (hbefore : '/' ∉ before.toList)
    (hafter : '/' ∉ after.toList) (hlong : 3 ≤ before.length)
    (hshort : Tree.bytesIn before + 2 * bytes.length + Tree.bytesIn after ≤ Tree.nameLimit) :
    Path.IsName (before ++ String.ofList (bytes.flatMap hexOf) ++ after) := by
  -- The part before the digits is longer than any name that is special.
  have hne : ∀ text : String, text.length < 3 →
      before ++ String.ofList (bytes.flatMap hexOf) ++ after ≠ text := by
    rintro text hlength rfl
    simp only [String.length_append] at hlength
    omega
  refine ⟨?_, hne "" (by decide), hne "." (by decide), hne ".." (by decide), ?_⟩
  · have hcapital : '/' ∉ hexCapitals := by
      decide +kernel
    simp only [String.toList_append, String.toList_ofList, List.mem_append, hbefore, hafter,
      false_or, or_false]
    exact fun hc => hcapital (hex_capitals hc)
  · rwa [bytesIn_append, bytesIn_append, bytesIn_hex]

/-- The suffixes that are drawn where random bytes are to be had. -/
theorem Drawn.hex {draws : Nat} {suffix : String}
    (h : Drawn settings (source.after settings.suffixBytes.toNat draws) suffix)
    (hscript : source.script = []) :
    ∃ bytes : List UInt8, bytes.length = settings.suffixBytes.toNat ∧
      suffix = String.ofList (bytes.flatMap hexOf) := by
  -- Without a script a draw gives bytes, so the fallback is never used.
  obtain ⟨bytes, hdraw, hlength⟩ :=
    RandomSource.draw_after hscript settings.suffixBytes.toNat draws
  cases h with
  | bytes h =>
    cases h.symm.trans hdraw
    exact ⟨bytes, hlength, rfl⟩
  | fallback h => cases h.symm.trans hdraw

section Directory

variable {dir : String} {place : Place}

/-- The settings under which files are made in a directory under their usual names. -/
def inDirectory (dir : String) : ArtifactSettings :=
  { tempDir := dir }

/-- The usual names in a directory can be used. -/
theorem usable_inDirectory (h : NulFree dir) : Usable (inDirectory dir) :=
  usable_of_nulFree h (show NulFree "config" by decide) (show NulFree "inventory" by decide)
    (show NulFree ".ini" by decide) (show NulFree "abcde" by decide)

/-- A directory without directories in it is a workshop under the usual names, where random bytes
are to be had. -/
theorem workshop_of_directory (hdir : files.locate dir = .ok place)
    (hplace : files.at? place = some .directory) (hnul : NulFree dir)
    (hshort : ∀ name, Path.IsName name → Tree.bytesIn name ≤ 32 →
      Tree.bytesIn (pathOf (inDirectory dir) name) ≤ Tree.pathLimit)
    (hfree : ∀ name, files.at? (place ++ [name]) ≠ some .directory)
    (hscript : source.script = []) : Workshop (inDirectory dir) files source := by
  have htakes : ∀ before after : String, ∀ bytes : List UInt8, bytes.length = 5 →
      '/' ∉ before.toList → '/' ∉ after.toList → 3 ≤ before.length →
      Tree.bytesIn before + 10 + Tree.bytesIn after ≤ 32 →
      files.Takes (pathOf (inDirectory dir)
        (before ++ String.ofList (bytes.flatMap hexOf) ++ after)) := by
    intro before after bytes hlength hbefore hafter hlong hsize
    have hbytes : Tree.bytesIn (before ++ String.ofList (bytes.flatMap hexOf) ++ after) ≤ 32 := by
      rwa [bytesIn_append, bytesIn_append, bytesIn_hex, hlength]
    -- A name of this size is far below the limit of a name.
    have hname : Path.IsName (before ++ String.ofList (bytes.flatMap hexOf) ++ after) := by
      refine isName_hex hbefore hafter hlong ?_
      rw [hlength]
      exact Nat.le_trans hsize (by decide)
    exact Tree.takes_join hdir hplace hname (hshort _ hname hbytes) (hfree _)
  constructor
  case named =>
    intro draws said hnameless
    cases hnameless.2
  case credentials =>
    intro draws suffix hs
    obtain ⟨bytes, hlength, rfl⟩ := hs.hex hscript
    refine ⟨(usable_inDirectory hnul _ _ hs).1, ?_⟩
    have hpath := htakes "config_" "" bytes hlength (by decide +kernel) (by decide +kernel)
      (by decide +kernel) (by decide +kernel)
    rwa [String.append_empty] at hpath
  case inventory =>
    intro draws suffix hs
    obtain ⟨bytes, hlength, rfl⟩ := hs.hex hscript
    exact ⟨(usable_inDirectory hnul _ _ hs).2, htakes "inventory_" ".ini" bytes hlength
      (by decide +kernel) (by decide +kernel) (by decide +kernel) (by decide +kernel)⟩

end Directory

end Artifacts

end ConsoleKeeper
