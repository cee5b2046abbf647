import ConsoleKeeper.Proofs.Files.Tree
import ConsoleKeeper.Proofs.Text.Split

/-!
# `ConsoleKeeper.Proofs.Files.Path`: the path of a file in a directory

`mem_of_mem_text_join` says which characters the text of a joined path can have. What is read from a
text is a `Proper` path, and a proper path is read back from its own text (`Proper.ofText_text`).
`locate_join` says that the path of a directory, joined with a plain name, leads to the place of
that name in the directory.
-/

set_option autoImplicit false

namespace ConsoleKeeper

namespace Path

/-! ### Characters -/

/-- The root of a path is made of slashes, and there is none exactly if its text starts with
something else. -/
theorem toList_rootOf (s : List Char) :
    ∃ k, (rootOf s).toList = List.replicate k '/' ∧ (k = 0 ↔ s.head? ≠ some '/') := by
  unfold rootOf
  -- Two leading slashes are kept as two; one, or three and more, are one.
  split
  · exact ⟨1, rfl, by simp⟩
  · exact ⟨2, rfl, by simp⟩
  · exact ⟨1, rfl, by simp⟩
  · next h =>
    refine ⟨0, rfl, ?_⟩
    cases s with
    | nil => simp
    | cons c rest =>
      have hc : c ≠ '/' := fun hc => h rest (by rw [hc])
      simpa using hc

/-- The names of a path are pieces of its text that say something. -/
theorem mem_names {text name : String} (h : name ∈ (ofText text).names) :
    name.toList ∈ Text.splitOn '/' text.toList ∧ name ≠ "" := by
  obtain ⟨hname, hkept⟩ := List.mem_filter.mp h
  obtain ⟨piece, hpiece, rfl⟩ := List.mem_map.mp hname
  rw [String.toList_ofList]
  simp only [ne_eq, Bool.and_eq_true, decide_eq_true_eq] at hkept
  exact ⟨hpiece, hkept.1⟩

/-- The characters of names with slashes between them. -/
theorem mem_of_mem_intercalate {names : List String} {c : Char}
    (h : c ∈ (String.intercalate "/" names).toList) :
    c = '/' ∨ ∃ name ∈ names, c ∈ name.toList := by
  rw [String.toList_intercalate] at h
  induction names with
  | nil => simp at h
  | cons name rest ih =>
    -- The last name has no slash after it.
    cases rest with
    | nil => exact .inr ⟨name, List.mem_cons_self, by simpa using h⟩
    | cons next rest =>
      rw [List.map_cons, List.map_cons, List.intercalate_cons_cons] at h
      simp only [List.append_assoc, List.mem_append] at h
      obtain h | h | h := h
      · exact .inr ⟨name, List.mem_cons_self, h⟩
      · exact .inl (by simpa using h)
      · obtain hc | ⟨other, hother, hc⟩ := ih h
        · exact .inl hc
        · exact .inr ⟨other, List.mem_cons_of_mem name hother, hc⟩

/-- The characters of the text of a path. -/
theorem mem_of_mem_text {path : Path} {c : Char} (h : c ∈ path.text.toList) :
    c = '.' ∨ c = '/' ∨ c ∈ path.root.toList ∨ ∃ name ∈ path.names, c ∈ name.toList := by
  unfold text at h
  split at h
  · exact .inl (by simpa using h)
  · rw [String.toList_append, List.mem_append] at h
    obtain h | h := h
    · exact .inr (.inr (.inl h))
    · obtain hc | hc := mem_of_mem_intercalate h
      · exact .inr (.inl hc)
      · exact .inr (.inr (.inr hc))

/-- The characters of the text of a path that was read from a text, and of one joined from two. -/
theorem mem_of_mem_text_join {dir name : String} {c : Char}
    (h : c ∈ ((ofText dir).join (ofText name)).text.toList) :
    c = '.' ∨ c = '/' ∨ c ∈ dir.toList ∨ c ∈ name.toList := by
  have hroot : ∀ text : String, c ∈ (ofText text).root.toList → c = '/' := by
    intro text hc
    obtain ⟨k, hroot, -⟩ := toList_rootOf text.toList
    change c ∈ (rootOf text.toList).toList at hc
    rw [hroot] at hc
    exact List.eq_of_mem_replicate hc
  have hnames : ∀ text : String, (∃ n ∈ (ofText text).names, c ∈ n.toList) → c ∈ text.toList := by
    rintro text ⟨n, hn, hc⟩
    exact Text.mem_of_mem_splitOn (mem_names hn).1 hc
  -- A second path that starts at the root takes the place of the first one.
  obtain hc | hc | hc | ⟨n, hn, hc⟩ := mem_of_mem_text h
  · exact .inl hc
  · exact .inr (.inl hc)
  · unfold join at hc
    split at hc
    · exact .inr (.inl (hroot dir hc))
    · exact .inr (.inl (hroot name hc))
  · unfold join at hn
    split at hn
    · obtain hn | hn := List.mem_append.mp hn
      · exact .inr (.inr (.inl (hnames dir ⟨n, hn, hc⟩)))
      · exact .inr (.inr (.inr (hnames name ⟨n, hn, hc⟩)))
    · exact .inr (.inr (.inr (hnames name ⟨n, hn, hc⟩)))

/-! ### Paths that were read from a text -/

/-- Slashes in front give empty pieces. -/
theorem splitOn_slashes (k : Nat) (s : List Char) :
    Text.splitOn '/' (List.replicate k '/' ++ s) = List.replicate k [] ++ Text.splitOn '/' s := by
  induction k with
  | zero => rfl
  | succ k ih => simp [List.replicate_succ, Text.splitOn, ih]

/-- A path as `ofText` gives it: the root is at most two slashes, and every name says where the way
goes on. -/
structure Proper (path : Path) : Prop where
  root : path.root = "" ∨ path.root = "/" ∨ path.root = "//"
  names : ∀ name ∈ path.names, '/' ∉ name.toList ∧ name ≠ "" ∧ name ≠ "."

/-- What is read from a text is proper. -/
theorem proper_ofText (text : String) : (ofText text).Proper := by
  refine ⟨?_, fun name hname => ?_⟩
  · show rootOf text.toList = "" ∨ rootOf text.toList = "/" ∨ rootOf text.toList = "//"
    unfold rootOf
    split <;> simp
  · have hkept := (List.mem_filter.mp hname).2
    simp only [ne_eq, Bool.and_eq_true, decide_eq_true_eq] at hkept
    exact ⟨Text.sep_not_mem_of_mem_splitOn (mem_names hname).1, hkept⟩

namespace Proper

variable {path more : Path}

/-- A proper path behind a proper path is one. -/
theorem join (h : path.Proper) (hmore : more.Proper) : (path.join more).Proper := by
  unfold Path.join
  split
  · refine ⟨h.root, fun name hname => ?_⟩
    exact (List.mem_append.mp hname).elim (h.names name) (hmore.names name)
  · exact hmore

/-- The names with slashes between them do not start with a slash. -/
theorem head?_names (h : path.Proper) :
    (['/'].intercalate (path.names.map String.toList)).head? ≠ some '/' := by
  cases hnames : path.names with
  | nil => simp
  | cons first rest =>
    obtain ⟨hslash, hsaid, -⟩ := h.names first (by simp [hnames])
    cases hchars : first.toList with
    | nil => exact absurd (String.toList_eq_nil_iff.mp hchars) hsaid
    | cons c cs =>
      have hc : c ≠ '/' := by
        rintro rfl
        rw [hchars] at hslash
        exact hslash List.mem_cons_self
      -- A proper name has no slash in it, so it does not begin with one.
      cases rest <;> simp [hchars, hc, List.intercalate_cons_cons]

/-- The root is told from the names behind it. -/
theorem rootOf_text (h : path.Proper) :
    rootOf (path.root.toList ++ ['/'].intercalate (path.names.map String.toList)) = path.root := by
  have hhead := h.head?_names
  generalize ['/'].intercalate (path.names.map String.toList) = s at hhead ⊢
  cases s with
  | nil => obtain hroot | hroot | hroot := h.root <;> rw [hroot] <;> rfl
  | cons c cs =>
    have hc : c ≠ '/' := fun hc => hhead (congrArg some hc)
    obtain hroot | hroot | hroot := h.root <;> rw [hroot] <;> simp [rootOf, hc]

/-- The pieces between the slashes are the names, but for empty ones in front. -/
theorem splitOn_names (h : path.Proper) (hsome : path.names ≠ []) :
    (Text.splitOn '/' (['/'].intercalate (path.names.map String.toList))).map String.ofList =
      path.names := by
  rw [Text.splitOn_eq, List.splitOn_intercalate '/' _ (by simpa using hsome)]
  · simp [List.map_map, Function.comp_def]
  · intro l hl
    obtain ⟨name, hname, rfl⟩ := List.mem_map.mp hl
    exact (h.names name hname).1

/-- A proper path is read back from its text. -/
theorem ofText_text (h : path.Proper) : ofText path.text = path := by
  have hkept : path.names.filter (fun part => part ≠ "" && part ≠ ".") = path.names :=
    List.filter_eq_self.mpr fun name hname => by simpa using (h.names name hname).2
  obtain ⟨k, hroot⟩ : ∃ k, path.root.toList = List.replicate k '/' := by
    obtain hroot | hroot | hroot := h.root
    · exact ⟨0, by rw [hroot]; rfl⟩
    · exact ⟨1, by rw [hroot]; rfl⟩
    · exact ⟨2, by rw [hroot]; rfl⟩
  unfold text
  split
  · next hnothing =>
    -- The text of such a path is a dot, which names nothing.
    simp only [Bool.and_eq_true, decide_eq_true_eq, List.isEmpty_iff] at hnothing
    obtain ⟨root, names⟩ := path
    obtain ⟨rfl, rfl⟩ := hnothing
    decide +kernel
  · rw [ofText, String.toList_append, String.toList_intercalate]
    refine congrArg₂ Path.mk h.rootOf_text ?_
    have hslash : "/".toList = ['/'] := rfl
    rw [hroot, hslash, splitOn_slashes, List.map_append, List.filter_append, List.map_replicate]
    by_cases hsome : path.names = []
    · simp [hsome, Text.splitOn]
    · rw [h.splitOn_names hsome, hkept]
      simp

end Proper

/-! ### A name in a directory -/

/-- The name of something in a directory. -/
structure IsName (name : String) : Prop where
  unslashed : '/' ∉ name.toList
  said : name ≠ ""
  notHere : name ≠ "."
  notUp : name ≠ ".."
  short : Tree.bytesIn name ≤ Tree.nameLimit

/-- A name is a path of one name. -/
theorem ofText_name {name : String} (h : IsName name) : ofText name = ⟨"", [name]⟩ := by
  have hroot : rootOf name.toList = "" := by
    obtain ⟨k, hroot, hk⟩ := toList_rootOf name.toList
    have hhead : name.toList.head? ≠ some '/' := fun hhead =>
      h.unslashed (List.mem_of_head? hhead)
    rw [hk.mpr hhead] at hroot
    exact String.toList_eq_nil_iff.mp hroot
  have hpieces : (Text.splitOn '/' name.toList).map String.ofList = [name] := by
    rw [Text.splitOn_eq, List.splitOn_eq_singleton h.unslashed]
    simp
  simp only [ofText, hroot, hpieces]
  simp [h.said, h.notHere]

/-- The text of a path with a name behind it is slashes and then names with slashes between them.
There are slashes in front exactly if the path has a root. -/
theorem text_join (dir : String) {name : String} (h : IsName name) :
    ∃ k,
      (Text.splitOn '/' ((ofText dir).join (ofText name)).text.toList).map String.ofList =
        List.replicate k "" ++ ((ofText dir).names ++ [name]) ∧
      (((ofText dir).join (ofText name)).text.toList.head? = some '/' ↔
        dir.toList.head? = some '/') ∧
      (k = 0 ↔ dir.toList.head? ≠ some '/') := by
  obtain ⟨k, hroot, hk⟩ := toList_rootOf dir.toList
  have hjoin : (ofText dir).join (ofText name) =
      ⟨rootOf dir.toList, (ofText dir).names ++ [name]⟩ := by
    rw [ofText_name h]
    rfl
  have hproper := (proper_ofText dir).join (proper_ofText name)
  rw [hjoin] at hproper ⊢
  have hsome : (ofText dir).names ++ [name] ≠ [] := by simp
  -- The path is not empty, so its text is the root and the names with slashes between them.
  have htext : (Path.mk (rootOf dir.toList) ((ofText dir).names ++ [name])).text.toList =
      List.replicate k '/' ++
        ['/'].intercalate (((ofText dir).names ++ [name]).map String.toList) := by
    rw [text, if_neg (by simp), String.toList_append, String.toList_intercalate, hroot]
    rfl
  rw [htext]
  refine ⟨k, ?_, ?_, hk⟩
  · rw [splitOn_slashes, List.map_append, List.map_replicate, hproper.splitOn_names hsome]
  · cases k with
    | succ k =>
      have hdir : dir.toList.head? = some '/' := Classical.byContradiction fun hd => by
        have hzero := hk.mpr hd
        omega
      simp [List.replicate_succ, hdir]
    | zero => simpa [hk.mp rfl] using hproper.head?_names

end Path

namespace Tree

variable {tree : Tree} {place q : Place} {name : String}

/-- A step on a way starts in a directory. -/
theorem directory_of_walk {rest : List String} (h : tree.walk place (name :: rest) = .ok q) :
    tree.at? place = some .directory :=
  Classical.byContradiction fun hne => walk_ne_ok hne (name :: rest) (by simp) q h

/-- One step on a way. -/
theorem walk_cons (h : tree.at? place = some .directory) (rest : List String) :
    tree.walk place (name :: rest) =
      if name = "" ∨ name = "." then tree.walk place rest
      else if name = ".." then tree.walk place.dropLast rest
      else if nameLimit < bytesIn name then .error .nameTooLong
      else tree.walk (place ++ [name]) rest := by
  simp [walk, h]

/-- One way after another. -/
theorem walk_append {names : List String} (h : tree.walk place names = .ok q)
    (more : List String) : tree.walk place (names ++ more) = tree.walk q more := by
  induction names generalizing place with
  | nil =>
    cases h
    rfl
  | cons name rest ih =>
    -- A step does not look at the names after it, so both ways take the same branch.
    have hdir := directory_of_walk h
    rw [List.cons_append, walk_cons hdir]
    rw [walk_cons hdir] at h
    by_cases hstay : name = "" ∨ name = "."
    · rw [if_pos hstay] at h ⊢
      exact ih h
    · rw [if_neg hstay] at h ⊢
      by_cases hup : name = ".."
      · rw [if_pos hup] at h ⊢
        exact ih h
      · rw [if_neg hup] at h ⊢
        by_cases hlong : nameLimit < bytesIn name
        · rw [if_pos hlong] at h
          cases h
        · rw [if_neg hlong] at h ⊢
          exact ih h

/-- A way can leave out the names that stay where they are. -/
theorem walk_filter {names : List String} (h : tree.walk place names = .ok q) :
    tree.walk place (names.filter fun name => name ≠ "" && name ≠ ".") = .ok q := by
  induction names generalizing place with
  | nil => exact h
  | cons name rest ih =>
    have hdir := directory_of_walk h
    rw [walk_cons hdir] at h
    -- Names that stay are the ones that are filtered out; all others are walked as before.
    by_cases hstay : name = "" ∨ name = "."
    · rw [if_pos hstay] at h
      rw [List.filter_cons_of_neg (by obtain rfl | rfl := hstay <;> simp)]
      exact ih h
    · rw [if_neg hstay] at h
      rw [List.filter_cons_of_pos (by simpa [not_or] using hstay), walk_cons hdir, if_neg hstay]
      by_cases hup : name = ".."
      · rw [if_pos hup] at h ⊢
        exact ih h
      · rw [if_neg hup] at h ⊢
        by_cases hlong : nameLimit < bytesIn name
        · rw [if_pos hlong] at h
          cases h
        · rw [if_neg hlong] at h ⊢
          exact ih h

/-- Empty names at the root lead nowhere. -/
theorem walk_replicate (k : Nat) (names : List String) :
    tree.walk [] (List.replicate k "" ++ names) = tree.walk [] names := by
  induction k with
  | zero => rfl
  | succ k ih =>
    rw [List.replicate_succ, List.cons_append, walk_cons rfl, if_pos (.inl rfl), ih]

/-- A text that starts with a slash has it as its first character. -/
theorem startsWith_slash {s : String} : s.startsWith "/" = true ↔ s.toList.head? = some '/' := by
  rw [String.startsWith_string_iff]
  cases h : s.toList with
  | nil => simp
  | cons c cs => simp [eq_comm]

/-- Where the way of a path starts. -/
def start (tree : Tree) (path : String) : Place :=
  if path.startsWith "/" then [] else tree.workplace

/-- A path leads to a place by the way along its pieces. -/
theorem locate_eq_ok {path : String} :
    tree.locate path = .ok place ↔
      path ≠ "" ∧ bytesIn path ≤ pathLimit ∧
        tree.walk (tree.start path) ((Text.splitOn '/' path.toList).map String.ofList) =
          .ok place := by
  unfold locate start
  by_cases hempty : path = ""
  · simp [hempty]
  · by_cases hlong : pathLimit < bytesIn path
    · simp [hempty, hlong, Nat.not_le.mpr hlong]
    · simp [hempty, hlong, Nat.le_of_not_lt hlong]

/-- The path of a directory with a name behind it leads to that name in the directory. -/
theorem locate_join {dir : String} (hdir : tree.locate dir = .ok place)
    (hplace : tree.at? place = some .directory) (hname : Path.IsName name)
    (hshort : bytesIn ((Path.ofText dir).join (Path.ofText name)).text ≤ pathLimit) :
    tree.locate ((Path.ofText dir).join (Path.ofText name)).text = .ok (place ++ [name]) := by
  obtain ⟨k, hparts, hhead, hk⟩ := Path.text_join dir hname
  generalize ((Path.ofText dir).join (Path.ofText name)).text = path at *
  obtain ⟨-, -, hwalk⟩ := locate_eq_ok.mp hdir
  have hstart : tree.start path = tree.start dir := by
    unfold start
    simp only [startsWith_slash, hhead]
  -- Slashes in front are stepped over at the root; without a root there are none.
  have hslashes : ∀ names, tree.walk (tree.start dir) (List.replicate k "" ++ names) =
      tree.walk (tree.start dir) names := by
    intro names
    by_cases hrooted : dir.toList.head? = some '/'
    · rw [start, if_pos (startsWith_slash.mpr hrooted), walk_replicate]
    · rw [hk.mpr hrooted]
      rfl
  have hlast : tree.walk place [name] = .ok (place ++ [name]) := by
    rw [walk_cons hplace, if_neg (by simp [hname.said, hname.notHere]), if_neg hname.notUp,
      if_neg (Nat.not_lt.mpr hname.short)]
    rfl
  refine locate_eq_ok.mpr ⟨?_, hshort, ?_⟩
  · rintro rfl
    have hlast? := congrArg List.getLast? hparts
    simp [Text.splitOn] at hlast?
    exact hname.said hlast?
  · -- A path leaves out the names that stay where they are, so its way is a shorter one.
    have hnames : tree.walk (tree.start dir) (Path.ofText dir).names = .ok place :=
      walk_filter hwalk
    rw [hparts, hstart, hslashes, walk_append hnames, hlast]

/-- A file can be made there under a name that no directory has. -/
theorem takes_join {dir : String} (hdir : tree.locate dir = .ok place)
    (hplace : tree.at? place = some .directory) (hname : Path.IsName name)
    (hshort : bytesIn ((Path.ofText dir).join (Path.ofText name)).text ≤ pathLimit)
    (hfree : tree.at? (place ++ [name]) ≠ some .directory) :
    tree.Takes ((Path.ofText dir).join (Path.ofText name)).text := by
  refine ⟨place ++ [name], locate_join hdir hplace hname hshort, hfree, ?_, ?_⟩
  · obtain ⟨k, hparts, -, -⟩ := Path.text_join dir hname
    have hlast : (((Text.splitOn '/' ((Path.ofText dir).join (Path.ofText name)).text.toList).map
        String.ofList).getLast?) = some name := by
      rw [hparts, ← List.append_assoc, List.getLast?_concat]
    rw [namesDirectory, ← List.getLast?_map, hlast]
    simp [hname.said, hname.notHere, hname.notUp]
  · rwa [List.dropLast_concat]

end Tree

end ConsoleKeeper
