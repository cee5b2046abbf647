import Mathlib.Data.List.DropRight
import ConsoleKeeper.Text.Split

/-!
# `ConsoleKeeper.Proofs.Text.Split`: cutting what was put together

`splitOn` is the cut of the library, so its lemmas apply. The others are about texts that were put
together in a way that a cut undoes: lines that end with newlines, and a name and a value around a
separator. Whatever a text is, its lines are unbroken.
-/

set_option autoImplicit false

namespace ConsoleKeeper.Text

/-- What is taken off at the end is what the library's cut takes off. -/
theorem trimRight_eq {α : Type} (p : α → Bool) (s : List α) : trimRight p s = s.rdropWhile p := rfl

/-- A piece has no elements that the joined sequence does not have. -/
theorem mem_intercalate {α : Type} {sep piece : List α} {pieces : List (List α)} {c : α}
    (h : piece ∈ pieces) (hc : c ∈ piece) : c ∈ List.intercalate sep pieces := by
  induction pieces with
  | nil => cases h
  | cons first pieces ih =>
    cases pieces with
    | nil => rwa [List.intercalate_singleton, ← List.mem_singleton.mp h]
    | cons next pieces =>
      rw [List.intercalate_cons_cons]
      obtain rfl | h := List.mem_cons.mp h
      · exact List.mem_append_left _ (List.mem_append_left _ hc)
      · exact List.mem_append_right _ (ih h)

section Sequence

variable {α : Type} [DecidableEq α]

/-- The pieces between the occurrences of an element. -/
theorem splitOn_eq (sep : α) (s : List α) : splitOn sep s = s.splitOn sep := by
  induction s with
  | nil => rfl
  | cons c rest ih =>
    rw [splitOn, List.splitOn_cons_eq_if_modifyHead, ih]
    simp only [beq_iff_eq]
    split
    · rfl
    · cases h : rest.splitOn sep with
      | nil => exact absurd h (List.splitOn_ne_nil sep rest)
      | cons piece pieces => rfl

/-- A piece has no elements that the sequence does not have. -/
theorem mem_of_mem_splitOn {sep c : α} {piece s : List α} (hpiece : piece ∈ splitOn sep s)
    (hc : c ∈ piece) : c ∈ s := by
  -- The first piece of the rest grows by the head, so the claim is for every piece at once.
  induction s generalizing piece with
  | nil =>
    rw [splitOn, List.mem_singleton] at hpiece
    rw [hpiece] at hc
    exact hc
  | cons d rest ih =>
    rw [splitOn] at hpiece
    split at hpiece
    · obtain rfl | hpiece := List.mem_cons.mp hpiece
      · cases hc
      · exact List.mem_cons_of_mem d (ih hpiece hc)
    · split at hpiece
      · rw [List.mem_singleton.mp hpiece] at hc
        rw [List.mem_singleton.mp hc]
        exact List.mem_cons_self
      · next first pieces hcut =>
        obtain rfl | hpiece := List.mem_cons.mp hpiece
        · obtain rfl | hc := List.mem_cons.mp hc
          · exact List.mem_cons_self
          · exact List.mem_cons_of_mem d (ih (by rw [hcut]; exact List.mem_cons_self) hc)
        · exact List.mem_cons_of_mem d (ih (by rw [hcut]; exact List.mem_cons_of_mem _ hpiece) hc)

/-- Nothing is taken off if and only if the last element stays. -/
theorem trimRight_eq_self_iff {c : α} {s : List α} :
    trimRight (· = c) s = s ↔ s.getLast? ≠ some c := by
  rw [trimRight_eq, List.rdropWhile_eq_self_iff]
  refine ⟨fun h hlast => ?_, fun h hfull hlast => h ?_⟩
  · have hfull : s ≠ [] := by
      rintro rfl
      cases hlast
    rw [List.getLast?_eq_some_getLast hfull, Option.some.injEq] at hlast
    exact h hfull (decide_eq_true hlast)
  · rw [List.getLast?_eq_some_getLast hfull, of_decide_eq_true hlast]

/-- A piece does not have the separator. -/
theorem sep_not_mem_of_mem_splitOn {sep : α} {piece s : List α} (h : piece ∈ splitOn sep s) :
    sep ∉ piece := by
  induction s generalizing piece with
  | nil =>
    rw [List.mem_singleton.mp h]
    exact List.not_mem_nil
  | cons d rest ih =>
    rw [splitOn] at h
    split at h
    · -- A separator begins a new piece, which is empty so far.
      obtain rfl | h := List.mem_cons.mp h
      · exact List.not_mem_nil
      · exact ih h
    · next hd =>
      split at h
      · rw [List.mem_singleton.mp h, List.mem_singleton]
        exact Ne.symm hd
      · next first pieces hcut =>
        obtain rfl | h := List.mem_cons.mp h
        · rw [List.mem_cons, not_or]
          exact ⟨Ne.symm hd, ih (by rw [hcut]; exact List.mem_cons_self)⟩
        · exact ih (by rw [hcut]; exact List.mem_cons_of_mem _ h)

/-- There is one piece more than there are separators. -/
theorem length_splitOn (sep : α) (s : List α) : (splitOn sep s).length = s.count sep + 1 := by
  induction s with
  | nil => rfl
  | cons c rest ih =>
    rw [splitOn, List.count_cons]
    by_cases hc : c = sep
    · simp [hc, ih]
    · rw [if_neg hc]
      split
      · next hcut => simp [hcut] at ih
      · next hcut =>
        rw [hcut] at ih
        simpa [hc] using ih

/-- A part without a separator joins the first piece of what follows it. -/
theorem splitOn_append_of_not_mem {sep : α} {part : List α} (h : sep ∉ part) (s : List α) :
    (part ++ s).splitOn sep = (s.splitOn sep).modifyHead (part ++ ·) := by
  induction part with
  | nil =>
    rw [List.nil_append]
    cases s.splitOn sep <;> rfl
  | cons c part ih =>
    have hc : c ≠ sep := fun hc => h (hc ▸ List.mem_cons_self)
    have hpart : sep ∉ part := fun hmem => h (List.mem_cons_of_mem c hmem)
    rw [List.cons_append, List.splitOn_cons_eq_if_modifyHead, if_neg (by simpa using hc), ih hpart]
    cases s.splitOn sep <;> rfl

/-- The pieces of parts that each end with a separator, where no part has one of its own, and of
what follows them. -/
theorem splitOn_flatMap_append {sep : α} {parts : List (List α)} (h : ∀ part ∈ parts, sep ∉ part)
    (s : List α) : (parts.flatMap (· ++ [sep]) ++ s).splitOn sep = parts ++ s.splitOn sep := by
  induction parts with
  | nil => rfl
  | cons part parts ih =>
    rw [List.flatMap_cons, List.append_assoc, List.append_assoc, List.singleton_append,
      List.splitOn_append_cons_self_of_not_mem (h part List.mem_cons_self),
      ih fun p hp => h p (List.mem_cons_of_mem part hp), List.cons_append]

/-- The pieces of parts that each end with a separator, where no part has one of its own. -/
theorem splitOn_flatMap {sep : α} {parts : List (List α)} (h : ∀ part ∈ parts, sep ∉ part) :
    splitOn sep (parts.flatMap (· ++ [sep])) = parts ++ [[]] := by
  have hpieces := splitOn_flatMap_append h []
  rwa [List.append_nil, List.splitOn_nil, ← splitOn_eq] at hpieces

/-- A sequence is put together again from its pieces: each but the last one has a separator behind
it. -/
theorem flatMap_append_of_splitOn {sep : α} {parts : List (List α)} {last s : List α}
    (h : s.splitOn sep = parts ++ [last]) : s = parts.flatMap (· ++ [sep]) ++ last := by
  have hjoined : List.intercalate [sep] (parts ++ [last]) = s := by
    rw [← h, List.intercalate_splitOn]
  rw [← hjoined]
  clear h hjoined
  induction parts with
  | nil => simp
  | cons part parts ih =>
    rw [List.flatMap_cons, List.append_assoc, ← ih]
    cases parts <;> simp [List.intercalate]

/-- Every sequence is parts that each end with a separator, and a rest. -/
theorem exists_flatMap_append (sep : α) (s : List α) :
    ∃ (parts : List (List α)) (rest : List α), s = parts.flatMap (· ++ [sep]) ++ rest ∧
      (∀ part ∈ parts, sep ∉ part) ∧ sep ∉ rest := by
  obtain ⟨parts, rest, hpieces⟩ : ∃ parts rest, s.splitOn sep = parts ++ [rest] :=
    ⟨_, _, (List.dropLast_concat_getLast (List.splitOn_ne_nil sep s)).symm⟩
  have hopen : ∀ piece ∈ parts ++ [rest], sep ∉ piece := by
    intro piece hpiece
    rw [← hpieces, ← splitOn_eq] at hpiece
    exact sep_not_mem_of_mem_splitOn hpiece
  exact ⟨parts, rest, flatMap_append_of_splitOn hpieces,
    fun part hpart => hopen part (List.mem_append_left _ hpart),
    hopen rest (List.mem_append_right _ List.mem_cons_self)⟩

/-- The number of pieces of parts that each end with a separator. -/
theorem length_splitOn_flatMap (sep : α) (parts : List (List α)) :
    (splitOn sep (parts.flatMap (· ++ [sep]))).length =
      parts.length + 1 + parts.flatten.count sep := by
  rw [length_splitOn]
  induction parts with
  | nil => rfl
  | cons part parts ih =>
    simp only [List.flatMap_cons, List.count_append, List.count_singleton_self, List.flatten_cons,
      List.length_cons] at ih ⊢
    omega

/-- The cut at the first occurrence of a separator. -/
theorem cutFirst_append {sep : α} {before : List α} (h : sep ∉ before) (after : List α) :
    cutFirst sep (before ++ sep :: after) = (before, some after) := by
  induction before with
  | nil => simp [cutFirst]
  | cons c rest ih =>
    have hc : c ≠ sep := fun hc => h (hc ▸ List.mem_cons_self)
    have hrest : sep ∉ rest := fun hmem => h (List.mem_cons_of_mem c hmem)
    simp [cutFirst, hc, ih hrest]

/-- Where there is a separator, both parts and it make up the sequence. -/
theorem cutFirst_eq_some {sep : α} {s before after : List α}
    (h : cutFirst sep s = (before, some after)) : s = before ++ sep :: after := by
  induction s generalizing before with
  | nil => cases h
  | cons c rest ih =>
    rw [cutFirst] at h
    split at h
    · next hc =>
      cases h
      rw [hc, List.nil_append]
    · obtain ⟨rfl, hafter⟩ := Prod.mk.inj h
      rw [List.cons_append, ← ih (Prod.ext rfl hafter)]

/-- There is a piece, even of an empty text. -/
theorem piecesFrom_ne_nil (pattern : List α) (cuts : Option Nat) (current : List α) (skip : Nat)
    (s : List α) : piecesFrom pattern cuts current skip s ≠ [] := by
  fun_induction piecesFrom pattern cuts current skip s with
  | case1 | case3 => exact List.cons_ne_nil _ _
  | case2 _ _ _ _ _ ih | case4 _ _ _ _ _ ih => exact ih

/-- The pieces with the pattern between them are the sequence that was cut. -/
theorem intercalate_piecesFrom {pattern : List α} (hpattern : pattern ≠ []) (cuts : Option Nat)
    (current : List α) (skip : Nat) (s : List α) :
    List.intercalate pattern (piecesFrom pattern cuts current skip s) =
      current.reverse ++ s.drop skip := by
  fun_induction piecesFrom pattern cuts current skip s with
  | case1 => simp
  | case2 current cuts c rest skip ih => rw [ih, List.drop_succ_cons]
  | case3 current cuts c rest hcut ih =>
    rw [List.intercalate_cons_of_ne_nil (piecesFrom_ne_nil _ _ _ _ _), ih]
    -- The pattern that was cut out stands between the pieces again.
    obtain ⟨tail, htail⟩ : pattern <+: c :: rest := by
      rw [Bool.and_eq_true] at hcut
      exact List.isPrefixOf_iff_prefix.mp hcut.2
    obtain ⟨p, ps, rfl⟩ := List.exists_cons_of_ne_nil hpattern
    obtain ⟨rfl, rfl⟩ := List.cons.inj htail
    simp
  | case4 current cuts c rest hcut ih =>
    rw [ih]
    simp

/-- A sequence is what stands in its pieces, with the pattern between them. -/
theorem intercalate_piecesBetween {pattern : List α} (hpattern : pattern ≠ []) (cuts : Option Nat)
    (s : List α) : List.intercalate pattern (piecesBetween pattern cuts s) = s :=
  intercalate_piecesFrom hpattern cuts [] 0 s

end Sequence

/-! ### Lines -/

/-- No character ends a line. -/
def Unbroken (s : List Char) : Prop :=
  ∀ c ∈ s, isLineBoundary c = false

instance (s : List Char) : Decidable (Unbroken s) :=
  List.decidableBAll _ s

/-- An empty text has no line boundary. -/
theorem unbroken_nil : Unbroken [] :=
  fun _ hc => absurd hc List.not_mem_nil

/-- A text without line boundaries has none backwards. -/
theorem Unbroken.reverse {s : List Char} (h : Unbroken s) : Unbroken s.reverse :=
  fun c hc => h c (List.mem_reverse.mp hc)

/-- The lines that are collected are unbroken if the open line is. -/
theorem unbroken_of_mem_linesFrom {current s line : List Char} (hcurrent : Unbroken current)
    (h : line ∈ linesFrom current s) : Unbroken line := by
  fun_induction linesFrom current s with
  | case1 => cases h
  | case2 =>
    rw [List.mem_singleton.mp h]
    exact hcurrent.reverse
  | case3 current rest ih =>
    obtain rfl | h := List.mem_cons.mp h
    · exact hcurrent.reverse
    · exact ih unbroken_nil h
  | case4 current c rest _ _ ih =>
    obtain rfl | h := List.mem_cons.mp h
    · exact hcurrent.reverse
    · exact ih unbroken_nil h
  | case5 current c rest _ hc ih =>
    -- A character that ends no line joins the open one.
    refine ih (fun d hd => ?_) h
    obtain rfl | hd := List.mem_cons.mp hd
    · simpa using hc
    · exact hcurrent d hd

/-- No line of a text has a character that ends a line. -/
theorem unbroken_of_mem_lines {s line : List Char} (h : line ∈ lines s) : Unbroken line :=
  unbroken_of_mem_linesFrom unbroken_nil h

/-- A character without a carriage return ends the open line or belongs to it. -/
theorem linesFrom_cons {c : Char} (hc : c ≠ '\r') (current rest : List Char) :
    linesFrom current (c :: rest) =
      if isLineBoundary c then current.reverse :: linesFrom [] rest
      else linesFrom (c :: current) rest := by
  rw [linesFrom.eq_def]
  split
  case h_1 h => cases h
  case h_2 h => exact absurd (List.cons.inj h).1 hc
  case h_3 h =>
    obtain ⟨rfl, rfl⟩ := List.cons.inj h
    rfl

/-- A line that a newline ends is the first of the lines. -/
theorem linesFrom_append {line : List Char} (h : Unbroken line) (current rest : List Char) :
    linesFrom current (line ++ '\n' :: rest) = (current.reverse ++ line) :: linesFrom [] rest := by
  induction line generalizing current with
  | nil =>
    rw [List.nil_append, List.append_nil, linesFrom_cons (by decide), if_pos (by decide)]
  | cons c line ih =>
    have hc : isLineBoundary c = false := h c List.mem_cons_self
    have hr : c ≠ '\r' := by
      rintro rfl
      cases hc
    have hline : Unbroken line := fun d hd => h d (List.mem_cons_of_mem c hd)
    rw [List.cons_append, linesFrom_cons hr, hc, if_neg Bool.false_ne_true, ih hline,
      List.reverse_cons, List.append_assoc, List.singleton_append]

/-- The lines of a text whose lines all end with a newline. -/
theorem lines_flatMap {ls : List (List Char)} (h : ∀ line ∈ ls, Unbroken line) :
    lines (ls.flatMap (· ++ ['\n'])) = ls := by
  unfold lines
  induction ls with
  | nil => rfl
  -- Each line ends at its own newline, so the next one starts with nothing collected.
  | cons line ls ih =>
    have hls := ih fun l hl => h l (List.mem_cons_of_mem line hl)
    rw [List.flatMap_cons, List.append_assoc, List.singleton_append,
      linesFrom_append (h line List.mem_cons_self), hls]
    rfl

/-- A text without carriage returns has its line endings unified already. -/
theorem unifyNewlines_eq_self {s : List Char} (h : '\r' ∉ s) : unifyNewlines s = s := by
  induction s with
  | nil => rfl
  | cons c rest ih =>
    have hc : c ≠ '\r' := fun hc => h (hc ▸ List.mem_cons_self)
    have hrest : '\r' ∉ rest := fun hmem => h (List.mem_cons_of_mem c hmem)
    rw [unifyNewlines.eq_def]
    split <;> simp_all

end ConsoleKeeper.Text
