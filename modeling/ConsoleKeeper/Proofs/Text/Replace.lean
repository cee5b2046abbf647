import Mathlib.Data.List.Infix
import ConsoleKeeper.Text.Split

/-!
# `ConsoleKeeper.Proofs.Text.Replace`: what is left after replacing

`replaceAll` puts something fresh in place of each occurrence of a pattern. The result is pieces of
the old sequence with the fresh sequence between them. So a needle that shares no element with the
fresh sequence lies inside one piece.

* `infix_of_infix_replaceAll`: such a needle was in the old sequence already.
* `not_infix_replaceAll`: the pattern itself is in none of the pieces, because the search from the
  left takes the first occurrence that there is.

Both go along the old sequence as the search does (`replaceAll_induction`), behind a piece that was
kept so far.
-/

set_option autoImplicit false

namespace ConsoleKeeper.Text

section Needle

variable {α : Type} {fresh needle kept s : List α}

/-- A needle that begins in a sequence of other elements ends before it begins. -/
theorem eq_nil_of_prefix_append (hfresh : fresh ≠ []) (hdisjoint : ∀ c ∈ fresh, c ∉ needle)
    (h : needle <+: fresh ++ s) : needle = [] := by
  cases fresh with
  | nil => exact absurd rfl hfresh
  | cons f fs =>
    rw [List.cons_append, List.prefix_cons_iff] at h
    obtain rfl | ⟨t, rfl, -⟩ := h
    · rfl
    · exact absurd List.mem_cons_self (hdisjoint f List.mem_cons_self)

/-- A needle lies on one side of a sequence that shares no element with it. -/
theorem infix_of_infix_append_append (hneedle : needle ≠ []) (hfresh : fresh ≠ [])
    (hdisjoint : ∀ c ∈ fresh, c ∉ needle) (h : needle <:+: kept ++ (fresh ++ s)) :
    needle <:+: kept ∨ needle <:+: s := by
  -- It lies on the left, on the right, or across the border, and so once more for the rest.
  obtain h | h | ⟨before, after, rfl, hbefore, hafter⟩ := List.infix_append_iff.mp h
  · exact .inl h
  · obtain h | h | ⟨before, after, rfl, hbefore, hafter⟩ := List.infix_append_iff.mp h
    · -- All of the needle would be in the separating sequence.
      obtain ⟨c, hc⟩ := List.exists_mem_of_ne_nil needle hneedle
      exact absurd hc (hdisjoint c (h.subset hc))
    · exact .inr h
    · have hnil : before = [] := List.eq_nil_iff_forall_not_mem.mpr fun c hc =>
        hdisjoint c (hbefore.subset hc) (List.mem_append_left after hc)
      rw [hnil]
      exact .inr hafter.isInfix
  · have hnil : after = [] := eq_nil_of_prefix_append hfresh
      (fun c hc hmem => hdisjoint c hc (List.mem_append_right before hmem)) hafter
    rw [hnil, List.append_nil]
    exact .inl hbefore.isInfix

end Needle

variable {α : Type} [DecidableEq α] {pattern fresh needle kept s : List α}

/-! ### The recursion of replacing -/

/-- The elements that are left out first do not matter. -/
theorem replaceAfter_eq_drop (pattern fresh : List α) (skip : Nat) (s : List α) :
    replaceAfter pattern fresh skip s = replaceAll pattern fresh (s.drop skip) := by
  induction s generalizing skip with
  | nil => simp [replaceAll, replaceAfter]
  | cons c rest ih =>
    cases skip with
    | zero => rfl
    | succ skip => simpa [replaceAfter] using ih skip

/-- In an empty text there is nothing to replace. -/
@[simp] theorem replaceAll_nil (pattern fresh : List α) : replaceAll pattern fresh [] = [] := rfl

/-- An occurrence at the front is replaced. -/
theorem replaceAll_append (hpattern : pattern ≠ []) (fresh s : List α) :
    replaceAll pattern fresh (pattern ++ s) = fresh ++ replaceAll pattern fresh s := by
  cases pattern with
  | nil => exact absurd rfl hpattern
  | cons p ps =>
    have hfront : (p :: ps).isPrefixOf (p :: (ps ++ s)) = true := by
      rw [List.isPrefixOf_iff_prefix]
      exact List.prefix_append (p :: ps) s
    show replaceAfter (p :: ps) fresh 0 (p :: (ps ++ s)) = _
    rw [replaceAfter, if_pos hfront, replaceAfter_eq_drop]
    simp

/-- Without an occurrence at the front the first element stays. -/
theorem replaceAll_cons {c : α} (h : ¬pattern <+: c :: s) (fresh : List α) :
    replaceAll pattern fresh (c :: s) = c :: replaceAll pattern fresh s := by
  have hfront : ¬pattern.isPrefixOf (c :: s) = true := by
    rwa [List.isPrefixOf_iff_prefix]
  show replaceAfter pattern fresh 0 (c :: s) = _
  rw [replaceAfter, if_neg hfront]
  rfl

/-- The way of the search: past an occurrence where there is one, else past one element. -/
theorem replaceAll_induction {motive : List α → Prop} (hpattern : pattern ≠ [])
    (nil : motive []) (found : ∀ s, motive s → motive (pattern ++ s))
    (other : ∀ c s, ¬pattern <+: c :: s → motive s → motive (c :: s)) (s : List α) : motive s := by
  -- An occurrence is no shorter than one element, so the rest gets shorter in both cases.
  have hpos : 0 < pattern.length := List.length_pos_iff.mpr hpattern
  induction hlength : s.length using Nat.strong_induction_on generalizing s with
  | _ n ih =>
    by_cases hfront : pattern <+: s
    · obtain ⟨rest, rfl⟩ := hfront
      rw [List.length_append] at hlength
      exact found rest (ih rest.length (by omega) rest rfl)
    · cases s with
      | nil => exact nil
      | cons c rest =>
        rw [List.length_cons] at hlength
        exact other c rest hfront (ih rest.length (by omega) rest rfl)

/-- Where the pattern does not occur, nothing is replaced. -/
theorem replaceAll_eq_self (h : ¬pattern <:+: s) : replaceAll pattern fresh s = s := by
  induction s with
  | nil => rfl
  | cons c rest ih =>
    rw [replaceAll_cons (fun hfront => h hfront.isInfix),
      ih fun hrest => h (List.infix_cons hrest)]

/-- Replacing leaves elements of the sequence and of what is put in. -/
theorem mem_replaceAll {c : α} (hpattern : pattern ≠ []) (h : c ∈ replaceAll pattern fresh s) :
    c ∈ s ∨ c ∈ fresh := by
  induction s using replaceAll_induction hpattern with
  | nil => cases h
  | found s ih =>
    rw [replaceAll_append hpattern, List.mem_append] at h
    obtain h | h := h
    · exact .inr h
    · exact (ih h).imp_left (List.mem_append_right pattern)
  | other d s hfront ih =>
    rw [replaceAll_cons hfront, List.mem_cons] at h
    obtain rfl | h := h
    · exact .inl List.mem_cons_self
    · exact (ih h).imp_left (List.mem_cons_of_mem d)

/-- Replacing makes nothing empty. -/
theorem eq_nil_of_replaceAll_eq_nil (hpattern : pattern ≠ []) (hfresh : fresh ≠ [])
    (h : replaceAll pattern fresh s = []) : s = [] := by
  cases s with
  | nil => rfl
  | cons c rest =>
    by_cases hfront : pattern <+: c :: rest
    · obtain ⟨after, hafter⟩ := hfront
      rw [← hafter, replaceAll_append hpattern] at h
      exact absurd (List.append_eq_nil_iff.mp h).1 hfresh
    · rw [replaceAll_cons hfront] at h
      cases h

/-- The last element that replacing leaves was the last one before, or it ends what is put in. -/
theorem getLast?_replaceAll {c : α} (hpattern : pattern ≠ []) (hfresh : fresh ≠ [])
    (h : (replaceAll pattern fresh s).getLast? = some c) :
    s.getLast? = some c ∨ fresh.getLast? = some c := by
  induction s using replaceAll_induction hpattern with
  | nil => cases h
  | found s ih =>
    rw [replaceAll_append hpattern, List.getLast?_append, Option.or_eq_some_iff] at h
    -- What stands behind the replacement decides, unless there is nothing.
    obtain h | ⟨-, h⟩ := h
    · rw [List.getLast?_append]
      exact (ih h).imp_left fun hlast => by rw [hlast, Option.some_or]
    · exact .inr h
  | other d s hfront ih =>
    rw [replaceAll_cons hfront, ← List.singleton_append, List.getLast?_append,
      Option.or_eq_some_iff] at h
    rw [← List.singleton_append, List.getLast?_append]
    obtain h | ⟨hnone, h⟩ := h
    · exact (ih h).imp_left fun hlast => by rw [hlast, Option.some_or]
    · -- Nothing stands behind the element that stays, so nothing stood there before.
      rw [eq_nil_of_replaceAll_eq_nil hpattern hfresh (List.getLast?_eq_none_iff.mp hnone)]
      exact .inl h

/-! ### What replacing leaves of a needle -/

/-- A needle behind a kept piece that replacing leaves was there before. -/
theorem infix_kept_of_infix_replaceAll (kept : List α) (hpattern : pattern ≠ [])
    (hneedle : needle ≠ []) (hfresh : fresh ≠ []) (hdisjoint : ∀ c ∈ fresh, c ∉ needle)
    (h : needle <:+: kept ++ replaceAll pattern fresh s) : needle <:+: kept ++ s := by
  induction s using replaceAll_induction hpattern generalizing kept with
  | nil => exact h
  | found s ih =>
    rw [replaceAll_append hpattern] at h
    obtain h | h := infix_of_infix_append_append hneedle hfresh hdisjoint h
    · exact List.infix_append_of_infix_left h
    · -- A new piece begins behind the occurrence.
      have hs : needle <:+: s := ih [] h
      exact List.infix_append_of_infix_right (List.infix_append_of_infix_right hs)
  | other c s hfront ih =>
    -- The element that stays joins the kept piece.
    rw [replaceAll_cons hfront, List.append_cons] at h
    rw [List.append_cons]
    exact ih (kept ++ [c]) h

/-- A needle that replacing leaves was there before. -/
theorem infix_of_infix_replaceAll (hpattern : pattern ≠ []) (hneedle : needle ≠ [])
    (hfresh : fresh ≠ []) (hdisjoint : ∀ c ∈ fresh, c ∉ needle)
    (h : needle <:+: replaceAll pattern fresh s) : needle <:+: s :=
  infix_kept_of_infix_replaceAll [] hpattern hneedle hfresh hdisjoint h

/-- No occurrence of the pattern begins in the piece that was kept in front of a sequence. -/
def Passed (pattern kept s : List α) : Prop :=
  ∀ behind, behind <:+ kept → behind ≠ [] → ¬pattern <+: behind ++ s

omit [DecidableEq α] in
/-- Before the first element nothing was passed. -/
theorem passed_nil (pattern s : List α) : Passed pattern [] s :=
  fun _ hbehind hne => absurd (List.suffix_nil.mp hbehind) hne

omit [DecidableEq α] in
/-- One element more is passed if no occurrence begins with it. -/
theorem Passed.snoc {c : α} (h : Passed pattern kept (c :: s)) (hfront : ¬pattern <+: c :: s) :
    Passed pattern (kept ++ [c]) s := by
  intro behind hbehind hne hoccurs
  obtain rfl | ⟨rest, rfl, hrest⟩ := List.suffix_concat_iff.mp hbehind
  · exact hne rfl
  · rw [List.append_assoc, List.singleton_append] at hoccurs
    by_cases hnil : rest = []
    · -- Such an occurrence begins with the new element itself.
      subst hnil
      exact hfront hoccurs
    · exact h rest hrest hnil hoccurs

omit [DecidableEq α] in
/-- A piece that was passed has no occurrence in it. -/
theorem Passed.not_infix (h : Passed pattern kept s) (hpattern : pattern ≠ []) :
    ¬pattern <:+: kept := by
  intro hinfix
  obtain ⟨behind, hoccurs, hbehind⟩ := List.infix_iff_prefix_suffix.mp hinfix
  refine h behind hbehind ?_ (hoccurs.trans (List.prefix_append behind s))
  rintro rfl
  exact hpattern (List.prefix_nil.mp hoccurs)

/-- Behind a piece that was passed, replacing leaves no occurrence of the pattern. -/
theorem not_infix_kept_replaceAll (hpattern : pattern ≠ []) (hfresh : fresh ≠ [])
    (hdisjoint : ∀ c ∈ fresh, c ∉ pattern) (hpassed : Passed pattern kept s) :
    ¬pattern <:+: kept ++ replaceAll pattern fresh s := by
  induction s using replaceAll_induction hpattern generalizing kept with
  | nil => simpa using hpassed.not_infix hpattern
  | found s ih =>
    rw [replaceAll_append hpattern]
    intro h
    -- The replacement shares no element with the pattern, so an occurrence lies before it or
    -- behind it.
    obtain h | h := infix_of_infix_append_append hpattern hfresh hdisjoint h
    · exact hpassed.not_infix hpattern h
    · exact @ih [] (passed_nil pattern s) h
  | other c s hfront ih =>
    rw [replaceAll_cons hfront, List.append_cons]
    exact ih (hpassed.snoc hfront)

/-- Replacing leaves no occurrence of the pattern. -/
theorem not_infix_replaceAll (hpattern : pattern ≠ []) (hfresh : fresh ≠ [])
    (hdisjoint : ∀ c ∈ fresh, c ∉ pattern) (s : List α) :
    ¬pattern <:+: replaceAll pattern fresh s :=
  not_infix_kept_replaceAll hpattern hfresh hdisjoint (passed_nil pattern s)

end ConsoleKeeper.Text
