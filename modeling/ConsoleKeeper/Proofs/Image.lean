import Mathlib.Data.List.TakeWhile
import ConsoleKeeper.Image
import ConsoleKeeper.Proofs.Text.Split

/-!
# `ConsoleKeeper.Proofs.Image`: reading the tag of a written reference

A reference is cut at its first at sign, at its last slash, and at the last colon behind that. A
repository may have ports and any number of segments, and a digest may be any text. What matters is
that the repository has no at sign and no colon in its last segment (`IsRepository`), and that the
tag is one part of the reference (`IsPart`).

`tag?_write` says that the tag that is read is then the tag that was written, if there was one.
`tag?_write_iff` says that this is so for no other repositories and tags.
-/

set_option autoImplicit false

namespace ConsoleKeeper.Image

/-! ### The last separator -/

section Last

variable {sep : Char} {s after : List Char}

/-- All characters differ from one that is not among them. -/
theorem decide_ne_of_not_mem (h : sep ∉ s) : ∀ c ∈ s, decide (c ≠ sep) = true := by
  intro c hc
  exact decide_eq_true fun he => h (he ▸ hc)

/-- What has no separator stands after the last one, together with what was there before. -/
theorem afterLast_append_of_not_mem (h : sep ∉ after) (before : List Char) :
    afterLast sep (before ++ after) = afterLast sep before ++ after := by
  rw [afterLast, afterLast, List.reverse_append,
    List.takeWhile_append_of_pos (decide_ne_of_not_mem (by simpa using h)), List.reverse_append,
    List.reverse_reverse]

/-- What stands after the last separator. -/
theorem afterLast_append (h : sep ∉ after) (before : List Char) :
    afterLast sep (before ++ sep :: after) = after := by
  have hnone : afterLast sep (before ++ [sep]) = [] := by
    rw [afterLast, List.reverse_append, List.reverse_singleton, List.singleton_append,
      List.takeWhile_cons_of_neg (by simp), List.reverse_nil]
  rw [List.append_cons, afterLast_append_of_not_mem h, hnone, List.nil_append]

/-- Nothing stands after the last separator that was not there before. -/
theorem afterLast_subset (sep : Char) (s : List Char) : afterLast sep s ⊆ s := by
  intro c hc
  exact List.mem_reverse.mp ((List.takeWhile_sublist _).subset (List.mem_reverse.mp hc))

/-- No separator stands after the last one. -/
theorem sep_not_mem_afterLast (sep : Char) (s : List Char) : sep ∉ afterLast sep s := by
  intro h
  have hne := List.mem_takeWhile_imp (List.mem_reverse.mp h)
  simp at hne

/-- What stands after the last separator is the last piece. -/
theorem getLast?_splitOn (sep : Char) (s : List Char) :
    (s.splitOn sep).getLast? = some (afterLast sep s) := by
  obtain ⟨parts, rest, rfl, hparts, hrest⟩ := Text.exists_flatMap_append sep s
  rw [Text.splitOn_flatMap_append hparts, List.splitOn_eq_singleton hrest, List.getLast?_concat,
    afterLast_append_of_not_mem hrest]
  -- If there is a separator in front of the rest, it is the end of a part.
  obtain rfl | ⟨parts, part, rfl⟩ := List.eq_nil_or_concat parts
  · rfl
  · rw [List.concat_eq_append, List.flatMap_append, List.flatMap_singleton, ← List.append_assoc,
      afterLast_append List.not_mem_nil, List.nil_append]

end Last

/-! ### Repositories and tags -/

/-- A tag and a digest can be put behind a repository: it has no digest, and its last segment has no
tag. -/
structure IsRepository (repository : String) : Prop where
  undigested : '@' ∉ repository.toList
  untagged : ∀ segment ∈ (repository.toList.splitOn '/').getLast?, ':' ∉ segment

/-- A text is one part of a reference: it has nothing that separates parts. -/
def IsPart (text : String) : Prop :=
  ∀ c ∈ ['/', ':', '@'], c ∉ text.toList

instance (text : String) : Decidable (IsPart text) :=
  List.decidableBAll _ _

/-- A part has none of the three separators. -/
theorem isPart_iff {text : String} :
    IsPart text ↔ '/' ∉ text.toList ∧ ':' ∉ text.toList ∧ '@' ∉ text.toList := by
  simp [IsPart]

/-- A repository has no digest, and no colon after its last slash. -/
theorem isRepository_iff {repository : String} :
    IsRepository repository ↔
      '@' ∉ repository.toList ∧ ':' ∉ afterLast '/' repository.toList := by
  have hlast := getLast?_splitOn '/' repository.toList
  constructor
  · exact fun h => ⟨h.undigested, h.untagged _ hlast⟩
  · rintro ⟨hdigest, htag⟩
    refine ⟨hdigest, fun segment hsegment => ?_⟩
    rwa [← Option.some.inj (hlast.symm.trans hsegment)]

/-- A part behind a slash makes a repository of any path without a digest. -/
theorem isRepository_append {path name : String} (hpath : '@' ∉ path.toList)
    (hname : IsPart name) : IsRepository (path ++ "/" ++ name) := by
  obtain ⟨hslash, hcolon, hdigest⟩ := isPart_iff.mp hname
  have hchars : (path ++ "/" ++ name).toList = path.toList ++ '/' :: name.toList := by
    simp [String.toList_append]
  rw [isRepository_iff, hchars, afterLast_append hslash]
  exact ⟨by simp [hpath, hdigest], hcolon⟩

/-! ### Reading -/

section Characters

variable {reference : List Char}

/-- A digest is not looked at. -/
theorem tagOf?_digest (h : '@' ∉ reference) (digest : List Char) :
    tagOf? (reference ++ '@' :: digest) = tagOf? reference := by
  have hall := decide_ne_of_not_mem h
  have hcut : (reference ++ '@' :: digest).takeWhile (· ≠ '@') =
      reference.takeWhile (· ≠ '@') := by
    rw [List.takeWhile_append_of_pos hall, List.takeWhile_cons_of_neg (by simp), List.append_nil,
      List.takeWhile_eq_self_iff.mpr hall]
  rw [tagOf?, tagOf?, hcut]

/-- Nothing behind a digest is looked at. -/
theorem tagOf?_append_of_mem (h : '@' ∈ reference) (rest : List Char) :
    tagOf? (reference ++ rest) = tagOf? reference := by
  obtain ⟨before, digest, rfl, hbefore⟩ := List.eq_append_cons_of_mem h
  rw [List.append_assoc, List.cons_append, tagOf?_digest hbefore, tagOf?_digest hbefore]

/-- The last segment of a reference without a digest has its tag. -/
theorem tagOf?_of_not_mem (h : '@' ∉ reference) :
    tagOf? reference =
      if ':' ∈ afterLast '/' reference then some (afterLast ':' (afterLast '/' reference))
      else none := by
  simp only [tagOf?, List.takeWhile_eq_self_iff.mpr (decide_ne_of_not_mem h),
    List.contains_iff_mem]

/-- What is read has nothing that separates the parts of a reference. -/
theorem not_mem_of_tagOf? {tag : List Char} (h : tagOf? reference = some tag) :
    ∀ c ∈ ['/', ':', '@'], c ∉ tag := by
  let segment := afterLast '/' (reference.takeWhile (· ≠ '@'))
  have htag : tag = afterLast ':' segment := by
    simp only [tagOf?] at h
    split at h
    · exact (Option.some.inj h).symm
    · cases h
  -- The tag is the end of the last segment before any digest, and each cut leaves its own
  -- separator behind.
  have hsub : tag ⊆ segment := htag ▸ afterLast_subset ':' segment
  have hdigest : '@' ∉ segment := fun hmem => by
    have hne := List.mem_takeWhile_imp (afterLast_subset '/' _ hmem)
    simp at hne
  have hslash : '/' ∉ tag := fun hmem => sep_not_mem_afterLast '/' _ (hsub hmem)
  have hcolon : ':' ∉ tag := htag ▸ sep_not_mem_afterLast ':' segment
  simpa using ⟨hslash, hcolon, fun hmem => hdigest (hsub hmem)⟩

end Characters

variable {repository tag : String}

/-- A repository alone has no tag. -/
theorem tagOf?_repository (h : IsRepository repository) : tagOf? repository.toList = none := by
  obtain ⟨hdigest, hcolon⟩ := isRepository_iff.mp h
  rw [tagOf?_of_not_mem hdigest, if_neg hcolon]

/-- A tag is written behind a colon. -/
theorem toList_tagged (repository tag : String) :
    (write repository (some tag) none).toList = repository.toList ++ ':' :: tag.toList := by
  simp [write, String.toList_append]

/-- Of a reference without a digest the tag is read as it was written. -/
theorem tagOf?_tagged (h : IsRepository repository) (htag : IsPart tag) :
    '@' ∉ (write repository (some tag) none).toList ∧
      tagOf? (write repository (some tag) none).toList = some tag.toList := by
  obtain ⟨hslash, hcolon, hat⟩ := isPart_iff.mp htag
  rw [toList_tagged]
  have hdigest : '@' ∉ repository.toList ++ ':' :: tag.toList := by
    simp [h.undigested, hat]
  -- The tag has no slash, so it belongs to the last segment.
  have hsegment : afterLast '/' (repository.toList ++ ':' :: tag.toList) =
      afterLast '/' repository.toList ++ ':' :: tag.toList :=
    afterLast_append_of_not_mem (by simpa using hslash) _
  refine ⟨hdigest, ?_⟩
  rw [tagOf?_of_not_mem hdigest, hsegment, if_pos (by simp), afterLast_append hcolon]

/-- A digest makes no difference to a reference without one. -/
theorem tag?_write_digest {tag : Option String} (h : '@' ∉ (write repository tag none).toList)
    (digest : Option String) :
    tag? (write repository tag digest) = tag? (write repository tag none) := by
  cases digest with
  | none => rfl
  | some digest =>
    have hchars : (write repository tag (some digest)).toList =
        (write repository tag none).toList ++ '@' :: digest.toList := by
      simp [write, String.toList_append]
    rw [tag?, hchars, tagOf?_digest h, tag?]

/-- A reference without a tag has none, with or without a digest. -/
theorem tag?_write_none (h : IsRepository repository) (digest : Option String) :
    tag? (write repository none digest) = none := by
  have hdigest : '@' ∉ (write repository none none).toList := h.undigested
  rw [tag?_write_digest hdigest, tag?, write, tagOf?_repository h, Option.map_none]

/-- A tag is read as it was written, with or without a digest. -/
theorem tag?_write_some (h : IsRepository repository) (htag : IsPart tag)
    (digest : Option String) : tag? (write repository (some tag) digest) = some tag := by
  obtain ⟨hdigest, hread⟩ := tagOf?_tagged h htag
  rw [tag?_write_digest hdigest, tag?, hread, Option.map_some, String.ofList_toList]

/-- The tag that is read is the tag that was written. -/
theorem tag?_write {tag : Option String} (h : IsRepository repository)
    (htag : ∀ t ∈ tag, IsPart t) (digest : Option String) :
    tag? (write repository tag digest) = tag := by
  cases tag with
  | none => exact tag?_write_none h digest
  | some tag => exact tag?_write_some h (htag tag rfl) digest

/-- What is read is one part. -/
theorem isPart_of_tag? {image : String} (h : tag? image = some tag) : IsPart tag := by
  obtain ⟨chars, hchars, rfl⟩ := Option.map_eq_some_iff.mp h
  rw [IsPart, String.toList_ofList]
  exact not_mem_of_tagOf? hchars

/-- References with a tag and without one are told apart again, and the tag is read as it was
written, exactly if the repository and the tag are such. -/
theorem tag?_write_iff (repository tag : String) :
    (tag? (write repository none none) = none ∧
        tag? (write repository (some tag) none) = some tag) ↔
      IsRepository repository ∧ IsPart tag := by
  constructor
  · rintro ⟨hnone, hsome⟩
    have hread : tagOf? repository.toList = none := Option.map_eq_none_iff.mp hnone
    have hdigest : '@' ∉ repository.toList := fun hmem => by
      -- Nothing is read behind the at sign, so there is no tag.
      rw [tag?, toList_tagged, tagOf?_append_of_mem hmem, hread] at hsome
      cases hsome
    refine ⟨isRepository_iff.mpr ⟨hdigest, fun hcolon => ?_⟩, isPart_of_tag? hsome⟩
    rw [tagOf?_of_not_mem hdigest, if_pos hcolon] at hread
    cases hread
  · rintro ⟨h, htag⟩
    exact ⟨tag?_write_none h none, tag?_write_some h htag none⟩

end ConsoleKeeper.Image
