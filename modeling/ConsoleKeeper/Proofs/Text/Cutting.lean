import Mathlib.Algebra.Order.BigOperators.Group.List
import Mathlib.Algebra.Order.Group.Nat
import ConsoleKeeper.Proofs.Text.Split
import ConsoleKeeper.Proofs.Text.Utf8

/-!
# `ConsoleKeeper.Proofs.Text.Cutting`: a text that is cut as bytes

The bytes of a text are cut into parts, each part is read by itself, and it loses the carriage
returns at its end. `flatMap_trimmed_eq_iff` says when what was read makes up the text again: each
part is the form of a text that does not end with a carriage return.

A part that begins inside a character is what makes the difference. The bytes that lead a character
are counted: reading gives a character for each of them at least (`countP_leads_le`), and one more
for a part that begins with another byte. So too many characters are read, whichever they are.
Carriage returns are left out of the count, since parts may lose them.
-/

set_option autoImplicit false

namespace ConsoleKeeper.Text.Utf8

/-! ### Bytes that lead a character -/

/-- Whether a byte leads a character that is no carriage return. -/
def leads (b : UInt8) : Bool :=
  !isContinuation b && b ≠ 13

/-- No character begins among bytes that all continue one. -/
theorem countP_leads_eq_zero {bytes : List UInt8} (h : ∀ b ∈ bytes, isContinuation b = true) :
    bytes.countP leads = 0 := by
  refine List.countP_eq_zero.mpr fun b hb => ?_
  simp [leads, h b hb]

/-- A character with a greater number is no carriage return. -/
theorem ofNat_ne_return {n : Nat} (h : 13 < n) : some (Char.ofNat n) ≠ some '\r' := by
  intro heq
  have hn : n = '\r'.toNat := eq_toNat_of_ofNat (by decide) (Option.some.inj heq)
  exact absurd (hn ▸ h) (by decide)

/-- A lead byte and the bytes that belong to it are read as one character. -/
theorem countP_leads_cons_le {item : Option Char} {items : List (Option Char)} (lead : UInt8)
    (more rest : List UInt8) (hitem : item ≠ some '\r')
    (hmore : ∀ b ∈ more, isContinuation b = true)
    (h : rest.countP leads ≤ items.countP (· ≠ some '\r')) :
    (lead :: (more ++ rest)).countP leads ≤ (item :: items).countP (· ≠ some '\r') := by
  have hlead : [lead].countP leads ≤ 1 := List.countP_le_length
  have hitems : (item :: items).countP (· ≠ some '\r') = items.countP (· ≠ some '\r') + 1 :=
    List.countP_cons_of_pos (by simpa using hitem)
  rw [hitems, ← List.singleton_append, List.countP_append, List.countP_append,
    countP_leads_eq_zero hmore]
  omega

/-- Not less is read than there are lead bytes. -/
theorem countP_leads_le (bytes : List UInt8) :
    bytes.countP leads ≤ (scan bytes).countP (· ≠ some '\r') := by
  have hnone : none ≠ some '\r' := by decide
  have hnil : ∀ b ∈ ([] : List UInt8), isContinuation b = true := List.forall_mem_nil _
  fun_induction scan bytes with
  | case1 => exact Nat.le_refl 0
  | case2 b rest n hn ih =>
    by_cases hb : b = 13
    · have hitem : some (Char.ofNat n) = some '\r' := by
        subst hb
        rfl
      have hlead : ¬leads b = true := by
        rw [hb]
        decide
      rw [hitem, List.countP_cons_of_neg hlead, List.countP_cons_of_neg (by simp)]
      exact ih
    · have hitem : some (Char.ofNat n) ≠ some '\r' := by
        intro heq
        refine hb (UInt8.toNat_inj.mp ?_)
        exact eq_toNat_of_ofNat (by decide) (Option.some.inj heq)
      exact countP_leads_cons_le b [] rest hitem hnil ih
  | case5 b₀ n hn hlead htwo b₁ rest h₁ ih =>
    have hitem : some (Char.ofNat ((n - 0xc0) * 64 + low b₁)) ≠ some '\r' := by
      simp only [Bool.or_eq_true, decide_eq_true_eq] at hlead
      exact ofNat_ne_return (by omega)
    exact countP_leads_cons_le b₀ [b₁] rest hitem (by simp [h₁]) ih
  | case9 b₀ n hn hlead htwo hthree b₁ h₁ b₂ rest h₂ ih =>
    have hitem : some (Char.ofNat ((n - 0xe0) * 4096 + low b₁ * 64 + low b₂)) ≠ some '\r' := by
      have hlow := low_of_isSecond h₁
      exact ofNat_ne_return (by omega)
    exact countP_leads_cons_le b₀ [b₁, b₂] rest hitem
      (by simp [isContinuation_of_isSecond h₁, h₂]) ih
  | case15 b₀ n hn hlead htwo hthree b₁ h₁ b₂ h₂ b₃ rest h₃ ih =>
    have hitem : some (Char.ofNat ((n - 0xf0) * 262144 + low b₁ * 4096 + low b₂ * 64 + low b₃)) ≠
        some '\r' := by
      have hlow := low_of_isSecond h₁
      exact ofNat_ne_return (by omega)
    exact countP_leads_cons_le b₀ [b₁, b₂, b₃] rest hitem
      (by simp [isContinuation_of_isSecond h₁, h₂, h₃]) ih
  -- In all other cases a lead byte is missing, or it lacks some of the bytes that belong to it.
  | case3 b rest n hn hlead ih => exact countP_leads_cons_le b [] rest hnone hnil ih
  | case4 b | case7 b | case12 b => exact countP_leads_cons_le b [] [] hnone hnil (Nat.le_refl 0)
  | case6 b n hn hlead htwo b₁ rest h₁ ih => exact countP_leads_cons_le b [] _ hnone hnil ih
  | case11 b n hn hlead htwo hthree b₁ rest h₁ ih => exact countP_leads_cons_le b [] _ hnone hnil ih
  | case18 b n hn hlead htwo hthree b₁ rest h₁ ih => exact countP_leads_cons_le b [] _ hnone hnil ih
  | case8 b n hn hlead htwo hthree b₁ h₁ | case13 b n hn hlead htwo hthree b₁ h₁ =>
    exact countP_leads_cons_le b [b₁] [] hnone (by simp [isContinuation_of_isSecond h₁])
      (Nat.le_refl 0)
  | case10 b n hn hlead htwo hthree b₁ h₁ b₂ rest h₂ ih =>
    exact countP_leads_cons_le b [b₁] _ hnone (by simp [isContinuation_of_isSecond h₁]) ih
  | case17 b n hn hlead htwo hthree b₁ h₁ b₂ rest h₂ ih =>
    exact countP_leads_cons_le b [b₁] _ hnone (by simp [isContinuation_of_isSecond h₁]) ih
  | case14 b n hn hlead htwo hthree b₁ h₁ b₂ h₂ =>
    exact countP_leads_cons_le b [b₁, b₂] [] hnone (by simp [isContinuation_of_isSecond h₁, h₂])
      (Nat.le_refl 0)
  | case16 b n hn hlead htwo hthree b₁ h₁ b₂ h₂ b₃ rest h₃ ih =>
    exact countP_leads_cons_le b [b₁, b₂] _ hnone (by simp [isContinuation_of_isSecond h₁, h₂]) ih

/-- A byte below or above the continuing ones continues nothing. -/
theorem isContinuation_eq_false {b : UInt8} (h : b.toNat < 0x80 ∨ 0xc0 ≤ b.toNat) :
    isContinuation b = false := by
  simp only [isContinuation, Bool.and_eq_false_iff, decide_eq_false_iff_not]
  omega

/-- The form of a character is a lead byte and the bytes that belong to it. -/
theorem exists_encodeChar (c : Char) :
    ∃ lead more, encodeChar c = lead :: more ∧ isContinuation lead = false ∧
      (∀ b ∈ more, isContinuation b = true) ∧ (lead = 13 ↔ c = '\r') := by
  have hvalid : c.toNat < 0xd800 ∨ 0xdfff < c.toNat ∧ c.toNat < 0x110000 := c.valid
  have hreturn : c = '\r' ↔ c.toNat = 13 := Char.toNat_inj.symm
  -- A leading byte of two or more is from 0xc0 on, and so is neither a continuation nor a
  -- carriage return.
  have hlong (n : Nat) (hlead : 0xc0 ≤ n) (hn : n < 256) (hc : ¬c.toNat < 0x80) :
      isContinuation (byte n) = false ∧ (byte n = 13 ↔ c = '\r') := by
    have hb := toNat_byte hn
    have hthirteen : (13 : UInt8).toNat = 13 := rfl
    refine ⟨isContinuation_eq_false (by omega), ?_⟩
    rw [hreturn, ← UInt8.toNat_inj, hb]
    omega
  unfold encodeChar
  by_cases h₁ : c.toNat < 0x80
  · have hb := toNat_byte (n := c.toNat) (by omega)
    simp only [h₁, if_true]
    refine ⟨_, _, rfl, isContinuation_eq_false (by omega), List.forall_mem_nil _, ?_⟩
    rw [hreturn, ← UInt8.toNat_inj, hb]
    rfl
  · simp only [h₁, if_false]
    split
    · obtain ⟨hlead, hr⟩ := hlong (0xc0 + c.toNat / 64) (by omega) (by omega) h₁
      exact ⟨_, _, rfl, hlead, by simp [isContinuation_byte], hr⟩
    · split
      · obtain ⟨hlead, hr⟩ := hlong (0xe0 + c.toNat / 4096) (by omega) (by omega) h₁
        exact ⟨_, _, rfl, hlead, by simp [isContinuation_byte], hr⟩
      · obtain ⟨hlead, hr⟩ := hlong (0xf0 + c.toNat / 262144) (by omega) (by omega) h₁
        exact ⟨_, _, rfl, hlead, by simp [isContinuation_byte], hr⟩

/-- Texts are encoded one behind the other. -/
theorem encode_append (s t : List Char) : encode (s ++ t) = encode s ++ encode t :=
  List.flatMap_append

/-- Any number of texts are encoded one behind the other. -/
theorem encode_flatten (texts : List (List Char)) :
    encode texts.flatten = (texts.map encode).flatten := by
  induction texts with
  | nil => rfl
  | cons t texts ih =>
    rw [List.flatten_cons, encode_append, ih, List.map_cons, List.flatten_cons]

/-- There are as many lead bytes in the bytes of a text as characters in the text. -/
theorem countP_leads_encode (s : List Char) :
    (encode s).countP leads = s.countP (· ≠ '\r') := by
  induction s with
  | nil => rfl
  | cons c rest ih =>
    obtain ⟨lead, more, hform, hlead, hmore, hreturn⟩ := exists_encodeChar c
    have hchar : (encodeChar c).countP leads = [c].countP (· ≠ '\r') := by
      rw [hform, List.countP_cons, countP_leads_eq_zero hmore]
      by_cases hc : c = '\r'
      · simp [leads, hc, hreturn.mpr hc]
      · simp [leads, hc, hlead, mt hreturn.mp hc]
    rw [← List.singleton_append, encode_append, List.countP_append, List.countP_append, ih, ← hchar,
      encode, List.flatMap_singleton]

/-- The bytes of a text are cut between its characters wherever what follows does not begin with a
byte that belongs to another one. -/
theorem exists_texts_of_append {s : List Char} {front back : List UInt8}
    (h : encode s = front ++ back) (hback : ∀ b ∈ back.head?, isContinuation b = false) :
    ∃ t u, s = t ++ u ∧ encode t = front ∧ encode u = back := by
  induction s generalizing front with
  | nil =>
    obtain ⟨rfl, rfl⟩ := List.append_eq_nil_iff.mp h.symm
    exact ⟨[], [], rfl, rfl, rfl⟩
  | cons c rest ih =>
    obtain ⟨lead, more, hform, -, hmore, -⟩ := exists_encodeChar c
    have hcons : encode (c :: rest) = encodeChar c ++ encode rest := List.flatMap_cons
    rw [hcons] at h
    obtain ⟨front, rfl, hrest⟩ | ⟨inside, hchar, hbehind⟩ := List.append_eq_append_iff.mp h
    · -- The cut is behind the first character.
      obtain ⟨t, u, rfl, rfl, rfl⟩ := ih hrest
      exact ⟨c :: t, u, rfl, List.flatMap_cons, rfl⟩
    · cases inside with
      | nil =>
        rw [List.append_nil] at hchar
        exact ⟨[c], rest, rfl, by rw [← hchar, encode, List.flatMap_singleton], hbehind.symm⟩
      | cons b inside =>
        cases front with
        | nil => exact ⟨[], c :: rest, rfl, rfl, by rw [hcons, h, List.nil_append]⟩
        | cons lead' front =>
          -- Inside the character there are no lead bytes.
          rw [hform, List.cons_append, List.cons.injEq] at hchar
          have hinside : isContinuation b = true := hmore b (by simp [hchar.2])
          rw [hback b (by simp [hbehind])] at hinside
          cases hinside

/-! ### Parts that are read by themselves -/

variable {parts : List (List UInt8)} {s : List Char}

/-- If each part begins where a character does, then each is the form of a text. -/
theorem exists_texts_of_flatten (h : parts.flatten = encode s)
    (hparts : ∀ part ∈ parts, ∀ b ∈ part.head?, isContinuation b = false) :
    ∃ texts : List (List Char), parts = texts.map encode ∧ texts.flatten = s := by
  induction parts generalizing s with
  | nil => exact ⟨[], rfl, (encode_eq_nil_iff.mp h.symm).symm⟩
  | cons part parts ih =>
    obtain ⟨-, hlater⟩ := List.forall_mem_cons.mp hparts
    -- The cut behind the first part is before the first byte of a later one, which leads a
    -- character.
    have hback : ∀ b ∈ parts.flatten.head?, isContinuation b = false := by
      intro b hb
      rw [List.head?_flatten] at hb
      obtain ⟨other, hother, hhead⟩ := List.exists_of_findSome?_eq_some hb
      exact hlater other hother b hhead
    obtain ⟨t, u, rfl, rfl, hu⟩ := exists_texts_of_append h.symm hback
    obtain ⟨texts, htexts, rfl⟩ := ih hu.symm hlater
    exact ⟨t :: texts, by rw [htexts, List.map_cons], rfl⟩

/-- What is read of a part. -/
def trimmed (part : List UInt8) : List Char :=
  trimRight (· = '\r') (decodeLossy part)

/-- Only carriage returns are lost. -/
theorem countP_trimmed (part : List UInt8) :
    (trimmed part).countP (· ≠ '\r') = (scan part).countP (· ≠ some '\r') := by
  -- Trimming takes carriage returns only, and they are not counted.
  have hlost : ((decodeLossy part).rtakeWhile (· = '\r')).countP (· ≠ '\r') = 0 :=
    List.countP_eq_zero.mpr fun c hc => by
      have hreturn := List.mem_rtakeWhile_imp hc
      simpa using hreturn
  have hkept : (trimmed part).countP (· ≠ '\r') = (decodeLossy part).countP (· ≠ '\r') := by
    calc (trimmed part).countP (· ≠ '\r')
        = (trimmed part ++ (decodeLossy part).rtakeWhile (· = '\r')).countP (· ≠ '\r') := by
          rw [List.countP_append, hlost, Nat.add_zero]
      _ = (decodeLossy part).countP (· ≠ '\r') := by
          rw [trimmed, trimRight_eq, List.rdropWhile_append_rtakeWhile]
  rw [hkept, decodeLossy, List.countP_map]
  refine List.countP_congr fun item _ => ?_
  cases item <;> simp

/-- A part is read as a character at least for each lead byte. -/
theorem countP_leads_le_trimmed (part : List UInt8) :
    part.countP leads ≤ (trimmed part).countP (· ≠ '\r') := by
  rw [countP_trimmed]
  exact countP_leads_le part

/-- A part that begins inside a character is read as one character more. -/
theorem countP_leads_lt_trimmed {b : UInt8} (hb : isContinuation b = true) (rest : List UInt8) :
    (b :: rest).countP leads < (trimmed (b :: rest)).countP (· ≠ '\r') := by
  have hscan : scan (b :: rest) = none :: scan rest := by
    simp only [isContinuation, Bool.and_eq_true, decide_eq_true_eq] at hb
    have hlong : ¬b.toNat < 0x80 := by omega
    have hinside : b.toNat < 0xc2 := by omega
    rw [scan.eq_def]
    simp [hlong, hinside]
  have hlead : ¬leads b = true := by simp [leads, hb]
  rw [countP_trimmed, hscan, List.countP_cons_of_neg hlead, List.countP_cons_of_pos (by decide)]
  exact Nat.lt_succ_of_le (countP_leads_le rest)

/-- Parts that are read as the whole text begin where characters do. -/
theorem head_of_flatMap_trimmed (hparts : parts.flatten = encode s)
    (hread : parts.flatMap trimmed = s) :
    ∀ part ∈ parts, ∀ b ∈ part.head?, isContinuation b = false := by
  by_contra hinside
  push Not at hinside
  obtain ⟨part, hmem, b, hhead, hb⟩ := hinside
  obtain ⟨rest, rfl⟩ := List.head?_eq_some_iff.mp hhead
  -- Each part shows at least as many characters as it has leading bytes, and a part that begins
  -- inside a character shows more: the broken character is replaced, not dropped. In the sum the
  -- two counts would have to be equal.
  have hmore : (parts.map (List.countP leads)).sum <
      (parts.map fun part => (trimmed part).countP (· ≠ '\r')).sum :=
    List.sum_lt_sum _ _ (fun part _ => countP_leads_le_trimmed part)
      ⟨b :: rest, hmem, countP_leads_lt_trimmed (Bool.eq_true_of_not_eq_false hb) rest⟩
  have hsame : parts.flatten.countP leads = (parts.flatMap trimmed).countP (· ≠ '\r') := by
    rw [hparts, hread, countP_leads_encode]
  rw [List.countP_flatten, List.countP_flatMap] at hsame
  exact Nat.ne_of_lt hmore hsame

/-- Texts that may lose something at their ends lose nothing if together they make up the same. -/
theorem flatMap_eq_flatten_iff {α : Type} {f : List α → List α} (hf : ∀ t, f t <+: t)
    (texts : List (List α)) : texts.flatMap f = texts.flatten ↔ ∀ t ∈ texts, f t = t := by
  refine ⟨fun h => ?_, fun h => ?_⟩
  · have hlengths : (texts.map fun t => (f t).length).sum = (texts.map List.length).sum := by
      rw [← List.length_flatMap, h, List.length_flatten]
    by_contra hshort
    push Not at hshort
    obtain ⟨t, hmem, hne⟩ := hshort
    refine Nat.ne_of_lt (List.sum_lt_sum _ _ (fun t _ => (hf t).length_le) ⟨t, hmem, ?_⟩) hlengths
    exact lt_of_le_of_ne (hf t).length_le fun hlength => hne ((hf t).eq_of_length hlength)
  · calc texts.flatMap f = texts.flatMap id := List.flatMap_congr h
      _ = texts.flatten := List.flatMap_id

/-- What is read of the parts is the text exactly if each part is the form of a text that does not
end with a carriage return. -/
theorem flatMap_trimmed_eq_iff (hparts : parts.flatten = encode s) :
    parts.flatMap trimmed = s ↔ ∃ texts : List (List Char), parts = texts.map encode ∧
      texts.flatten = s ∧ ∀ t ∈ texts, t.getLast? ≠ some '\r' := by
  have hread (texts : List (List Char)) :
      (texts.map encode).flatMap trimmed = texts.flatten ↔
        ∀ t ∈ texts, t.getLast? ≠ some '\r' := by
    have htrimmed : (texts.map encode).flatMap trimmed = texts.flatMap (trimRight (· = '\r')) := by
      simp only [List.flatMap_map, trimmed, decodeLossy_encode]
    have hprefix (t : List Char) : trimRight (· = '\r') t <+: t := List.rdropWhile_prefix _ t
    -- Each trimmed text is a prefix of its text, so they only make up the whole if none is
    -- shorter.
    rw [htrimmed, flatMap_eq_flatten_iff hprefix]
    simp only [trimRight_eq_self_iff]
  refine ⟨fun h => ?_, fun ⟨texts, hforms, hflat, hlast⟩ => ?_⟩
  · obtain ⟨texts, rfl, hflat⟩ := exists_texts_of_flatten hparts (head_of_flatMap_trimmed hparts h)
    rw [← hflat] at h
    exact ⟨texts, rfl, hflat, (hread texts).mp h⟩
  · rw [hforms, ← hflat]
    exact (hread texts).mpr hlast

end ConsoleKeeper.Text.Utf8
