import ConsoleKeeper.Text.Utf8

/-!
# `ConsoleKeeper.Proofs.Text.Utf8`: reading back what was written

`decode?_encode` says that the bytes of a text are read as that text. It rests on `scan_encodeChar`,
which reads the bytes of one character whatever follows them.

`newline_not_mem_decodeLossy` is about bytes that need not be a text: no form but its own byte is
read as a newline.
-/

set_option autoImplicit false

namespace ConsoleKeeper.Text.Utf8

/-- A byte is the number that it was made of. -/
theorem toNat_byte {n : Nat} (h : n < 256) : (byte n).toNat = n := by
  rw [byte, UInt8.toNat_ofNat']
  exact Nat.mod_eq_of_lt h

/-- The character with the number of a character. -/
theorem ofNat_eq {c : Char} {n : Nat} (h : n = c.toNat) : Char.ofNat n = c := by
  rw [h, Char.ofNat_toNat]

/-- A byte below 128 stands for the character with its number only. -/
theorem mem_encodeChar {c : Char} {n : Nat} (hn : n < 0x80) (h : byte n ∈ encodeChar c) :
    c = Char.ofNat n := by
  have hbyte : ∀ m < 256, byte n = byte m → n = m := by
    intro m hm heq
    rw [← toNat_byte (n := n) (by omega), heq, toNat_byte hm]
  have hvalid : c.toNat < 0xd800 ∨ 0xdfff < c.toNat ∧ c.toNat < 0x110000 := c.valid
  unfold encodeChar at h
  by_cases h₁ : c.toNat < 0x80
  · simp only [h₁, if_true, List.mem_singleton] at h
    rw [hbyte _ (by omega) h, Char.ofNat_toNat]
  · -- All bytes of a longer form are 128 or more.
    simp only [h₁, if_false] at h
    split at h
    · simp only [List.mem_cons, List.not_mem_nil, or_false] at h
      obtain h | h := h
      all_goals have := hbyte _ (by omega) h
      all_goals omega
    · split at h
      · simp only [List.mem_cons, List.not_mem_nil, or_false] at h
        obtain h | h | h := h
        all_goals have := hbyte _ (by omega) h
        all_goals omega
      · simp only [List.mem_cons, List.not_mem_nil, or_false] at h
        obtain h | h | h | h := h
        all_goals have := hbyte _ (by omega) h
        all_goals omega

/-- A byte below 128 is in the bytes of a text only if its character is in the text. -/
theorem mem_of_byte_mem_encode {s : List Char} {n : Nat} (hn : n < 0x80)
    (h : byte n ∈ encode s) : Char.ofNat n ∈ s := by
  obtain ⟨c, hc, hbyte⟩ := List.mem_flatMap.mp h
  rwa [← mem_encodeChar hn hbyte]

section Lead

variable {lead b₁ b₂ b₃ : UInt8} (rest : List UInt8)

/-- A byte below 128 is a character. -/
theorem scan_one (h : lead.toNat < 0x80) :
    scan (lead :: rest) = some (Char.ofNat lead.toNat) :: scan rest := by
  rw [scan.eq_def]
  simp only [h, if_true]

/-- A lead byte with one byte behind it. -/
theorem scan_two (h : 0xc2 ≤ lead.toNat) (h' : lead.toNat < 0xe0) (h₁ : isContinuation b₁ = true) :
    scan (lead :: b₁ :: rest) =
      some (Char.ofNat ((lead.toNat - 0xc0) * 64 + low b₁)) :: scan rest := by
  rw [scan.eq_def]
  have hsmall : ¬lead.toNat < 0x80 := by omega
  have hlead : ¬(lead.toNat < 0xc2 ∨ 0xf4 < lead.toNat) := by omega
  simp [hsmall, hlead, h', h₁]

/-- A lead byte with two bytes behind it. -/
theorem scan_three (h : 0xe0 ≤ lead.toNat) (h' : lead.toNat < 0xf0) (h₁ : isSecond lead b₁ = true)
    (h₂ : isContinuation b₂ = true) :
    scan (lead :: b₁ :: b₂ :: rest) =
      some (Char.ofNat ((lead.toNat - 0xe0) * 4096 + low b₁ * 64 + low b₂)) :: scan rest := by
  rw [scan.eq_def]
  have hsmall : ¬lead.toNat < 0x80 := by omega
  have hlead : ¬(lead.toNat < 0xc2 ∨ 0xf4 < lead.toNat) := by omega
  have htwo : ¬lead.toNat < 0xe0 := by omega
  simp [hsmall, hlead, htwo, h', h₁, h₂]

/-- A lead byte with three bytes behind it. -/
theorem scan_four (h : 0xf0 ≤ lead.toNat) (h' : lead.toNat ≤ 0xf4) (h₁ : isSecond lead b₁ = true)
    (h₂ : isContinuation b₂ = true) (h₃ : isContinuation b₃ = true) :
    scan (lead :: b₁ :: b₂ :: b₃ :: rest) =
      some (Char.ofNat ((lead.toNat - 0xf0) * 262144 + low b₁ * 4096 + low b₂ * 64 + low b₃)) ::
        scan rest := by
  rw [scan.eq_def]
  have hsmall : ¬lead.toNat < 0x80 := by omega
  have hlead : ¬(lead.toNat < 0xc2 ∨ 0xf4 < lead.toNat) := by omega
  have htwo : ¬lead.toNat < 0xe0 := by omega
  have hthree : ¬lead.toNat < 0xf0 := by omega
  simp [hsmall, hlead, htwo, hthree, h₁, h₂, h₃]

end Lead

/-- The byte that carries the last six bits of a number. -/
theorem isContinuation_byte (n : Nat) : isContinuation (byte (0x80 + n % 64)) = true := by
  have hb := toNat_byte (n := 0x80 + n % 64) (by omega)
  simp only [isContinuation, hb, Bool.and_eq_true, decide_eq_true_eq]
  omega

/-- A continuing byte gives back the six bits that it was made of. -/
theorem low_byte (n : Nat) : low (byte (0x80 + n % 64)) = n % 64 := by
  rw [low, toNat_byte (by omega)]
  omega

/-- The bytes of a character are read as that character. -/
theorem scan_encodeChar (c : Char) (rest : List UInt8) :
    scan (encodeChar c ++ rest) = some c :: scan rest := by
  have hvalid : c.toNat < 0xd800 ∨ 0xdfff < c.toNat ∧ c.toNat < 0x110000 := c.valid
  -- One case for each number of bytes. That the bits add up again is arithmetic.
  unfold encodeChar
  by_cases h₁ : c.toNat < 0x80
  · have hb := toNat_byte (n := c.toNat) (by omega)
    simp only [h₁, if_true, List.cons_append, List.nil_append]
    rw [scan_one rest (by omega), ofNat_eq hb]
  · by_cases h₂ : c.toNat < 0x800
    · have hb := toNat_byte (n := 0xc0 + c.toNat / 64) (by omega)
      simp only [h₁, h₂, if_true, if_false, List.cons_append, List.nil_append]
      rw [scan_two rest (by omega) (by omega) (isContinuation_byte _), low_byte,
        ofNat_eq (c := c) (by omega)]
    · by_cases h₃ : c.toNat < 0x10000
      · have hb := toNat_byte (n := 0xe0 + c.toNat / 4096) (by omega)
        have hb₁ := toNat_byte (n := 0x80 + c.toNat / 64 % 64) (by omega)
        -- A valid character has its second byte in the range that the lead byte asks for.
        have hsecond : isSecond (byte (0xe0 + c.toNat / 4096))
            (byte (0x80 + c.toNat / 64 % 64)) = true := by
          simp only [isSecond, secondMin, secondMax, hb, hb₁, Bool.and_eq_true, decide_eq_true_eq]
          constructor
          · repeat' split
            all_goals omega
          · repeat' split
            all_goals omega
        simp only [h₁, h₂, h₃, if_true, if_false, List.cons_append, List.nil_append]
        rw [scan_three rest (by omega) (by omega) hsecond (isContinuation_byte _), low_byte,
          low_byte, ofNat_eq (c := c) (by omega)]
      · have hb := toNat_byte (n := 0xf0 + c.toNat / 262144) (by omega)
        have hb₁ := toNat_byte (n := 0x80 + c.toNat / 4096 % 64) (by omega)
        have hsecond : isSecond (byte (0xf0 + c.toNat / 262144))
            (byte (0x80 + c.toNat / 4096 % 64)) = true := by
          simp only [isSecond, secondMin, secondMax, hb, hb₁, Bool.and_eq_true, decide_eq_true_eq]
          constructor
          · repeat' split
            all_goals omega
          · repeat' split
            all_goals omega
        simp only [h₁, h₂, h₃, if_false, List.cons_append, List.nil_append]
        rw [scan_four rest (by omega) (by omega) hsecond (isContinuation_byte _)
          (isContinuation_byte _), low_byte, low_byte, low_byte, ofNat_eq (c := c) (by omega)]

/-- The bytes of a text are scanned into its characters. -/
theorem scan_encode (s : List Char) : scan (encode s) = s.map some := by
  induction s with
  | nil => rfl
  | cons c rest ih =>
    rw [encode, List.flatMap_cons, scan_encodeChar, List.map_cons]
    exact congrArg (some c :: ·) ih

/-- A text without bytes is empty. -/
theorem encode_eq_nil_iff {s : List Char} : encode s = [] ↔ s = [] := by
  constructor
  · intro h
    have hscan := scan_encode s
    rw [h, scan] at hscan
    exact List.map_eq_nil_iff.mp hscan.symm
  · rintro rfl
    rfl

/-- The bytes of a text are read as that text. -/
theorem decode?_encode (s : List Char) : decode? (encode s) = some s := by
  rw [decode?, scan_encode]
  induction s with
  | nil => rfl
  | cons c rest ih => simp [ih]

/-- A text that was encoded is decoded as it was. -/
theorem decodeLossy_encode (s : List Char) : decodeLossy (encode s) = s := by
  rw [decodeLossy, scan_encode, List.map_map]
  exact List.map_id s

/-- A number that stands for a character is the number of that character, but for the one that
stands for numbers of no character. -/
theorem eq_toNat_of_ofNat {c : Char} {n : Nat} (hc : c ≠ '\x00') (h : Char.ofNat n = c) :
    n = c.toNat := by
  by_cases hvalid : n.isValidChar
  · rw [Char.ofNat, dif_pos hvalid] at h
    exact congrArg Char.toNat h
  · rw [Char.ofNat, dif_neg hvalid] at h
    exact absurd h.symm hc

/-- A second byte is not below the continuing ones. -/
theorem le_secondMin (lead : UInt8) : 0x80 ≤ secondMin lead := by
  unfold secondMin
  split
  · decide
  · split <;> decide

/-- A second byte is not above the continuing ones. -/
theorem secondMax_lt (lead : UInt8) : secondMax lead < 0xc0 := by
  unfold secondMax
  split
  · decide
  · split <;> decide

/-- The second byte of a character is never the first of another. -/
theorem isContinuation_of_isSecond {lead b : UInt8} (h : isSecond lead b = true) :
    isContinuation b = true := by
  have hmin := le_secondMin lead
  have hmax := secondMax_lt lead
  simp only [isSecond, isContinuation, Bool.and_eq_true, decide_eq_true_eq] at h ⊢
  omega

/-- Behind a lead byte that carries no bits of its own, the next byte carries high ones. -/
theorem low_of_isSecond {lead b : UInt8} (h : isSecond lead b = true)
    (hlead : lead.toNat = 0xe0 ∨ lead.toNat = 0xf0) : 16 ≤ low b := by
  simp only [isSecond, secondMin, secondMax, Bool.and_eq_true] at h
  rw [low]
  obtain hlead | hlead := hlead <;> simp [hlead] at h <;> omega

/-- Only its own byte is read as a newline. -/
theorem newline_mem_of_scan {bytes : List UInt8} (h : some '\n' ∈ scan bytes) : 10 ∈ bytes := by
  have hten : ∀ n, some '\n' = some (Char.ofNat n) → n = 10 :=
    fun n h => eq_toNat_of_ofNat (by decide) (Option.some.inj h).symm
  -- The number of a longer form is not below 128.
  fun_induction scan bytes with
  | case1 => cases h
  | case2 b rest n hn ih =>
    obtain h | h := List.mem_cons.mp h
    · rw [show b = 10 from UInt8.toNat_inj.mp (hten _ h)]
      exact List.mem_cons_self
    · exact List.mem_cons_of_mem b (ih h)
  | case5 b₀ n hn hlead htwo b₁ rest h₁ ih =>
    obtain h | h := List.mem_cons.mp h
    · have hnumber := hten _ h
      simp only [Bool.or_eq_true, decide_eq_true_eq] at hlead
      omega
    · simp [ih h]
  | case9 b₀ n hn hlead htwo hthree b₁ h₁ b₂ rest h₂ ih =>
    obtain h | h := List.mem_cons.mp h
    · have hnumber := hten _ h
      have hlow := low_of_isSecond h₁ (.inl (by omega))
      omega
    · simp [ih h]
  | case15 b₀ n hn hlead htwo hthree b₁ h₁ b₂ h₂ b₃ rest h₃ ih =>
    obtain h | h := List.mem_cons.mp h
    · have hnumber := hten _ h
      have hlow := low_of_isSecond h₁ (.inr (by omega))
      omega
    · simp [ih h]
  -- All other bytes are read as no character.
  | _ => simp_all

/-- A text that is read from bytes without a newline has none. -/
theorem newline_not_mem_decodeLossy {bytes : List UInt8} (h : 10 ∉ bytes) :
    '\n' ∉ decodeLossy bytes := by
  intro hmem
  obtain ⟨_ | c, hscan, hc⟩ := List.mem_map.mp hmem
  · cases hc
  · obtain rfl : c = '\n' := hc
    exact h (newline_mem_of_scan hscan)

end ConsoleKeeper.Text.Utf8
