import ConsoleKeeper.Text.Case

/-!
# `ConsoleKeeper.Proofs.Text.Case`: texts that are in small letters already

A text in small letters has no capitals, and none of the few signs whose small form is a Latin
letter (`settled_of_mem_lower`). So writing such a text in small letters again gives it back, if it
has plain characters only (`lower_eq_self`).
-/

set_option autoImplicit false

namespace ConsoleKeeper.Text

/-- A character that is neither a capital from A to Z nor the Kelvin sign, whose small form is the
letter k. -/
def Settled (c : Char) : Prop :=
  (c.toNat < 0x41 ∨ 0x5a < c.toNat) ∧ c.toNat ≠ 0x212a

instance (c : Char) : Decidable (Settled c) :=
  inferInstanceAs (Decidable (_ ∧ _))

/-- A character of the first 128. -/
def Plain (c : Char) : Prop :=
  c.toNat < 0x80

instance (c : Char) : Decidable (Plain c) :=
  inferInstanceAs (Decidable (_ < _))

/-- What holds of the characters of the first 128 one by one. -/
theorem forall_plain {p : Char → Prop} (h : ∀ n < 128, p (Char.ofNat n)) {c : Char}
    (hc : Plain c) : p c := by
  rw [← Char.ofNat_toNat c]
  exact h c.toNat hc

/-- A plain character is settled once it is made small. -/
theorem settled_toLower {c : Char} (hc : Plain c) : Settled c.toLower :=
  forall_plain (p := fun c => Settled c.toLower) (by decide +kernel) hc

/-- A plain character that is settled is small already. -/
theorem toLower_eq_self {c : Char} (hc : Plain c) (hsettled : Settled c) : c.toLower = c :=
  forall_plain (p := fun c => Settled c → c.toLower = c) (by decide +kernel) hc hsettled

/-- The small letters of a run lie behind the capitals from A to Z and beside the Kelvin sign. -/
theorem capitals_settled : ∀ run ∈ capitals, 0x5a < run.first + run.shift ∧
    (run.last + run.shift < 0x212a ∨ 0x212a < run.first + run.shift) := by
  decide +kernel

/-- The small letters of a run are characters behind the first 128, unless its capitals are plain
or it is the run of the Kelvin sign. -/
theorem capitals_not_plain : ∀ run ∈ capitals, run.last < 0x80 ∨
    run.first = 0x212a ∧ run.last = 0x212a ∨
    0x80 ≤ run.first + run.shift ∧
      (run.last + run.shift < 0xd800 ∨
        0xe000 ≤ run.first + run.shift ∧ run.last + run.shift < 0x110000) := by
  decide +kernel

/-- A valid number is the number of its character. -/
theorem toNat_ofNat_of_valid {n : Nat} (h : n.isValidChar) : (Char.ofNat n).toNat = n := by
  rw [Char.ofNat, dif_pos h]
  rfl

/-- A number is the code of the character made from it, which is the first of all if there is
none. -/
theorem toNat_ofNat_cases (n : Nat) : (Char.ofNat n).toNat = n ∨ (Char.ofNat n).toNat = 0 := by
  by_cases h : n.isValidChar
  · exact .inl (toNat_ofNat_of_valid h)
  · rw [Char.ofNat, dif_neg h]
    exact .inr rfl

variable {c d : Char} {run : CapitalRun}

/-- A capital lies between the ends of its run. -/
theorem ends_of_find? {n : Nat} (h : capitals.find? (·.has n) = some run) :
    run.first ≤ n ∧ n ≤ run.last := by
  have hhas : run.has n = true := (List.find?_eq_some_iff_append.mp h).1
  simp only [CapitalRun.has, Bool.and_eq_true, decide_eq_true_eq] at hhas
  exact hhas.1

/-- The small form of a letter is settled. -/
theorem settled_of_mem_lowerChar (h : d ∈ lowerChar c) : Settled d := by
  unfold lowerChar at h
  split at h
  · next hplain =>
    rw [List.mem_singleton.mp h]
    exact settled_toLower hplain
  · next hplain =>
    split at h
    · obtain rfl | rfl : d = 'i' ∨ d = '\u0307' := by simpa using h
      · decide
      · decide
    · split at h
      · next run hfind =>
        have hends := ends_of_find? hfind
        have hbeside := capitals_settled run (List.mem_of_find?_eq_some hfind)
        have hcode := toNat_ofNat_cases (c.toNat + run.shift).toNat
        rw [List.mem_singleton.mp h, Settled]
        omega
      · next hfind =>
        -- The Kelvin sign has a run, so it is not among the letters without one.
        have hkelvin : capitals.find? (·.has 0x212a) ≠ none := by decide +kernel
        rw [List.mem_singleton.mp h, Settled]
        refine ⟨by omega, fun hcode => hkelvin ?_⟩
        rwa [hcode] at hfind

/-- All characters are settled once a text is made small. -/
theorem settled_of_mem_lowerFrom {inWord : Bool} {s : List Char} (h : d ∈ lowerFrom inWord s) :
    Settled d := by
  induction s generalizing inWord with
  | nil => cases h
  | cons c rest ih =>
    rw [lowerFrom] at h
    obtain h | h := List.mem_append.mp h
    · split at h
      · rw [List.mem_singleton.mp h]
        decide
      · exact settled_of_mem_lowerChar h
    · exact ih h

/-- A text in small letters is settled. -/
theorem settled_of_mem_lower {s : List Char} (h : d ∈ lower s) : Settled d :=
  settled_of_mem_lowerFrom h

/-- A settled character with a plain small form is its own small form. -/
theorem lowerChar_eq_self (hc : Settled c) (hplain : ∀ d ∈ lowerChar c, Plain d) :
    lowerChar c = [c] := by
  have hsmall := hplain
  unfold lowerChar at hsmall ⊢
  split at hsmall
  · next h => rw [if_pos h, toLower_eq_self h hc]
  · next h =>
    rw [if_neg h]
    split at hsmall
    · exact absurd (hsmall '\u0307' (by simp)) (by decide)
    · next hdot =>
      rw [if_neg hdot]
      split at hsmall
      · next run hfind =>
        -- All other runs have small letters behind the first 128.
        have hends := ends_of_find? hfind
        have hruns := capitals_not_plain run (List.mem_of_find?_eq_some hfind)
        have hcode : (Char.ofNat (c.toNat + run.shift).toNat).toNat < 0x80 :=
          hsmall _ List.mem_cons_self
        rw [Settled] at hc
        have hvalid : (c.toNat + run.shift).toNat.isValidChar := by
          unfold Nat.isValidChar
          omega
        rw [toNat_ofNat_of_valid hvalid] at hcode
        omega
      · rfl

/-- A settled text that stays plain is left as it is. -/
theorem lowerFrom_eq_self {inWord : Bool} {s : List Char} (hs : ∀ c ∈ s, Settled c)
    (hplain : ∀ d ∈ lowerFrom inWord s, Plain d) : lowerFrom inWord s = s := by
  induction s generalizing inWord with
  | nil => rfl
  | cons c rest ih =>
    obtain ⟨hc, hrest⟩ := List.forall_mem_cons.mp hs
    rw [lowerFrom] at hplain ⊢
    obtain ⟨hfirst, hlater⟩ := List.forall_mem_append.mp hplain
    rw [ih hrest hlater]
    split at hfirst
    · exact absurd (hfirst 'ς' List.mem_cons_self) (by decide)
    · next hsigma => rw [if_neg hsigma, lowerChar_eq_self hc hfirst, List.singleton_append]

/-- A settled text is in small letters already if its small form is plain. -/
theorem lower_eq_self {s : List Char} (hs : ∀ c ∈ s, Settled c)
    (hplain : ∀ d ∈ lower s, Plain d) : lower s = s :=
  lowerFrom_eq_self hs hplain

end ConsoleKeeper.Text
