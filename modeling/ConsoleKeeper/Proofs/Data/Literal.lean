import Mathlib.Data.List.Infix
import ConsoleKeeper.Data.Basic

/-!
# `ConsoleKeeper.Proofs.Data.Literal`: what a literal shows of a text

A literal has printable characters only (`isPrintable_of_mem_literal`), so no text with another one
is a part of it. A text with nothing to escape stands in its literal as it is
(`IsShown.infix_literal`).

A list or a mapping of texts has the literals of its texts in it, with printable characters between
them. So the same goes for its literal.
-/

set_option autoImplicit false

namespace ConsoleKeeper

namespace Text

variable {c d quote : Char} {s front : List Char}

/-! ### Printable characters -/

/-- The characters of a fixed text are printable if a look at all of them says so. -/
theorem isPrintable_of_mem (hall : s.all isPrintable = true) (h : c ∈ s) : isPrintable c = true :=
  List.all_eq_true.mp hall c h

/-- Each of the sixteen digits is printable. -/
theorem isPrintable_hexDigit (n : Nat) : isPrintable (hexDigit (n % 16)) = true := by
  have hdigits : ∀ d < 16, isPrintable (hexDigit d) = true := by decide
  exact hdigits (n % 16) (Nat.mod_lt n (by decide))

/-- A number in hexadecimal is printable. -/
theorem isPrintable_of_mem_hexDigits {width n : Nat} (h : c ∈ hexDigits width n) :
    isPrintable c = true := by
  induction width generalizing n with
  | zero => cases h
  | succ width ih =>
    rw [hexDigits, List.mem_append, List.mem_singleton] at h
    obtain h | rfl := h
    · exact ih h
    · exact isPrintable_hexDigit n

/-- A backslash, a letter and digits are printable. -/
theorem isPrintable_of_mem_escape {letter : Char} (hletter : isPrintable letter = true)
    {width n : Nat} (h : c ∈ ['\\', letter] ++ hexDigits width n) : isPrintable c = true := by
  simp only [List.cons_append, List.nil_append, List.mem_cons] at h
  obtain rfl | rfl | h := h
  · decide
  · exact hletter
  · exact isPrintable_of_mem_hexDigits h

/-- What is written for a character is printable, if the quote is. -/
theorem isPrintable_of_mem_literalChar (hquote : isPrintable quote = true)
    (h : c ∈ literalChar quote d) : isPrintable c = true := by
  revert h
  unfold literalChar
  split_ifs with hescaped <;> intro h
  · simp only [Bool.or_eq_true, decide_eq_true_eq] at hescaped
    obtain rfl | h := List.mem_cons.mp h
    · decide
    · obtain rfl := List.mem_singleton.mp h
      obtain rfl | rfl := hescaped
      · exact hquote
      · decide
  · exact isPrintable_of_mem (by decide) h
  · exact isPrintable_of_mem (by decide) h
  · exact isPrintable_of_mem (by decide) h
  · rwa [List.mem_singleton.mp h]
  · exact isPrintable_of_mem_escape (by decide) h
  · exact isPrintable_of_mem_escape (by decide) h
  · exact isPrintable_of_mem_escape (by decide) h

/-- Either quote is printable. -/
theorem isPrintable_literalQuote (s : List Char) : isPrintable (literalQuote s) = true := by
  unfold literalQuote
  split <;> decide

/-- A literal is the characters of the text, each as it is written, between two quotes. -/
theorem literal_eq (s : List Char) :
    literal s = literalQuote s :: (s.flatMap (literalChar (literalQuote s)) ++ [literalQuote s]) :=
  rfl

/-- A literal has printable characters only. -/
theorem isPrintable_of_mem_literal (h : c ∈ literal s) : isPrintable c = true := by
  rw [literal_eq, List.mem_cons, List.mem_append, List.mem_flatMap, List.mem_singleton] at h
  obtain rfl | ⟨d, -, hd⟩ | rfl := h
  · exact isPrintable_literalQuote s
  · exact isPrintable_of_mem_literalChar (isPrintable_literalQuote s) hd
  · exact isPrintable_literalQuote s

/-! ### Texts that are shown as they are -/

/-- A text that a literal has nothing to escape of. -/
structure IsShown (s : List Char) : Prop where
  printable : ∀ c ∈ s, isPrintable c = true
  backslash : '\\' ∉ s
  /-- Some kind of quotes can go around the text. -/
  quotes : '\'' ∉ s ∨ '"' ∉ s

/-- The quote of the literal is not in the text. -/
theorem IsShown.literalQuote_notMem (h : IsShown s) : literalQuote s ∉ s := by
  unfold literalQuote
  split
  · next hdouble =>
    simp only [List.contains_eq_mem, Bool.and_eq_true, Bool.not_eq_true',
      decide_eq_false_iff_not] at hdouble
    exact hdouble.2
  · next hsingle =>
    intro hmem
    simp [hmem, h.quotes.resolve_left (not_not_intro hmem)] at hsingle

/-- A character that need not be escaped stands for itself. -/
theorem literalChar_eq_self (hquote : c ≠ quote) (hback : c ≠ '\\')
    (hprintable : isPrintable c = true) : literalChar quote c = [c] := by
  have hcontrol : c ≠ '\n' ∧ c ≠ '\r' ∧ c ≠ '\t' := by
    refine ⟨?_, ?_, ?_⟩ <;> rintro rfl <;> revert hprintable <;> decide
  simp [literalChar, hquote, hback, hcontrol, hprintable]

/-- Only the quotes of a text decide which one its literal uses. -/
theorem literalQuote_append (hsingle : '\'' ∉ front) (hdouble : '"' ∉ front) (s : List Char) :
    literalQuote (front ++ s) = literalQuote s := by
  simp [literalQuote, hsingle, hdouble]

/-- A text that is shown as it is stands in its literal, also behind something without quotes. -/
theorem IsShown.infix_literal (h : IsShown s) (hsingle : '\'' ∉ front) (hdouble : '"' ∉ front) :
    s <:+: literal (front ++ s) := by
  have hself : s.flatMap (literalChar (literalQuote s)) = s := by
    calc s.flatMap (literalChar (literalQuote s))
        = s.flatMap fun c => [c] := List.flatMap_congr fun c hc => by
          refine literalChar_eq_self ?_ ?_ (h.printable c hc)
          · rintro rfl
            exact h.literalQuote_notMem hc
          · rintro rfl
            exact h.backslash hc
      _ = s := List.flatMap_singleton' s
  rw [literal_eq, literalQuote_append hsingle hdouble, List.flatMap_append, hself]
  exact List.infix_cons (List.infix_append_of_infix_left (List.suffix_append _ s).isInfix)

end Text

namespace Data

variable {c : Char} {items : List Data}

/-! ### Lists and mappings of texts -/

/-- The literal of a list stands in brackets. -/
theorem literal_list (items : List Data) :
    (Data.list items).literal = '[' :: (literals items ++ [']']) := rfl

/-- The literal of a mapping stands in braces. -/
theorem literal_object (fields : Fields) :
    (Data.object fields).literal = '{' :: (entries fields ++ ['}']) := rfl

/-- Items are kept apart by a comma and a blank. -/
theorem literals_cons_cons (item next : Data) (items : List Data) :
    literals (item :: next :: items) =
      item.literal ++ ([',', ' '] ++ literals (next :: items)) := by
  rw [← List.append_assoc]
  rfl

/-- An entry is the literal of its name, a colon, and the literal of its value. -/
theorem entries_singleton (key : String) (value : Data) :
    entries [(key, value)] = Text.literal key.toList ++ ([':', ' '] ++ value.literal) := by
  rw [← List.append_assoc]
  rfl

/-- Entries are kept apart by a comma and a blank. -/
theorem entries_cons_cons (field next : String × Data) (fields : Fields) :
    entries (field :: next :: fields) =
      entries [field] ++ ([',', ' '] ++ entries (next :: fields)) := by
  rw [← List.append_assoc]
  rfl

/-- The items of a list are printable if each of them is. -/
theorem isPrintable_of_mem_literals
    (hitems : ∀ item ∈ items, ∀ c ∈ item.literal, Text.isPrintable c = true)
    (h : c ∈ literals items) : Text.isPrintable c = true := by
  induction items with
  | nil => cases h
  | cons item items ih =>
    have hitem := hitems item List.mem_cons_self
    -- The separator stands behind each item but the last.
    cases items with
    | nil => exact hitem c h
    | cons next items =>
      rw [literals_cons_cons, List.mem_append, List.mem_append] at h
      obtain h | h | h := h
      · exact hitem c h
      · exact Text.isPrintable_of_mem (by decide) h
      · exact ih (fun item hmem => hitems item (List.mem_cons_of_mem _ hmem)) h

/-- The literal of a list has those of its items in it. -/
theorem literal_infix_literals {item : Data} (h : item ∈ items) :
    item.literal <:+: literals items := by
  induction items with
  | nil => cases h
  | cons first items ih =>
    cases items with
    | nil =>
      rw [List.mem_singleton.mp h]
      exact List.infix_refl _
    | cons next items =>
      rw [literals_cons_cons]
      obtain rfl | h := List.mem_cons.mp h
      · exact (List.prefix_append _ _).isInfix
      · exact List.infix_append_of_infix_right (List.infix_append_of_infix_right (ih h))

/-- The literal of a list of texts is printable. -/
theorem isPrintable_of_mem_literal_texts {texts : List String}
    (h : c ∈ (Data.texts texts).literal) : Text.isPrintable c = true := by
  rw [Data.texts, literal_list, List.mem_cons, List.mem_append, List.mem_singleton] at h
  obtain rfl | h | rfl := h
  · decide
  · refine isPrintable_of_mem_literals ?_ h
    rintro item hitem c hc
    obtain ⟨text, -, rfl⟩ := List.mem_map.mp hitem
    exact Text.isPrintable_of_mem_literal hc
  · decide

/-- A list of texts has the literal of each of them in it. -/
theorem literal_infix_literal_texts {text : String} {texts : List String} (h : text ∈ texts) :
    Text.literal text.toList <:+: (Data.texts texts).literal := by
  have hitem := literal_infix_literals (List.mem_map_of_mem (f := Data.text) h)
  rw [Data.texts, literal_list]
  exact List.infix_cons (List.infix_append_of_infix_left hitem)

/-- The entries of a mapping are printable if their values are. -/
theorem isPrintable_of_mem_entries {fields : Fields}
    (hvalues : ∀ field ∈ fields, ∀ c ∈ field.2.literal, Text.isPrintable c = true)
    (h : c ∈ entries fields) : Text.isPrintable c = true := by
  induction fields with
  | nil => cases h
  | cons field fields ih =>
    have hfield (h : c ∈ entries [field]) : Text.isPrintable c = true := by
      rw [entries_singleton, List.mem_append, List.mem_append] at h
      obtain h | h | h := h
      · exact Text.isPrintable_of_mem_literal h
      · exact Text.isPrintable_of_mem (by decide) h
      · exact hvalues field List.mem_cons_self c h
    -- As for the items of a list, with the separator behind each field but the last.
    cases fields with
    | nil => exact hfield h
    | cons next fields =>
      rw [entries_cons_cons, List.mem_append, List.mem_append] at h
      obtain h | h | h := h
      · exact hfield h
      · exact Text.isPrintable_of_mem (by decide) h
      · exact ih (fun field hmem => hvalues field (List.mem_cons_of_mem _ hmem)) h

/-- The literal of a mapping is printable if its values are. -/
theorem isPrintable_of_mem_literal_object {fields : Fields}
    (hvalues : ∀ field ∈ fields, ∀ c ∈ field.2.literal, Text.isPrintable c = true)
    (h : c ∈ (Data.object fields).literal) : Text.isPrintable c = true := by
  rw [literal_object, List.mem_cons, List.mem_append, List.mem_singleton] at h
  obtain rfl | h | rfl := h
  · decide
  · exact isPrintable_of_mem_entries hvalues h
  · decide

end Data

end ConsoleKeeper
