import ConsoleKeeper.Command.Basic
import ConsoleKeeper.Proofs.Text.Replace

/-!
# `ConsoleKeeper.Proofs.Command.Words`: command lines read back

A command line is its words, quoted where they have to be. `split?_join` says that reading it gives
the words again, whatever characters they have.

A line in which something was masked is another matter: reading takes quotes away, and what was
apart can come together. `Tidy` describes the lines that quoting makes, character by character, and
allows for a star wherever a line can be cut. Masking keeps a line tidy as long as it takes no
single quote away (`Tidy.replaceAll`). Reading a tidy line brings nothing together but at a star or
a single quote: `infix_of_split?` says that a part of a word without these two is a part of the
line.

Quoting itself takes a single quote apart from what stands around it. `not_infix_join` says which
texts are on no command line, although the words may have them.
-/

set_option autoImplicit false

namespace ConsoleKeeper.Words

/-! ### Reading what was quoted -/

section Read

variable {c : Char} {s word rest : List Char}

/-- A character has no meaning to a shell where it stands outside quotes. -/
def IsOrdinary (c : Char) : Prop :=
  isGap c = false ∧ c ≠ '\'' ∧ c ≠ '"' ∧ c ≠ '\\'

/-- A character that needs no quotes means nothing to a shell. -/
theorem isOrdinary_of_isPlain (h : isPlain c = true) : IsOrdinary c := by
  refine ⟨?_, ?_, ?_, ?_⟩
  · rw [isGap, Bool.eq_false_iff]
    intro hgap
    simp only [Bool.or_eq_true, decide_eq_true_eq] at hgap
    obtain ((rfl | rfl) | rfl) | rfl := hgap <;> revert h <;> decide
  all_goals
    rintro rfl
    revert h
    decide

/-- The star means nothing to a shell that only splits words. -/
theorem isOrdinary_star : IsOrdinary '*' := by
  refine ⟨?_, ?_, ?_, ?_⟩ <;> decide

/-- An ordinary character is added to the open word. -/
theorem readFrom_bare_cons (h : IsOrdinary c) :
    readFrom .bare word (c :: rest) = readFrom .bare (c :: word) rest := by
  obtain ⟨hgap, hquote, hdouble, hback⟩ := h
  rw [readFrom]
  simp [hgap, hquote, hdouble, hback]

/-- An ordinary character behind a gap begins a word. -/
theorem readFrom_gap_cons (h : IsOrdinary c) :
    readFrom .gap word (c :: rest) = readFrom .bare [c] rest := by
  obtain ⟨hgap, hquote, hdouble, hback⟩ := h
  rw [readFrom]
  simp [hgap, hquote, hdouble, hback]

/-- Plain characters are read as they are. -/
theorem readFrom_plain (h : ∀ c ∈ s, isPlain c = true) (word rest : List Char) :
    readFrom .bare word (s ++ rest) = readFrom .bare (s.reverse ++ word) rest := by
  induction s generalizing word with
  | nil => rfl
  | cons c s ih =>
    rw [List.cons_append, readFrom_bare_cons (isOrdinary_of_isPlain (h c List.mem_cons_self)),
      ih fun d hd => h d (List.mem_cons_of_mem c hd)]
    simp

/-- What a wrapped word has between its quotes. -/
def inner (s : List Char) : List Char :=
  s.flatMap fun c => if c = '\'' then quotedQuote else [c]

/-- A wrapped text stands between single quotes. -/
theorem wrap_eq (s : List Char) : wrap s = '\'' :: (inner s ++ ['\'']) := rfl

/-- A quote inside is written as a quoted quote. -/
theorem inner_quote (s : List Char) : inner ('\'' :: s) = quotedQuote ++ inner s := rfl

/-- Any other character inside is written as it is. -/
theorem inner_cons (h : c ≠ '\'') (s : List Char) : inner (c :: s) = c :: inner s := by
  rw [inner, List.flatMap_cons, if_neg h]
  rfl

/-- What is between the quotes of a wrapped word is read as the word. -/
theorem readFrom_inner (s word rest : List Char) :
    readFrom .single word (inner s ++ rest) = readFrom .single (s.reverse ++ word) rest := by
  induction s generalizing word with
  | nil => rfl
  | cons c s ih =>
    by_cases hc : c = '\''
    · -- The quote goes by way of another kind of quotes.
      subst hc
      have hquote : readFrom .single word (quotedQuote ++ (inner s ++ rest)) =
          readFrom .single ('\'' :: word) (inner s ++ rest) := by
        simp [quotedQuote, readFrom, isGap]
      rw [inner_quote, List.append_assoc, hquote, ih]
      simp
    · rw [inner_cons hc, List.cons_append, readFrom, if_neg hc, ih]
      simp

/-- A quoted word is read as that word. -/
theorem readFrom_quote (w word rest : List Char) :
    readFrom .gap word (quote w ++ rest) = readFrom .bare w.reverse rest := by
  unfold quote
  split
  · -- A word without characters is written as two quotes, a plain one as it is, and any other
    -- between quotes.
    next hempty =>
    rw [List.isEmpty_iff.mp hempty]
    simp [readFrom, isGap]
  · next hfull =>
    split
    · next hplain =>
      obtain ⟨c, s, rfl⟩ := List.exists_cons_of_ne_nil (mt List.isEmpty_iff.mpr hfull)
      have hall : ∀ d ∈ c :: s, isPlain d = true := List.all_eq_true.mp hplain
      rw [List.cons_append, readFrom_gap_cons (isOrdinary_of_isPlain (hall c List.mem_cons_self)),
        readFrom_plain fun d hd => hall d (List.mem_cons_of_mem c hd)]
      simp
    · have hopen : readFrom .gap word (wrap w ++ rest) =
          readFrom .single [] (inner w ++ '\'' :: rest) := by
        simp [wrap_eq, readFrom, isGap]
      rw [hopen, readFrom_inner, readFrom, if_pos rfl, List.append_nil]

/-- A line of quoted words is read as those words. -/
theorem readFrom_intercalate (words : List (List Char)) (word : List Char) :
    readFrom .gap word (List.intercalate [' '] (words.map quote)) = some words := by
  induction words generalizing word with
  | nil => rfl
  | cons w words ih =>
    -- A blank ends each word but the last, which ends where the text does.
    cases words with
    | nil =>
      have hread := readFrom_quote w word []
      rw [List.append_nil] at hread
      rw [List.map_cons, List.map_nil, List.intercalate_singleton, hread, readFrom,
        List.reverse_reverse]
    | cons w' words =>
      rw [List.map_cons, List.map_cons, List.intercalate_cons_cons, List.append_assoc,
        readFrom_quote, List.singleton_append, ← List.map_cons, readFrom, if_pos (by decide), ih,
        List.reverse_reverse, Option.map_some]

/-- A line of words is the quoted words with blanks between them. -/
theorem toList_join (words : List String) :
    (join words).toList = List.intercalate [' '] ((words.map String.toList).map quote) := by
  rw [join, String.toList_ofList, List.map_map]
  rfl

/-- A command line is read as the words that it was made of. -/
theorem split?_join (words : List String) : split? (join words) = some words := by
  rw [split?, toList_join, readFrom_intercalate, Option.map_some, List.map_map]
  simp

end Read

/-! ### Tidy lines -/

/-- Where a line stands between two of its characters. -/
inductive Stand where
  /-- Between words, or behind a star. -/
  | between
  /-- In a word without quotes. -/
  | inWord
  /-- Between single quotes. -/
  | inQuotes
  /-- Behind a single quote that closes. -/
  | closed
  /-- Before the single quote that double quotes are to hold. -/
  | aside
  /-- Behind that quote. -/
  | asideQuote
  /-- Behind those double quotes. -/
  | asideClosed
  deriving DecidableEq, Repr

namespace Stand

/-- Outside all quotes. -/
def Outside : Stand → Prop
  | between | inWord | closed => True
  | _ => False

/-- Where a character stands that is not quoted. -/
def Loose : Stand → Prop
  | between | inWord => True
  | _ => False

end Stand

/-- The rest of a line of quoted words, from where it stands. A star may stand for a part of a line
that no single quote is in. -/
inductive Tidy : Stand → List Char → Prop where
  | nil {stand : Stand} (hstand : stand.Outside) : Tidy stand []
  | cut {stand : Stand} {c : Char} {s : List Char} (hstand : stand.Outside)
      (hc : isGap c = true ∨ c = '*') (h : Tidy .between s) : Tidy stand (c :: s)
  | loose {stand : Stand} {c : Char} {s : List Char} (hstand : stand.Loose) (hc : IsOrdinary c)
      (h : Tidy .inWord s) : Tidy stand (c :: s)
  | opened {s : List Char} (h : Tidy .inQuotes s) : Tidy .between ('\'' :: s)
  | quoted {c : Char} {s : List Char} (hc : c ≠ '\'') (h : Tidy .inQuotes s) :
      Tidy .inQuotes (c :: s)
  | close {s : List Char} (h : Tidy .closed s) : Tidy .inQuotes ('\'' :: s)
  | aside {s : List Char} (h : Tidy .aside s) : Tidy .closed ('"' :: s)
  | asideQuote {s : List Char} (h : Tidy .asideQuote s) : Tidy .aside ('\'' :: s)
  | asideClosed {s : List Char} (h : Tidy .asideClosed s) : Tidy .asideQuote ('"' :: s)
  | reopened {s : List Char} (h : Tidy .inQuotes s) : Tidy .asideClosed ('\'' :: s)

/-- A character that single quotes of a line have beside them: one where the line is cut, or the
double quote. -/
def IsEdge (c : Char) : Prop :=
  isGap c = true ∨ c = '*' ∨ c = '"'

instance : DecidablePred IsEdge := fun c =>
  inferInstanceAs (Decidable (isGap c = true ∨ c = '*' ∨ c = '"'))

/-- A single quote is no edge for another one. -/
theorem not_isEdge_quote : ¬IsEdge '\'' := by
  decide

/-- A single quote stands in the text, with no edge on either side of it. -/
def QuoteInside (s : List Char) : Prop :=
  ∃ front c d back, s = front ++ c :: '\'' :: d :: back ∧ ¬IsEdge c ∧ ¬IsEdge d

namespace Tidy

variable {stand : Stand} {c : Char} {s rest needle : List Char}

/-- Plain characters are part of a word. -/
theorem plain_append (h : ∀ c ∈ s, isPlain c = true) (hrest : Tidy .inWord rest) :
    Tidy .inWord (s ++ rest) := by
  induction s with
  | nil => exact hrest
  | cons c s ih =>
    exact .loose trivial (isOrdinary_of_isPlain (h c List.mem_cons_self))
      (ih fun d hd => h d (List.mem_cons_of_mem c hd))

/-- What is written between quotes is tidy up to what follows it there. -/
theorem inner_append (s : List Char) (hrest : Tidy .inQuotes rest) :
    Tidy .inQuotes (inner s ++ rest) := by
  induction s with
  | nil => exact hrest
  | cons c s ih =>
    by_cases hc : c = '\''
    · subst hc
      exact .close (.aside (.asideQuote (.asideClosed (.reopened ih))))
    · rw [inner_cons hc]
      exact .quoted hc ih

/-- A quoted word is tidy, wherever it can end. -/
theorem quote_append (w : List Char) (hrest : ∀ stand : Stand, stand.Outside → Tidy stand rest) :
    Tidy .between (quote w ++ rest) := by
  -- The three ways to write a word leave the reader between words, in a word, or behind a closed
  -- quote, so the rest must be tidy from each of them.
  unfold quote
  split
  · exact .opened (.close (hrest .closed trivial))
  · next hfull =>
    split
    · next hplain =>
      obtain ⟨c, s, rfl⟩ := List.exists_cons_of_ne_nil (mt List.isEmpty_iff.mpr hfull)
      have hall : ∀ d ∈ c :: s, isPlain d = true := List.all_eq_true.mp hplain
      exact .loose trivial (isOrdinary_of_isPlain (hall c List.mem_cons_self))
        (plain_append (fun d hd => hall d (List.mem_cons_of_mem c hd)) (hrest .inWord trivial))
    · rw [wrap_eq, List.cons_append, List.append_assoc]
      exact .opened (inner_append w (.close (hrest .closed trivial)))

/-- A line of quoted words is tidy. -/
theorem intercalate_quote (words : List (List Char)) :
    Tidy .between (List.intercalate [' '] (words.map quote)) := by
  induction words with
  | nil => exact .nil trivial
  | cons w words ih =>
    cases words with
    | nil =>
      rw [List.map_cons, List.map_nil, List.intercalate_singleton, ← List.append_nil (quote w)]
      exact quote_append w fun stand hstand => .nil hstand
    | cons w' words =>
      rw [List.map_cons, List.map_cons, List.intercalate_cons_cons, List.append_assoc,
        ← List.map_cons]
      exact quote_append w fun stand hstand => .cut hstand (.inl (by decide)) ih

/-- A line of quoted words is tidy from its start. -/
theorem join (words : List String) : Tidy .between (Words.join words).toList := by
  rw [toList_join]
  exact intercalate_quote _

/-- What a tidy line ends with is tidy from where it stands. -/
theorem of_append_right {front : List Char} (h : Tidy stand (front ++ s)) :
    ∃ stand, Tidy stand s := by
  induction front generalizing stand with
  | nil => exact ⟨stand, h⟩
  | cons c front ih =>
    cases h with
    | cut _ _ h | loose _ _ h => exact ih h
    | quoted _ h => exact ih h
    | opened h | close h | reopened h => exact ih h
    | aside h | asideQuote h | asideClosed h => exact ih h

/-- The single quote that double quotes are to hold comes next. -/
theorem of_aside (h : Tidy .aside s) : ∃ more, s = '\'' :: more ∧ Tidy .asideQuote more := by
  cases h with
  | asideQuote h => exact ⟨_, rfl, h⟩
  | nil hstand | cut hstand | loose hstand => cases hstand

/-- The quotes that hold a single quote are closed behind it. -/
theorem of_asideQuote (h : Tidy .asideQuote s) :
    ∃ more, s = '"' :: more ∧ Tidy .asideClosed more := by
  cases h with
  | asideClosed h => exact ⟨_, rfl, h⟩
  | nil hstand | cut hstand | loose hstand => cases hstand

/-- The word goes on between single quotes. -/
theorem of_asideClosed (h : Tidy .asideClosed s) :
    ∃ more, s = '\'' :: more ∧ Tidy .inQuotes more := by
  cases h with
  | reopened h => exact ⟨_, rfl, h⟩
  | nil hstand | cut hstand | loose hstand => cases hstand

/-- Behind a closing quote the line is cut, or double quotes follow. -/
theorem of_closed (h : Tidy .closed (c :: s)) : IsEdge c := by
  cases h with
  | cut _ hc _ => exact hc.imp_right .inl
  | aside _ => exact .inr (.inr rfl)
  | loose hstand => cases hstand

/-- A single quote between quotes closes them. -/
theorem of_inQuotes (h : Tidy .inQuotes ('\'' :: s)) : Tidy .closed s := by
  cases h with
  | close h => exact h
  | quoted hc => exact absurd rfl hc
  | cut hstand | loose hstand => cases hstand

/-- No single quote comes next in a word without quotes. -/
theorem not_inWord_quote : ¬Tidy .inWord ('\'' :: s) := by
  intro h
  cases h with
  | cut _ hc _ => revert hc; decide
  | loose _ hc _ => exact hc.2.1 rfl

/-- A single quote opens a word, closes one, or stands between double quotes. -/
theorem isEdge_beside_quote {d : Char} (h : Tidy stand (c :: '\'' :: d :: s)) :
    IsEdge c ∨ IsEdge d := by
  -- A quote opens, closes, or stands between double quotes; the character next to it tells
  -- which.
  cases h with
  | cut _ hc _ => exact .inl (hc.imp_right .inl)
  | loose _ _ h => exact absurd h not_inWord_quote
  | opened h => exact .inr h.of_inQuotes.of_closed
  | quoted _ h => exact .inr h.of_inQuotes.of_closed
  | close h => exact absurd h.of_closed not_isEdge_quote
  | aside _ => exact .inl (.inr (.inr rfl))
  | asideQuote h =>
    obtain ⟨more, hmore, -⟩ := h.of_asideQuote
    cases hmore
  | asideClosed _ => exact .inl (.inr (.inr rfl))
  | reopened h => exact .inr h.of_inQuotes.of_closed

/-! ### Masking a tidy line -/

/-- Where a word goes on, another may begin. -/
theorem between (h : Tidy .inWord s) : Tidy .between s := by
  cases h with
  | nil => exact .nil trivial
  | cut _ hc h => exact .cut trivial hc h
  | loose _ hc h => exact .loose trivial hc h

/-- Between quotes, any part without a quote can be left out. -/
theorem of_quoted_append (h : Tidy .inQuotes (needle ++ s)) (hquote : '\'' ∉ needle) :
    Tidy .inQuotes s := by
  induction needle with
  | nil => exact h
  | cons c needle ih =>
    obtain ⟨hc, hneedle⟩ := not_or.mp (mt List.mem_cons.mpr hquote)
    cases h with
    | quoted _ h => exact ih h hneedle
    | close h => exact absurd rfl hc
    | cut hstand | loose hstand => cases hstand

/-- A part without a quote that begins outside quotes ends there. -/
theorem of_loose_append (h : Tidy stand (needle ++ s)) (hstand : stand.Loose)
    (hquote : '\'' ∉ needle) : Tidy .between s := by
  -- Without a single quote in it, the needle cannot lead out of the loose stands.
  induction needle generalizing stand with
  | nil =>
    cases stand with
    | between => exact h
    | inWord => exact h.between
    | _ => cases hstand
  | cons c needle ih =>
    obtain ⟨hc, hneedle⟩ := not_or.mp (mt List.mem_cons.mpr hquote)
    cases h with
    | cut _ _ h => exact ih h trivial hneedle
    | loose _ _ h => exact ih h trivial hneedle
    | opened h => exact absurd rfl hc
    | _ => cases hstand

/-- A part that can be masked has no single quote, and it is not the double quote that holds one. -/
structure IsMaskable (needle : List Char) : Prop where
  full : needle ≠ []
  quote : '\'' ∉ needle
  double : needle ≠ ['"']

/-- A part that can be masked has both its ends between the same quotes, or both outside of all. -/
theorem of_append (hneedle : IsMaskable needle) (h : Tidy stand (needle ++ s)) :
    stand.Outside ∧ Tidy .between s ∨ stand = .inQuotes ∧ Tidy .inQuotes s := by
  obtain ⟨hfull, hquote, hdouble⟩ := hneedle
  obtain ⟨c, needle, rfl⟩ := List.exists_cons_of_ne_nil hfull
  obtain ⟨hc, hrest⟩ := not_or.mp (mt List.mem_cons.mpr hquote)
  -- A double quote that holds a single one would be all of the part: single ones are next to it.
  have hsingle (more : List Char) (hmore : needle ++ s = '\'' :: more) : needle = [] := by
    cases needle with
    | nil => rfl
    | cons d needle =>
      obtain ⟨rfl, -⟩ := List.cons.inj hmore
      exact absurd List.mem_cons_self hrest
  cases h with
  | cut hstand _ h => exact .inl ⟨hstand, h.of_loose_append trivial hrest⟩
  | loose hstand _ h =>
    refine .inl ⟨?_, h.of_loose_append trivial hrest⟩
    cases stand <;> trivial
  | quoted _ h => exact .inr ⟨rfl, h.of_quoted_append hrest⟩
  | aside h =>
    obtain ⟨more, hmore, -⟩ := h.of_aside
    rw [hsingle more hmore] at hdouble
    exact absurd rfl hdouble
  | asideClosed h =>
    obtain ⟨more, hmore, -⟩ := h.of_asideClosed
    rw [hsingle more hmore] at hdouble
    exact absurd rfl hdouble
  | opened | close | asideQuote | reopened => exact absurd rfl hc

/-- Stars can be put wherever a part can be masked. -/
theorem replicate_append (n : Nat) (h : stand.Outside ∧ Tidy .between s ∨
    stand = .inQuotes ∧ Tidy .inQuotes s) :
    Tidy stand (List.replicate (n + 1) '*' ++ s) := by
  induction n generalizing stand with
  | zero =>
    obtain ⟨hstand, h⟩ | ⟨rfl, h⟩ := h
    · exact .cut hstand (.inr rfl) h
    · exact .quoted (by decide) h
  | succ n ih =>
    obtain ⟨hstand, h⟩ | ⟨rfl, h⟩ := h
    · exact .cut hstand (.inr rfl) (ih (.inl ⟨trivial, h⟩))
    · exact .quoted (by decide) (ih (.inr ⟨rfl, h⟩))

/-- Masking keeps a line tidy. -/
theorem replaceAll (hneedle : IsMaskable needle) (h : Tidy stand s) :
    Tidy stand (Text.replaceAll needle Command.mask.toList s) := by
  have hmask : Command.mask.toList = List.replicate 5 '*' := by decide
  -- The line is followed as the search goes through it, from wherever it stands.
  induction s using Text.replaceAll_induction hneedle.full generalizing stand with
  | nil => exact h
  | found s ih =>
    rw [Text.replaceAll_append hneedle.full, hmask]
    refine replicate_append 4 ((of_append hneedle h).imp ?_ ?_)
    · exact fun hend => ⟨hend.1, hmask ▸ ih hend.2⟩
    · exact fun hend => ⟨hend.1, hmask ▸ ih hend.2⟩
  | other c s hfront ih =>
    rw [Text.replaceAll_cons hfront]
    cases h with
    | cut hstand hc h => exact .cut hstand hc (ih h)
    | loose hstand hc h => exact .loose hstand hc (ih h)
    | opened h => exact .opened (ih h)
    | quoted hc h => exact .quoted hc (ih h)
    | close h => exact .close (ih h)
    | aside h => exact .aside (ih h)
    | asideQuote h => exact .asideQuote (ih h)
    | asideClosed h => exact .asideClosed (ih h)
    | reopened h => exact .reopened (ih h)

end Tidy

/-- Quoting takes a text apart that has a single quote inside. -/
theorem not_infix_join {s : List Char} (h : QuoteInside s) (words : List String) :
    ¬s <:+: (join words).toList := by
  obtain ⟨front, c, d, back, rfl, hc, hd⟩ := h
  rintro ⟨before, after, hline⟩
  have htidy := Tidy.join words
  rw [← hline, ← List.append_assoc before front, List.append_assoc] at htidy
  obtain ⟨stand, hquote⟩ := htidy.of_append_right
  exact hquote.isEdge_beside_quote.elim hc hd

/-! ### Reading a tidy line -/

section ReadTidy

variable {c : Char} {s word text needle : List Char} {stand : Stand} {mode : Mode}

/-- What reading does not bring together: the star and the single quote. -/
def IsStop (c : Char) : Prop :=
  c = '*' ∨ c = '\''

/-- All parts of the word, apart from those with stops in them, are parts of the text. -/
def Found (text word : List Char) : Prop :=
  ∀ needle, needle ≠ [] → (∀ c, IsStop c → c ∉ needle) → needle <:+: word → needle <:+: text

/-- Nothing is found of an empty word. -/
theorem Found.nil (text : List Char) : Found text [] :=
  fun _ hne _ hpart => absurd (List.infix_nil.mp hpart) hne

/-- More text does not hide what was found. -/
theorem Found.append (h : Found text word) (more : List Char) : Found (text ++ more) word :=
  fun needle hne hstop hpart => List.infix_append_of_infix_left (h needle hne hstop hpart)

/-- A stop brings no part into being. -/
theorem Found.stop (h : Found text word) (hc : IsStop c) : Found text (word ++ [c]) := by
  intro needle hne hstop hpart
  rw [← List.append_nil [c]] at hpart
  obtain hword | hnil := Text.infix_of_infix_append_append hne (List.cons_ne_nil c [])
    (by simpa using hstop c hc) hpart
  · exact h needle hne hstop hword
  · exact absurd (List.infix_nil.mp hnil) hne

/-- The open word of a reading, of which the text so far ends with all that stands behind the last
stop. -/
structure Attached (text word : List Char) : Prop where
  found : Found text word
  ends : ∃ done kept, word = done ++ kept ∧ kept <:+ text ∧
    (done = [] ∨ ∃ front stop, done = front ++ [stop] ∧ IsStop stop)

/-- An empty word. -/
theorem Attached.nil (text : List Char) : Attached text [] :=
  ⟨.nil text, [], [], rfl, List.nil_suffix, .inl rfl⟩

/-- A word that ends with a stop. -/
theorem Found.attached (h : Found text word)
    (hlast : ∃ stop, word.getLast? = some stop ∧ IsStop stop) : Attached text word := by
  obtain ⟨stop, hlast, hstop⟩ := hlast
  obtain ⟨front, rfl⟩ := List.getLast?_eq_some_iff.mp hlast
  exact ⟨h, _, [], (List.append_nil _).symm, List.nil_suffix, .inr ⟨front, stop, rfl, hstop⟩⟩

/-- A character that the text and the word get both. -/
theorem Attached.snoc (h : Attached text word) (c : Char) :
    Attached (text ++ [c]) (word ++ [c]) := by
  -- `kept` is the end of the word that has been copied from the text, and grows by `c`. A needle
  -- in the longer word is in it, or was in the shorter word before its last stop.
  obtain ⟨hfound, done, kept, rfl, hkept, hdone⟩ := h
  have hend : kept ++ [c] <:+ text ++ [c] := by
    obtain ⟨front, rfl⟩ := hkept
    exact ⟨front, (List.append_assoc front kept [c]).symm⟩
  refine ⟨?_, done, kept ++ [c], List.append_assoc done kept [c], hend, hdone⟩
  intro needle hne hstop hpart
  rw [List.append_assoc] at hpart
  obtain rfl | ⟨front, stop, rfl, hc⟩ := hdone
  · exact hpart.trans hend.isInfix
  · rw [List.append_assoc] at hpart
    obtain hfront | hlater := Text.infix_of_infix_append_append hne (List.cons_ne_nil stop [])
      (by simpa using hstop stop hc) hpart
    · have hword : needle <:+: front ++ [stop] ++ kept := by
        rw [List.append_assoc]
        exact List.infix_append_of_infix_left hfront
      exact List.infix_append_of_infix_left (hfound needle hne hstop hword)
    · exact hlater.trans hend.isInfix

/-- How far a reading has come where a line stands, with the text so far; the open word is in
reverse. -/
inductive Reached (text : List Char) : Stand → Mode → List Char → Prop where
  | gap (word : List Char) : Reached text .between .gap word
  | starred {word : List Char} (h : Found text word.reverse) (hlast : word.head? = some '*') :
      Reached text .between .bare word
  | inWord {word : List Char} (h : Attached text word.reverse) : Reached text .inWord .bare word
  | inQuotes {word : List Char} (h : Attached text word.reverse) :
      Reached text .inQuotes .single word
  | closed {word : List Char} (h : Found text word.reverse) : Reached text .closed .bare word
  | aside {word : List Char} (h : Found text word.reverse) : Reached text .aside .double word
  | asideQuote {word : List Char} (h : Found text word.reverse) (hlast : word.head? = some '\'') :
      Reached text .asideQuote .double word
  | asideClosed {word : List Char} (h : Found text word.reverse) (hlast : word.head? = some '\'') :
      Reached text .asideClosed .bare word

/-- Outside quotes there is no word yet, or one that is found. -/
theorem Reached.outside (h : Reached text stand mode word) (hstand : stand.Outside) :
    mode = .gap ∨ mode = .bare ∧ Found text word.reverse := by
  cases h with
  | gap => exact .inl rfl
  | starred h | closed h => exact .inr ⟨rfl, h⟩
  | inWord h => exact .inr ⟨rfl, h.found⟩
  | _ => cases hstand

/-! The open word is kept in reverse, so it grows and ends at its front. -/

/-- A word that ends with a stop is attached to any text in which it was found. -/
theorem Found.attached_reverse (h : Found text word.reverse) (hlast : word.head? = some c)
    (hc : IsStop c) : Attached text word.reverse :=
  h.attached ⟨c, by rw [List.getLast?_reverse, hlast], hc⟩

/-- A stop adds nothing that has to be found. -/
theorem Found.stop_reverse (h : Found text word.reverse) (hc : IsStop c) :
    Found text (c :: word).reverse := by
  rw [List.reverse_cons]
  exact h.stop hc

/-- A character that goes both to the text and to the open word keeps the word attached. -/
theorem Attached.snoc_reverse (h : Attached text word.reverse) (c : Char) :
    Attached (text ++ [c]) (c :: word).reverse := by
  rw [List.reverse_cons]
  exact h.snoc c

/-- Found words stay found as the text goes on, and so do those that are read after. -/
theorem found_of_readFrom (h : Tidy stand s) (hreached : Reached text stand mode word)
    {words : List (List Char)} (hread : readFrom mode word s = some words) :
    ∀ w ∈ words, Found (text ++ s) w := by
  -- The induction is along the line. Each character takes the stand of the line and the mode of the
  -- reading one step further, and what `Reached` says of the open word goes with them.
  induction h generalizing text mode word words with
  | nil hstand =>
    obtain rfl | ⟨rfl, hfound⟩ := hreached.outside hstand
    · obtain rfl : [] = words := by simpa [readFrom] using hread
      nofun
    · obtain rfl : [word.reverse] = words := by simpa [readFrom] using hread
      intro w hw
      rw [List.mem_singleton.mp hw]
      exact hfound.append []
  | @cut stand c s hstand hc _ ih =>
    rw [List.append_cons]
    obtain rfl | ⟨rfl, hfound⟩ := hreached.outside hstand
    · obtain hc | rfl := hc
      · rw [readFrom, if_pos hc] at hread
        exact ih (.gap word) hread
      · rw [readFrom_gap_cons isOrdinary_star] at hread
        exact ih (.starred ((Found.nil _).stop (.inl rfl)) rfl) hread
    · obtain hc | rfl := hc
      · -- The word ends here, and the others are still to be read.
        rw [readFrom, if_pos hc, Option.map_eq_some_iff] at hread
        obtain ⟨others, hothers, rfl⟩ := hread
        intro w hw
        obtain rfl | hw := List.mem_cons.mp hw
        · exact (hfound.append [c]).append s
        · exact ih (.gap []) hothers w hw
      · rw [readFrom_bare_cons isOrdinary_star] at hread
        exact ih (.starred ((hfound.append _).stop_reverse (.inl rfl)) rfl) hread
  | @loose stand c s hstand hc _ ih =>
    rw [List.append_cons]
    cases hreached with
    | gap =>
      rw [readFrom_gap_cons hc] at hread
      have hempty : Attached text ([] : List Char).reverse := .nil text
      exact ih (.inWord (hempty.snoc_reverse c)) hread
    | starred hfound hlast =>
      rw [readFrom_bare_cons hc] at hread
      have hattached := hfound.attached_reverse hlast (.inl rfl)
      exact ih (.inWord (hattached.snoc_reverse c)) hread
    | inWord hattached =>
      rw [readFrom_bare_cons hc] at hread
      exact ih (.inWord (hattached.snoc_reverse c)) hread
    | _ => cases hstand
  | opened _ ih =>
    -- Quotes can open behind a star: reading joins what was masked with what they hold.
    rw [List.append_cons]
    cases hreached with
    | gap => exact ih (.inQuotes (Attached.nil _)) hread
    | starred hfound hlast =>
      exact ih (.inQuotes ((hfound.append _).attached_reverse hlast (.inl rfl))) hread
  | @quoted c s hc _ ih =>
    rw [List.append_cons]
    cases hreached with
    | inQuotes hattached =>
      rw [readFrom, if_neg hc] at hread
      exact ih (.inQuotes (hattached.snoc_reverse c)) hread
  | close _ ih =>
    rw [List.append_cons]
    cases hreached with
    | inQuotes hattached => exact ih (.closed (hattached.found.append _)) hread
  | aside _ ih =>
    rw [List.append_cons]
    cases hreached with
    | closed hfound => exact ih (.aside (hfound.append _)) hread
  | asideQuote _ ih =>
    rw [List.append_cons]
    cases hreached with
    | aside hfound =>
      exact ih (.asideQuote ((hfound.append _).stop_reverse (.inr rfl)) rfl) hread
  | asideClosed _ ih =>
    rw [List.append_cons]
    cases hreached with
    | asideQuote hfound hlast => exact ih (.asideClosed (hfound.append _) hlast) hread
  | reopened _ ih =>
    rw [List.append_cons]
    cases hreached with
    | asideClosed hfound hlast =>
      exact ih (.inQuotes ((hfound.append _).attached_reverse hlast (.inr rfl))) hread

/-- A part of a word without stars and single quotes is a part of the tidy line. -/
theorem infix_of_split? {line : String} {words : List String} (htidy : Tidy .between line.toList)
    (hread : split? line = some words) (hne : needle ≠ []) (hstop : ∀ c, IsStop c → c ∉ needle)
    {w : String} (hw : w ∈ words) (hpart : needle <:+: w.toList) : needle <:+: line.toList := by
  rw [split?, Option.map_eq_some_iff] at hread
  obtain ⟨read, hread, rfl⟩ := hread
  obtain ⟨word, hword, rfl⟩ := List.mem_map.mp hw
  rw [String.toList_ofList] at hpart
  have hstart : Reached [] .between .gap [] := .gap []
  exact found_of_readFrom htidy hstart hread word hword needle hne hstop hpart

end ReadTidy

/-! ### The characters of what is read -/

/-- Reading makes no characters: those of a word are of the open word or the line, apart from a
backslash that was read last. -/
theorem mem_of_mem_readFrom {mode : Mode} {word s : List Char} {words : List (List Char)}
    (hread : readFrom mode word s = some words) {w : List Char} (hw : w ∈ words) {c : Char}
    (hc : c ∈ w) : c ∈ word ∨ c ∈ s ∨ mode = .doubleEscaped ∧ c = '\\' := by
  fun_induction readFrom mode word s generalizing words
  case case9 word d rest hgap ih =>
    -- The open word is one of those read, and the next one begins with nothing.
    obtain ⟨others, hothers, rfl⟩ := Option.map_eq_some_iff.mp hread
    obtain rfl | hw := List.mem_cons.mp hw
    · exact .inl (List.mem_reverse.mp hc)
    · grind
  all_goals grind

/-- The characters of a word are those of the line. -/
theorem mem_of_mem_split? {line w : String} {words : List String} (hread : split? line = some words)
    (hw : w ∈ words) {c : Char} (hc : c ∈ w.toList) : c ∈ line.toList := by
  rw [split?, Option.map_eq_some_iff] at hread
  obtain ⟨read, hread, rfl⟩ := hread
  obtain ⟨word, hword, rfl⟩ := List.mem_map.mp hw
  rw [String.toList_ofList] at hc
  obtain hnil | hline | ⟨hmode, -⟩ := mem_of_mem_readFrom hread hword hc
  · cases hnil
  · exact hline
  · cases hmode

end ConsoleKeeper.Words
