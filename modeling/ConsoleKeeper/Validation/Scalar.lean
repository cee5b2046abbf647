import ConsoleKeeper.Validation.Basic
import ConsoleKeeper.Text.Utf8

/-!
# `ConsoleKeeper.Validation.Scalar`: texts, truth values and numbers in a document

Settings come from files and from environment variables, where everything is text. So a truth value
or a number may also be written as a text. The readings here say which texts count.

* A truth value is one of a few words, in any case and without blanks around it.
* A whole number may have blanks around it, a sign, zeros in front, single underscores between
  digits, and a point with zeros behind it. It may not be longer than `wholeLimit`.
* A binary number may have blanks around it, or single underscores inside.
-/

set_option autoImplicit false

namespace ConsoleKeeper.Reading

/-- Reads a text. Bytes are read as the text they encode. -/
def text : Reading String
  | .text s => .ok s
  | .bytes bs =>
    match Text.Utf8.decode? bs with
    | some cs => .ok (String.ofList cs)
    | none => .fault .notUtf8
  | .brokenText => .fault .notUtf8
  | _ => .fault .notText

/-- The words that mean yes. -/
def yesWords : List String := ["1", "on", "t", "true", "y", "yes"]

/-- The words that mean no. -/
def noWords : List String := ["0", "off", "f", "false", "n", "no"]

/-- Reads a word as a truth value. -/
def boolWord (s : String) : Checked Bool :=
  let word := String.ofList (s.toList.map Char.toLower)
  if yesWords.contains word then .ok true
  else if noWords.contains word then .ok false
  else .fault .unreadableBool

/-- Reads a whole number as a truth value: one and zero. -/
def boolInt (n : Int) : Checked Bool :=
  if n = 1 then .ok true else if n = 0 then .ok false else .fault .unreadableBool

/-- The first number above those of 64 bits with a sign. -/
def wordBound : Int := 9223372036854775808

/-- Whether a whole number has 64 bits with its sign. -/
def isWord (n : Int) : Bool :=
  -wordBound ≤ n && n < wordBound

/-- The whole number that a binary number is, if it has 64 bits with its sign. The least of those is
left out, as the greatest is, which no binary number is. -/
def wordOf? (x : Binary64) : Option Int :=
  x.toInt?.filter fun n => -wordBound < n && n < wordBound

/-- Reads a truth value. -/
def bool : Reading Bool
  | .bool b => .ok b
  | .int n => if isWord n then boolInt n else .fault .notBool
  | .float x =>
    match wordOf? x with
    | some n => boolInt n
    | none => .fault .notBool
  | .text s => boolWord s
  | .bytes bs =>
    match Text.Utf8.decode? bs with
    | some cs => boolWord (String.ofList cs)
    | none => .fault .unreadableBool
  | .brokenText => .fault .notUtf8
  | _ => .fault .notBool

/-- How many characters a whole number may have when it is read from a text. -/
def wholeLimit : Nat := 4300

/-- Reads a whole number in its plain form: digits with no needless zero in front, and a minus
before them if it is negative. -/
def plainWhole (cs : List Char) : Checked Int :=
  let (negative, body) := match cs with
    | '-' :: rest => (true, rest)
    | _ => (false, cs)
  let digits := body.takeWhile Char.isDigit
  if digits.isEmpty || (digits.head? = some '0' && body.length ≠ 1) then .fault .unreadableInt
  else if wholeLimit < digits.length + (if negative then 1 else 0) then .fault .oversizedInt
  else if digits.length ≠ body.length then .fault .unreadableInt
  else
    let n : Int := digitsValue digits
    .ok (if negative then -n else n)

/-- Whether a character can be the first of a number without zeros in front. -/
def startsWhole (c : Char) : Bool :=
  ('1' ≤ c && c ≤ '9') || c = '-'

/-- A number without the zeros in front, behind the first of which underscores count as zeros do.
The last one, `zero`, stays if nothing or a point follows. -/
def dropZerosAfter (zero : Char) : List Char → Option (List Char)
  | [] => some [zero]
  | c :: rest =>
    if c = '0' || c = '_' then dropZerosAfter c rest
    else if startsWhole c then some (c :: rest)
    else if c = '.' then some (zero :: c :: rest)
    else none

/-- A number without the zeros in front. -/
def dropZeros : List Char → Option (List Char)
  | [] => none
  | c :: rest =>
    if c = '0' then dropZerosAfter c rest
    else if startsWhole c then some (c :: rest)
    else none

/-- A number without a point behind which there are zeros and nothing else. -/
def dropZeroFraction (cs : List Char) : List Char :=
  match Text.cutFirst '.' cs with
  | (whole, some zeros) => if !zeros.isEmpty && zeros.all (· = '0') then whole else cs
  | (_, none) => cs

/-- A number without its underscores, each of which stands between two digits; `digitBefore` says
whether one stands before the text. -/
def dropUnderscores (digitBefore : Bool) : List Char → Option (List Char)
  | [] => some []
  | c :: rest =>
    if c = '_' then
      if digitBefore && (rest.head?.map Char.isDigit).getD false then dropUnderscores false rest
      else none
    else (dropUnderscores c.isDigit rest).map (c :: ·)

/-- The plain form of a number that is written with blanks around it, a plus, zeros in front, zeros
behind a point, or underscores. -/
def tidied? (cs : List Char) : Option (List Char) := do
  let body := Text.trim Text.isBlank cs
  let unsigned ← match body with
    | '+' :: rest => if rest.head? = some '-' then none else some rest
    | _ => some body
  dropUnderscores false (dropZeroFraction (← dropZeros unsigned))

/-- Reads a whole number that is written as a text. -/
def intText (cs : List Char) : Checked Int :=
  match plainWhole cs with
  | .faulty [⟨[], .unreadableInt⟩] =>
    match tidied? cs with
    | some tidy => plainWhole tidy
    | none => .fault .unreadableInt
  | outcome => outcome

/-- Reads a whole number. -/
def int : Reading Int
  | .int n => .ok n
  | .bool b => .ok (if b then 1 else 0)
  | .float x =>
    match x, x.toInt? with
    -- A float without a fraction counts as that number if it fits a machine word.
    | _, some _ =>
      match wordOf? x with
      | some n => .ok n
      | none => .fault .oversizedInt
    | .finite _ _ _, none => .fault .fractionalInt
    | _, none => .fault .notFinite
  | .text s => intText s.toList
  | .bytes bs =>
    match Text.Utf8.decode? bs with
    | some cs => intText cs
    | none => .fault .unreadableInt
  | .brokenText => .fault .notUtf8
  | _ => .fault .notInt

/-- Reads a whole number with bounds, both of which belong to the range. -/
def intBetween (least most : Int) : Reading Int := fun value =>
  (int value).thenCheck fun n =>
    if n < least then .fault .tooSmall else if most < n then .fault .tooLarge else .ok n

/-- Whether an underscore follows another. -/
def hasDoubleUnderscore : List Char → Bool
  | '_' :: '_' :: _ => true
  | _ :: rest => hasDoubleUnderscore rest
  | [] => false

/-- A text without the single underscores inside it; nothing if there are none, or others. -/
def withoutUnderscores? (cs : List Char) : Option (List Char) :=
  if !cs.contains '_' || cs.head? = some '_' || cs.getLast? = some '_' || hasDoubleUnderscore cs
  then none
  else some (cs.filter (· ≠ '_'))

/-- Reads a binary number that is written as a text: with blanks around it, or with underscores in
it. -/
def floatText (cs : List Char) : Checked Binary64 :=
  match readDecimal? (Text.trim Text.isBlank cs) <|> (withoutUnderscores? cs).bind readDecimal? with
  | some x => .ok x
  | none => .fault .unreadableFloat

/-- Reads a binary number. -/
def float : Reading Binary64
  | .float x => .ok x
  | .int n =>
    match Binary64.ofInt n with
    | .infinite _ => .fault .notFloat
    | x => .ok x
  | .bool b => .ok (Binary64.ofInt (if b then 1 else 0))
  | .text s => floatText s.toList
  | .bytes bs =>
    match Text.Utf8.decode? bs with
    | some cs => floatText cs
    | none => .fault .unreadableFloat
  | .brokenText => .fault .notUtf8
  | _ => .fault .notFloat

/-- Reads a binary number above zero. -/
def positiveFloat : Reading Binary64 := fun value =>
  (float value).thenCheck fun x => if x.isPositive then .ok x else .fault .notGreater

/-- Reads one of a few words, or reports the fault. -/
def wordIn {α : Type} (find : String → Option α) (kind : FaultKind) : Reading α
  | .text s =>
    match find s with
    | some a => .ok a
    | none => .fault kind
  | .brokenText => .fault .notUtf8
  | _ => .fault kind

end ConsoleKeeper.Reading
