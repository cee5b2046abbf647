import ConsoleKeeper.Yaml.Number
import ConsoleKeeper.Yaml.Time

/-!
# `ConsoleKeeper.Yaml.Tag`: what the parts of a document are

A tag says what a part of a document is. A plain scalar without one is what its text looks like:
nothing, a truth value, a number, a time, or a text. The forms are those of version 1.1 of the
format. Whole numbers may be written in bases two, eight and sixteen, and numbers in parts of sixty
as `1:30`. Underscores between digits mean nothing.
-/

set_option autoImplicit false

namespace ConsoleKeeper.Yaml

/-- What a part of a document is. -/
inductive Tag where
  | null
  | bool
  | int
  | float
  | time
  | text
  | binary
  | list
  | mapping
  | set
  /-- A list of mappings with one pair each. -/
  | pairs
  /-- The key under which other mappings are merged in. -/
  | merge
  /-- The key of a mapping's own value. -/
  | own
  /-- Something that has no value here. -/
  | unknown
  deriving DecidableEq, Repr, Inhabited

namespace Tag

/-- Where the usual tags start. -/
def usualStart : String := "tag:yaml.org,2002:"

/-- What the usual tags mean, without their common start. -/
def usual : List (String × Tag) :=
  [("null", null), ("bool", bool), ("int", int), ("float", float), ("timestamp", time),
    ("str", text), ("binary", binary), ("seq", list), ("map", mapping), ("set", set),
    ("omap", pairs), ("pairs", pairs), ("merge", merge), ("value", own)]

/-- What a written tag means. -/
def ofName (name : String) : Tag :=
  ((List.isPrefixOf? usualStart.toList name.toList).bind fun short =>
    usual.lookup (String.ofList short)).getD unknown

/-- Whether a part is made of others, so that it cannot be the key of a mapping. -/
def isCollection : Tag → Bool
  | list | mapping | set | pairs => true
  | _ => false

end Tag

/-- The words for truth values. -/
def boolWords : List (String × Bool) :=
  [("yes", true), ("no", false), ("true", true), ("false", false), ("on", true), ("off", false)]

/-- A word in small letters, if it is in small letters, in capitals, or begins with one capital. -/
def plainWord? (cs : List Char) : Option String :=
  let small := cs.map Char.toLower
  let capital := cs.map Char.toUpper
  let titled := match cs with
    | c :: rest => c.toUpper :: rest.map Char.toLower
    | [] => []
  if cs = small || cs = capital || cs = titled then some (String.ofList small) else none

/-- The truth value of a word that a plain scalar may be. -/
def boolWord? (cs : List Char) : Option Bool :=
  (plainWord? cs).bind fun word => boolWords.lookup word

/-- Whether all characters are digits or underscores, the first one a digit. -/
def isDigitRun : List Char → Bool
  | [] => false
  | c :: rest => c.isDigit && rest.all fun c => c.isDigit || c = '_'

/-- Whether a text is one digit, or two of which the first is below six. -/
def isSixtieth : List Char → Bool
  | [a] => a.isDigit
  | [a, b] => a.isDigit && b.isDigit && decide (a.toNat < '6'.toNat)
  | _ => false

/-- A text without a sign in front. -/
def dropSign (cs : List Char) : List Char :=
  (takeSign cs).2

/-- Whether a text looks like a whole number. -/
def looksWhole (cs : List Char) : Bool :=
  match dropSign cs with
  | '0' :: 'b' :: ds => !ds.isEmpty && ds.all fun c => c = '0' || c = '1' || c = '_'
  | '0' :: 'x' :: ds =>
    !ds.isEmpty && ds.all fun c =>
      c.isDigit || c = '_' || ('a' ≤ c && c ≤ 'f') || ('A' ≤ c && c ≤ 'F')
  | '0' :: ds => ds.all fun c => ('0' ≤ c && c ≤ '7') || c = '_'
  | ds =>
    match Text.splitOn ':' ds with
    | first :: sixtieths => isDigitRun first && sixtieths.all isSixtieth
    | [] => false

/-- Whether a text is an exponent with its sign, or empty. -/
def isPower : List Char → Bool
  | [] => true
  | e :: sign :: ds => (e = 'e' || e = 'E') && (sign = '+' || sign = '-') && isDigits ds
  | _ => false

/-- Whether what follows a point is digits, underscores, and an exponent. -/
def isFraction (cs : List Char) : Bool :=
  isPower (cs.dropWhile fun c => c.isDigit || c = '_')

/-- Whether a text is a word for infinity. -/
def isInfinity (cs : List Char) : Bool :=
  cs = ".inf".toList || cs = ".Inf".toList || cs = ".INF".toList

/-- Whether a text is a word for what is no number. -/
def isNoNumber (cs : List Char) : Bool :=
  cs = ".nan".toList || cs = ".NaN".toList || cs = ".NAN".toList

/-- Whether a text looks like a number with a point. A number that starts with the point has no
sign. -/
def looksBinary (cs : List Char) : Bool :=
  isInfinity (dropSign cs) || isNoNumber cs ||
  match cs with
  | '.' :: rest => (rest.head?.map Char.isDigit).getD false && isFraction rest
  | _ =>
    match Text.cutFirst '.' (dropSign cs) with
    | (whole, some part) =>
      match Text.splitOn ':' whole with
      | [first] => isDigitRun first && isFraction part
      | first :: sixtieths =>
        isDigitRun first && sixtieths.all isSixtieth &&
          part.all fun c => c.isDigit || c = '_'
      | [] => false
    | (_, none) => false

/-- What a text is that has no newline at its end. -/
def Tag.ofLine (cs : List Char) : Tag :=
  if (boolWord? cs).isSome then bool
  else if looksBinary cs then float
  else if looksWhole cs then int
  else if cs = ['<', '<'] then merge
  else if cs.isEmpty || cs = ['~'] || plainWord? cs = some "null" then null
  else if looksLikeTime cs then time
  else if cs = ['='] then own
  else if cs = ['!'] || cs = ['&'] || cs = ['*'] then unknown
  else text

/-- What a plain scalar is. A newline at its end changes nothing, unless it is the whole text. -/
def Tag.ofPlain (cs : List Char) : Tag :=
  if cs = ['\n'] then text else Tag.ofLine (dropNewline cs)

end ConsoleKeeper.Yaml
