import ConsoleKeeper.Text.Split

/-!
# `ConsoleKeeper.Shell.Pattern`: patterns that texts fit

A pattern is a row of signs. Each fits a character, except for the one that fits any row of
characters. What is quoted in a pattern fits only itself.
-/

set_option autoImplicit false

namespace ConsoleKeeper.Shell

/-- A sign of a pattern. -/
inductive Sign where
  | exactly (c : Char)
  | one
  | many
  | among (negated : Bool) (ranges : List (Char × Char))
  deriving DecidableEq, Repr, Inhabited

namespace Sign

/-- Whether a character is in a range. -/
def inRange (c : Char) (range : Char × Char) : Bool :=
  range.1 ≤ c && c ≤ range.2

/-- Whether a character is one of those that a sign fits. -/
def fits (c : Char) : Sign → Bool
  | exactly d => c = d
  | one => true
  | many => true
  | among negated ranges => ranges.any (inRange c) != negated

end Sign

/-- A pattern. -/
abbrev Pattern := List Sign

namespace Pattern

/-- The ends of a text, from the whole text to nothing. -/
def endsOf : List Char → List (List Char)
  | [] => [[]]
  | c :: rest => (c :: rest) :: endsOf rest

/-- Whether a text fits a pattern. -/
def fits : Pattern → List Char → Bool
  | [], text => text.isEmpty
  | .many :: signs, text => (endsOf text).any (fits signs)
  | _ :: _, [] => false
  | sign :: signs, c :: rest => sign.fits c && fits signs rest

/-- The characters of the classes that patterns can name. -/
def classes : List (String × List (Char × Char)) :=
  [("alpha", [('a', 'z'), ('A', 'Z')]), ("digit", [('0', '9')]),
    ("alnum", [('a', 'z'), ('A', 'Z'), ('0', '9')]), ("upper", [('A', 'Z')]),
    ("lower", [('a', 'z')]), ("space", [(' ', ' '), ('\t', '\x0d')]),
    ("blank", [(' ', ' '), ('\t', '\t')]), ("xdigit", [('0', '9'), ('a', 'f'), ('A', 'F')]),
    ("punct", [('!', '/'), (':', '@'), ('[', '\x60'), ('{', '~')])]

/-- The ranges inside brackets, and what follows them. `first` says that a closing bracket would be
the first character, which then is one of the characters meant. -/
def rangesFrom : Nat → Bool → List Char → Option (List (Char × Char) × List Char)
  | 0, _, _ => none
  | fuel + 1, first, text =>
    match text with
    | [] => none
    | ']' :: rest =>
      if first then
        (rangesFrom fuel false rest).map fun (ranges, rest) => ((']', ']') :: ranges, rest)
      else some ([], rest)
    | '[' :: ':' :: rest =>
      let name := String.ofList (rest.takeWhile (· ≠ ':'))
      (rangesFrom fuel false ((rest.dropWhile (· ≠ ':')).drop 2)).map fun (ranges, rest) =>
        ((classes.lookup name).getD [] ++ ranges, rest)
    | c :: '-' :: d :: rest =>
      if d = ']' then
        (rangesFrom fuel false (d :: rest)).map fun (ranges, rest) =>
          ((c, c) :: ('-', '-') :: ranges, rest)
      else
        (rangesFrom fuel false rest).map fun (ranges, rest) => ((c, d) :: ranges, rest)
    | c :: rest =>
      (rangesFrom fuel false rest).map fun (ranges, rest) => ((c, c) :: ranges, rest)

/-- The sign that brackets stand for, and what follows them. -/
def bracketed? (text : List Char) : Option (Sign × List Char) :=
  let (negated, inside) := match text with
    | '!' :: rest | '^' :: rest => (true, rest)
    | rest => (false, rest)
  (rangesFrom (inside.length + 1) true inside).map fun (ranges, rest) =>
    (.among negated ranges, rest)

/-- The pattern of characters of which some are quoted. `fuel` bounds the number of signs. -/
def ofCharsFrom : Nat → List (Char × Bool) → Pattern
  | 0, _ => []
  | fuel + 1, chars =>
    match chars with
    | [] => []
    | (c, true) :: rest => .exactly c :: ofCharsFrom fuel rest
    | ('*', false) :: rest => .many :: ofCharsFrom fuel rest
    | ('?', false) :: rest => .one :: ofCharsFrom fuel rest
    | ('[', false) :: rest =>
      match bracketed? (rest.map (·.1)) with
      | some (sign, after) => sign :: ofCharsFrom fuel (rest.drop (rest.length - after.length))
      | none => .exactly '[' :: ofCharsFrom fuel rest
    | (c, false) :: rest => .exactly c :: ofCharsFrom fuel rest

/-- The pattern of characters of which some are quoted. -/
def ofChars (chars : List (Char × Bool)) : Pattern :=
  ofCharsFrom chars.length chars

/-- Whether a pattern fits more than one text. -/
def isOpen (pattern : Pattern) : Bool :=
  pattern.any fun sign =>
    match sign with
    | .exactly _ => false
    | _ => true

/-- A text without the shortest or the longest part at its front that fits. -/
def trimFront (pattern : Pattern) (longest : Bool) (text : List Char) : List Char :=
  let cuts := List.range (text.length + 1)
  let cuts := if longest then cuts.reverse else cuts
  match cuts.find? fun n => pattern.fits (text.take n) with
  | some n => text.drop n
  | none => text

/-- A text without the shortest or the longest part at its back that fits. -/
def trimBack (pattern : Pattern) (longest : Bool) (text : List Char) : List Char :=
  let cuts := List.range (text.length + 1)
  let cuts := if longest then cuts else cuts.reverse
  match cuts.find? fun n => pattern.fits (text.drop n) with
  | some n => text.take n
  | none => text

end Pattern

end ConsoleKeeper.Shell
