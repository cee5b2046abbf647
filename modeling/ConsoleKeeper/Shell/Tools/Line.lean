import ConsoleKeeper.Command.Output
import ConsoleKeeper.Shell.Tools.Basic

/-!
# `ConsoleKeeper.Shell.Tools.Line`: tools that work line by line

Lines are put in order, told apart, searched, or cut.
-/

set_option autoImplicit false

namespace ConsoleKeeper.Shell.Tools

open ConsoleKeeper.Shell.Run

/-- The order of lines by their bytes. -/
def lineBefore (a b : List UInt8) : Bool :=
  match a, b with
  | [], _ => true
  | _ :: _, [] => false
  | x :: xs, y :: ys => x < y || (x = y && lineBefore xs ys)

/-- The number at the start of a line. -/
def leadingNumber (line : List UInt8) : Int :=
  let text := (Text.Utf8.decodeLossy line).dropWhile (· = ' ')
  let (negative, digits) := match text with
    | '-' :: rest => (true, rest)
    | rest => (false, rest)
  let n : Int := digitsValue (digits.takeWhile Char.isDigit)
  if negative then -n else n

/-- Writes lines without those that equal the line before. -/
def distinctLines : List (List UInt8) → List (List UInt8)
  | [] => []
  | [line] => [line]
  | a :: b :: rest => if a = b then distinctLines (b :: rest) else a :: distinctLines (b :: rest)

/-- Writes lines in order. -/
def sort : Tool := fun arguments => do
  let (letters, paths) := options arguments
  let (bytes, status) ← contents "sort" paths
  let before (a b : List UInt8) : Bool :=
    if letters.contains 'n' && leadingNumber a ≠ leadingNumber b then
      leadingNumber a < leadingNumber b
    else lineBefore a b
  let sorted := (Output.wholeLines bytes).mergeSort before
  let sorted := if letters.contains 'r' then sorted.reverse else sorted
  finish (withEnds (if letters.contains 'u' then distinctLines sorted else sorted)) status

/-- Lines with how often each comes in a row. -/
def countedLines : List (List UInt8) → List (Nat × List UInt8)
  | [] => []
  | line :: rest =>
    match countedLines rest with
    | (n, next) :: others =>
      if next = line then (n + 1, line) :: others else (1, line) :: (n, next) :: others
    | [] => [(1, line)]

/-- Writes each line once that comes several times in a row. -/
def uniq : Tool := fun arguments => do
  let (letters, paths) := options arguments
  let (bytes, status) ← contents "uniq" paths
  let lines := (countedLines (Output.wholeLines bytes)).filter fun (n, _) =>
    (!letters.contains 'd' || 1 < n) && (!letters.contains 'u' || n = 1)
  finish (withEnds (lines.map fun (n, line) =>
    if letters.contains 'c' then
      let count := numberText n
      Text.Utf8.encode (List.replicate (7 - count.length) ' ' ++ count.toList ++ [' ']) ++ line
    else line)) status

/-- How often a sign comes in a row. -/
inductive Count where
  | once
  | atMostOnce
  | anyNumber
  | atLeastOnce
  deriving DecidableEq, Repr, Inhabited

/-- What is searched for in a line, and where it has to stand. -/
structure Search where
  signs : List (Sign × Count)
  atStart : Bool
  atEnd : Bool
  deriving Inhabited

/-- The signs of a search with their counts; with `extended` there are more signs for counts. `fuel`
bounds the number of signs. -/
def signsFrom (extended : Bool) : Nat → List Char → List (Sign × Count)
  | 0, _ => []
  | fuel + 1, text =>
    let followed (sign : Sign) (rest : List Char) : List (Sign × Count) :=
      match rest, extended with
      | '*' :: rest, _ => (sign, .anyNumber) :: signsFrom extended fuel rest
      | '+' :: rest, true => (sign, .atLeastOnce) :: signsFrom extended fuel rest
      | '?' :: rest, true => (sign, .atMostOnce) :: signsFrom extended fuel rest
      | rest, _ => (sign, .once) :: signsFrom extended fuel rest
    match text with
    | [] => []
    | '\\' :: c :: rest => followed (.exactly c) rest
    | '.' :: rest => followed .one rest
    | '[' :: rest =>
      match Pattern.bracketed? rest with
      | some (sign, rest) => followed sign rest
      | none => followed (.exactly '[') rest
    | c :: rest => followed (.exactly c) rest

/-- The search that a text asks for. -/
def searchOf (extended : Bool) (text : List Char) : Search :=
  let (atStart, text) := match text with
    | '^' :: rest => (true, rest)
    | text => (false, text)
  let (atEnd, text) := match text.reverse with
    | '$' :: '\\' :: _ => (false, text)
    | '$' :: rest => (true, rest.reverse)
    | _ => (false, text)
  ⟨signsFrom extended (text.length + 1) text, atStart, atEnd⟩

/-- The searches of which one has to succeed. With `fixed` the text is looked for as it is. -/
def searchesOf (fixed extended : Bool) (text : List Char) : List Search :=
  if fixed then [⟨text.map fun c => (.exactly c, .once), false, false⟩]
  else if extended then (Text.splitOn '|' text).map (searchOf true)
  else [searchOf false text]

/-- The ends of a text in front of which a sign fits any number of characters. -/
def endsAfter (sign : Sign) : List Char → List (List Char)
  | [] => [[]]
  | c :: rest => (c :: rest) :: (if sign.fits c then endsAfter sign rest else [])

/-- The ends of a text in front of which a sign fits as often as it has to. -/
def endsBehind (sign : Sign) (count : Count) (text : List Char) : List (List Char) :=
  let after : List (List Char) :=
    match text with
    | c :: rest => if sign.fits c then [rest] else []
    | [] => []
  match count with
  | .once => after
  | .atMostOnce => text :: after
  | .anyNumber => endsAfter sign text
  | .atLeastOnce => after.flatMap (endsAfter sign)

/-- Whether a text begins with what is searched for. -/
def beginsWith (atEnd : Bool) : List (Sign × Count) → List Char → Bool
  | [], text => !atEnd || text.isEmpty
  | (sign, count) :: signs, text => (endsBehind sign count text).any (beginsWith atEnd signs)

/-- Whether what is searched for stands in a line. -/
def Search.found (search : Search) (line : List Char) : Bool :=
  if search.atStart then beginsWith search.atEnd search.signs line
  else (Pattern.endsOf line).any (beginsWith search.atEnd search.signs)

/-- Writes the lines in which something is found. -/
def grep : Tool := fun arguments => do
  let (letters, rest) := options arguments
  match rest with
  | [] =>
    tell "Usage: grep [OPTION]... PATTERNS [FILE]..."
    tell "Try 'grep --help' for more information."
    pure 2
  | text :: paths =>
    let small (chars : List Char) : List Char :=
      if letters.contains 'i' then chars.map Char.toLower else chars
    let searches := searchesOf (letters.contains 'F') (letters.contains 'E') (small text.toList)
    let (bytes, status) ← contents "grep" paths
    let lines := ((Output.wholeLines bytes).zipIdx).filter fun (line, _) =>
      let line := small (Text.Utf8.decodeLossy line)
      (searches.any fun search => search.found line) != letters.contains 'v'
    let shown :=
      if letters.contains 'q' then []
      else if letters.contains 'c' then
        if status = 0 then withEnds [Text.Utf8.encode (digitsOf lines.length)] else []
      else
        withEnds (lines.map fun (line, n) =>
          if letters.contains 'n' then Text.Utf8.encode (digitsOf (n + 1) ++ [':']) ++ line
          else line)
    let _ ← write 1 shown
    -- A file that cannot be read counts more than what was found in the others.
    pure (if status ≠ 0 then 2 else if lines.isEmpty then 1 else 0)

/-- The positions that a list of ranges names, as a test. -/
def chosen (ranges : String) (n : Nat) : Bool :=
  (Text.splitOn ',' ranges.toList).any fun range =>
    match Text.splitOn '-' range with
    | [one] => digitsValue one = n
    | [[], last] => n ≤ digitsValue last
    | [first, []] => digitsValue first ≤ n
    | [first, last] => digitsValue first ≤ n && n ≤ digitsValue last
    | _ => false

/-- The value of an option that takes one: in the same argument or in the next. -/
def optionValue? (letter : Char) : List String → Option String
  | [] => none
  | argument :: rest =>
    match argument.toList with
    | '-' :: c :: value =>
      if c = letter then some (if value.isEmpty then rest.headD "" else String.ofList value)
      else optionValue? letter rest
    | _ => optionValue? letter rest

/-- Writes some characters or fields of each line. -/
def cut : Tool := fun arguments => do
  let bytes ← read 0 none
  let lines := (Output.wholeLines bytes).map Text.Utf8.decodeLossy
  let numbered {α : Type} (items : List α) : List (α × Nat) :=
    items.zipIdx.map fun (a, n) => (a, n + 1)
  let shown := lines.map fun line =>
    match (optionValue? 'c' arguments).or (optionValue? 'b' arguments),
        optionValue? 'f' arguments with
    | some ranges, _ => ((numbered line).filter fun (_, n) => chosen ranges n).map (·.1)
    | none, some ranges =>
      let sign := (((optionValue? 'd' arguments).getD "\t").toList.head?).getD '\t'
      if line.contains sign then
        List.intercalate [sign]
          (((numbered (Text.splitOn sign line)).filter fun (_, n) => chosen ranges n).map (·.1))
      else line
    | none, none => line
  finish (withEnds (shown.map Text.Utf8.encode)) 0

end ConsoleKeeper.Shell.Tools
