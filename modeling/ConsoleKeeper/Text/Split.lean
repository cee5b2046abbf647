/-!
# `ConsoleKeeper.Text.Split`: cutting, finding and replacing in sequences

Everything here works on lists, so that one definition serves characters and bytes.

* `splitOn` cuts at every occurrence of one element and keeps the empty pieces.
* `piecesBetween` cuts at the occurrences of a pattern, at most at so many.
* `findFrom` is the first place at or after a position where a pattern occurs.
* `replaceAll` replaces the occurrences of a pattern from left to right, without overlap.
* `lines` cuts a text at every line boundary, and `unifyNewlines` writes each line ending as `\n`.
-/

set_option autoImplicit false

namespace ConsoleKeeper.Text

section Sequence

variable {α : Type} [DecidableEq α]

/-- The pieces between the occurrences of `sep`. There is always one piece more than there are
occurrences, so the empty sequence has one empty piece. -/
def splitOn (sep : α) : List α → List (List α)
  | [] => [[]]
  | c :: rest =>
    if c = sep then [] :: splitOn sep rest
    else
      match splitOn sep rest with
      | [] => [[c]]
      | piece :: pieces => (c :: piece) :: pieces

/-- Whether `pattern` occurs somewhere in a sequence. -/
def occursIn (pattern : List α) : List α → Bool
  | [] => pattern.isEmpty
  | c :: rest => pattern.isPrefixOf (c :: rest) || occursIn pattern rest

/-- The first position at which `pattern` occurs, counted from `pos` for the first element. -/
def findAt (pattern : List α) (pos : Nat) : List α → Option Nat
  | [] => if pattern.isEmpty then some pos else none
  | c :: rest =>
    if pattern.isPrefixOf (c :: rest) then some pos else findAt pattern (pos + 1) rest

/-- The first position not below `start` at which `pattern` occurs in `s`. -/
def findFrom (pattern s : List α) (start : Nat) : Option Nat :=
  findAt pattern start (s.drop start)

/-- Replaces occurrences after leaving out the first `skip` elements, which belong to an occurrence
already replaced. -/
def replaceAfter (pattern fresh : List α) : Nat → List α → List α
  | _, [] => []
  | skip + 1, _ :: rest => replaceAfter pattern fresh skip rest
  | 0, c :: rest =>
    if pattern.isPrefixOf (c :: rest) then
      fresh ++ replaceAfter pattern fresh (pattern.length - 1) rest
    else c :: replaceAfter pattern fresh 0 rest

/-- Replaces the occurrences of a pattern that is not empty, from left to right and without
overlap. -/
def replaceAll (pattern fresh s : List α) : List α :=
  replaceAfter pattern fresh 0 s

/-- Cuts a sequence at the first occurrence of `sep`, which neither part keeps. -/
def cutFirst (sep : α) : List α → List α × Option (List α)
  | [] => ([], none)
  | c :: rest =>
    if c = sep then ([], some rest)
    else
      let (before, after) := cutFirst sep rest
      (c :: before, after)

/-- A sequence without the elements at its end that satisfy `p`. -/
def trimRight (p : α → Bool) (s : List α) : List α :=
  (s.reverse.dropWhile p).reverse

/-- A sequence without the elements at both ends that satisfy `p`. -/
def trim (p : α → Bool) (s : List α) : List α :=
  trimRight p (s.dropWhile p)

/-- Collects pieces after leaving out the first `skip` elements, which belong to an occurrence of
the pattern; `current` holds the open piece in reverse, and at most `cuts` more cuts are made. -/
def piecesFrom (pattern : List α) (cuts : Option Nat) (current : List α) :
    Nat → List α → List (List α)
  | _, [] => [current.reverse]
  | skip + 1, _ :: rest => piecesFrom pattern cuts current skip rest
  | 0, c :: rest =>
    if cuts ≠ some 0 && pattern.isPrefixOf (c :: rest) then
      current.reverse :: piecesFrom pattern (cuts.map (· - 1)) [] (pattern.length - 1) rest
    else piecesFrom pattern cuts (c :: current) 0 rest

/-- The pieces of a sequence between the occurrences of a pattern that is not empty, from left to
right; at most `cuts` cuts are made, if there is such a number. -/
def piecesBetween (pattern : List α) (cuts : Option Nat) (s : List α) : List (List α) :=
  piecesFrom pattern cuts [] 0 s

end Sequence

/-- The characters that end a line: the line and paragraph separators of the character set, and the
control characters that separate records. -/
def isLineBoundary (c : Char) : Bool :=
  c = '\n' || c = '\r' || c = '\x0b' || c = '\x0c' || c = '\x1c' || c = '\x1d' || c = '\x1e' ||
  c = '\u0085' || c = '\u2028' || c = '\u2029'

/-- Collects lines; `current` holds the open line in reverse. A boundary at the very end opens no
further line. -/
def linesFrom (current : List Char) : List Char → List (List Char)
  | [] => if current.isEmpty then [] else [current.reverse]
  | '\r' :: '\n' :: rest => current.reverse :: linesFrom [] rest
  | c :: rest =>
    if isLineBoundary c then current.reverse :: linesFrom [] rest
    else linesFrom (c :: current) rest

/-- The lines of a text without their boundaries; `\r\n` is one boundary. -/
def lines (s : List Char) : List (List Char) :=
  linesFrom [] s

/-- Writes every line ending, `\r\n` or a lone `\r`, as `\n`. -/
def unifyNewlines : List Char → List Char
  | [] => []
  | '\r' :: '\n' :: rest => '\n' :: unifyNewlines rest
  | '\r' :: rest => '\n' :: unifyNewlines rest
  | c :: rest => c :: unifyNewlines rest

/-- The blanks that may surround a number written as text. -/
def isBlank (c : Char) : Bool :=
  let n := c.toNat
  (9 ≤ n && n ≤ 13) || n = 0x20 || n = 0x85 || n = 0xa0 || n = 0x1680 ||
  (0x2000 ≤ n && n ≤ 0x200a) || n = 0x2028 || n = 0x2029 || n = 0x202f || n = 0x205f || n = 0x3000

/-- The blanks of a text of any kind, to which four separators of records belong. -/
def isSpace (c : Char) : Bool :=
  isBlank c || (0x1c ≤ c.toNat && c.toNat ≤ 0x1f)

end ConsoleKeeper.Text
