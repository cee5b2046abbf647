import ConsoleKeeper.Text.Split

/-!
# `ConsoleKeeper.Yaml.Cursor`: a place in a YAML text

A cursor is what remains of the text, with the line and the column of the place. Indentation means
something in YAML, so columns are counted all along. A byte order mark takes no column.

The end of the text reads as the null character, which no YAML text contains.
-/

set_option autoImplicit false

namespace ConsoleKeeper.Yaml

/-- A place in a text. -/
structure Cursor where
  rest : List Char
  line : Nat := 0
  column : Nat := 0
  /-- How many characters lie before the place. -/
  index : Nat := 0
  deriving Repr, Inhabited

/-- Whether a character may stand in a text at all. -/
def isAllowed (c : Char) : Bool :=
  let n := c.toNat
  n = 9 || n = 10 || n = 13 || (0x20 ≤ n && n ≤ 0x7e) || n = 0x85 || (0xa0 ≤ n && n ≤ 0xd7ff) ||
  (0xe000 ≤ n && n ≤ 0xfffd) || 0x10000 ≤ n

/-- Whether a character ends a line. -/
def isBreak (c : Char) : Bool :=
  c = '\n' || c = '\r' || c = '\u0085' || c = '\u2028' || c = '\u2029'

/-- Whether a line ends at a character: a break, or the end of the text. -/
def isLineEnd (c : Char) : Bool :=
  c = '\x00' || isBreak c

/-- Whether a word ends at a character. -/
def isGap (c : Char) : Bool :=
  c = ' ' || c = '\t' || isLineEnd c

/-- Whether a character may stand in the name of an anchor, a tag's handle or a directive. -/
def isNameChar (c : Char) : Bool :=
  c.isAlphanum || c = '-' || c = '_'

namespace Cursor

/-- The character at a distance from the cursor. -/
def peekAt (cursor : Cursor) (distance : Nat) : Char :=
  (cursor.rest[distance]?).getD '\x00'

/-- The character at the cursor. -/
def peek (cursor : Cursor) : Char :=
  cursor.rest.head?.getD '\x00'

/-- Goes one character further. A carriage return before a newline ends no line of its own. -/
def advance (cursor : Cursor) : Cursor :=
  match cursor.rest with
  | [] => cursor
  | c :: rest =>
    let index := cursor.index + 1
    if isBreak c && !(c = '\r' && rest.head? = some '\n') then
      { rest, line := cursor.line + 1, column := 0, index }
    else if c = '\ufeff' then { cursor with rest, index }
    else { rest, line := cursor.line, column := cursor.column + 1, index }

/-- Goes some characters further. -/
def advanceBy (cursor : Cursor) : Nat → Cursor
  | 0 => cursor
  | n + 1 => cursor.advance.advanceBy n

/-- The characters from the cursor on that satisfy `p`, and the place after them. -/
def takeWhile (cursor : Cursor) (p : Char → Bool) : List Char × Cursor :=
  let taken := cursor.rest.takeWhile p
  (taken, cursor.advanceBy taken.length)

/-- The place after the characters that satisfy `p`. -/
def dropWhile (cursor : Cursor) (p : Char → Bool) : Cursor :=
  (cursor.takeWhile p).2

/-- The place after the spaces. -/
def skipSpaces (cursor : Cursor) : Cursor :=
  cursor.dropWhile (· = ' ')

/-- The place at the end of the line. -/
def skipLine (cursor : Cursor) : Cursor :=
  cursor.dropWhile (!isLineEnd ·)

/-- Takes a line break, if there is one, and gives it in its plain form: all but the two separators
are written as a newline. -/
def takeBreak (cursor : Cursor) : List Char × Cursor :=
  match cursor.rest with
  | '\r' :: '\n' :: _ => (['\n'], cursor.advanceBy 2)
  | c :: _ =>
    if c = '\u2028' || c = '\u2029' then ([c], cursor.advance)
    else if isBreak c then (['\n'], cursor.advance)
    else ([], cursor)
  | [] => ([], cursor)

/-- Whether a mark of three equal characters and a gap stand at the cursor. -/
def atMark (cursor : Cursor) (c : Char) : Bool :=
  cursor.rest.take 3 = [c, c, c] && isGap (cursor.peekAt 3)

/-- Whether a mark that separates documents stands at the cursor. -/
def atSeparator (cursor : Cursor) : Bool :=
  cursor.atMark '-' || cursor.atMark '.'

/-- A bound on the number of steps that any walk to the end of the text takes. -/
def fuel (cursor : Cursor) : Nat :=
  cursor.rest.length + 2

end Cursor

end ConsoleKeeper.Yaml
