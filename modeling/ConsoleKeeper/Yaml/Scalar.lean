import ConsoleKeeper.Data.Json
import ConsoleKeeper.Yaml.Cursor
import ConsoleKeeper.Yaml.Trouble

/-!
# `ConsoleKeeper.Yaml.Scalar`: the written forms of a scalar

A scalar is written plain, between quotes, or as a block that keeps or folds its lines. Each
function here reads one form from its first character on, and gives the text and the place after it.
Between double quotes a character may be given by its code, and not every code has a character.

Folding turns one line break into a space. Of several breaks in a row the first one goes and the
others stay.
-/

set_option autoImplicit false

namespace ConsoleKeeper.Yaml

/-- The text of a scalar. -/
structure ScalarText where
  text : List Char := []
  /-- Whether each code in the text is a character's. Half of a surrogate pair is none, and the
  replacement character stands for it. -/
  intact : Bool := true
  deriving DecidableEq, Repr, Inhabited

namespace ScalarText

/-- Adds characters at the end. -/
def add (scalar : ScalarText) (cs : List Char) : ScalarText :=
  { scalar with text := scalar.text ++ cs }

/-- One text behind the other. -/
def append (first second : ScalarText) : ScalarText :=
  ⟨first.text ++ second.text, first.intact && second.intact⟩

/-- The value of a scalar that is a text. -/
def value (scalar : ScalarText) : Data :=
  if scalar.intact then .text (String.ofList scalar.text) else .brokenText

end ScalarText

/-- The characters that stand for one character after a backslash. -/
def escapes : List (Char × Char) :=
  [('0', '\x00'), ('a', '\x07'), ('b', '\x08'), ('t', '\t'), ('\t', '\t'), ('n', '\n'),
    ('v', '\x0b'), ('f', '\x0c'), ('r', '\r'), ('e', '\x1b'), (' ', ' '), ('"', '"'),
    ('\\', '\\'), ('/', '/'), ('N', '\u0085'), ('_', '\u00a0'), ('L', '\u2028'), ('P', '\u2029')]

/-- How many hexadecimal digits follow a backslash and a letter. -/
def codeWidth? (c : Char) : Option Nat :=
  [('x', 2), ('u', 4), ('U', 8)].lookup c

/-- The value of hexadecimal digits, if they all are. -/
def hexNumber? (cs : List Char) : Option Nat :=
  cs.foldlM (fun n c => (Json.hexValue? c).map (n * 16 + ·)) 0

/-- The line breaks from a place inside quotes on. No document may end inside quotes. -/
def quotedBreaks : Nat → List Char → Cursor → Option (List Char × Cursor)
  | 0, _, _ => none
  | fuel + 1, done, cursor =>
    if cursor.atSeparator then none
    else
      let cursor := cursor.dropWhile fun c => c = ' ' || c = '\t'
      if isBreak cursor.peek then
        let (lineBreak, cursor) := cursor.takeBreak
        quotedBreaks fuel (done ++ lineBreak) cursor
      else some (done, cursor)

/-- What breaks amount to after folding: the first one is a space unless more follow it. -/
def folded (first more : List Char) : List Char :=
  if first ≠ ['\n'] then first ++ more
  else if more.isEmpty then [' ']
  else more

/-- Blanks and breaks inside quotes. -/
def quotedGap (cursor : Cursor) : Option (List Char × Cursor) :=
  let (blanks, cursor) := cursor.takeWhile fun c => c = ' ' || c = '\t'
  if cursor.rest.isEmpty then none
  else if isBreak cursor.peek then
    let (first, cursor) := cursor.takeBreak
    (quotedBreaks cursor.fuel [] cursor).map fun (more, cursor) => (folded first more, cursor)
  else some (blanks, cursor)

/-- The first code above those of all characters. -/
def codeBound : Nat := 0x110000

/-- The first code that is too large to ask for a character. -/
def codeLimit : Nat := 0x80000000

/-- The text of one code. -/
def ofCode (n : Nat) : Reading ScalarText :=
  if codeLimit ≤ n then .failed .tooLarge
  else if codeBound ≤ n then .failed .badArgument
  else if 0xd800 ≤ n && n < 0xe000 then .ok ⟨['\ufffd'], false⟩
  else .ok ⟨[Char.ofNat n], true⟩

/-- What stands after a backslash between double quotes. -/
def escaped (cursor : Cursor) : Reading (ScalarText × Cursor) := do
  let c := cursor.peek
  match escapes.lookup c, codeWidth? c with
  | some meant, _ => .ok (⟨[meant], true⟩, cursor.advance)
  | none, some width =>
    let digits := cursor.advance.rest.take width
    if digits.length < width then .broken
    else
      let n ← Reading.ofOption (hexNumber? digits)
      let text ← ofCode n
      .ok (text, cursor.advanceBy (width + 1))
  | none, none =>
    -- A backslash at the end of a line takes the line break with it.
    if isBreak c then do
      let (breaks, cursor) ← Reading.ofOption (quotedBreaks cursor.fuel [] cursor.takeBreak.2)
      .ok (⟨breaks, true⟩, cursor)
    else .broken

/-- Whether a character inside quotes needs a closer look. -/
def isQuotedStop (c : Char) : Bool :=
  c = '\'' || c = '"' || c = '\\' || isGap c

/-- Reads a quoted scalar up to its closing quote; `done` is what was read. -/
def quotedBody (quote : Char) : Nat → ScalarText → Cursor → Reading (ScalarText × Cursor)
  | 0, _, _ => .broken
  | fuel + 1, done, cursor =>
    let (taken, cursor) := cursor.takeWhile (!isQuotedStop ·)
    let done := done.add taken
    let double := quote = '"'
    let c := cursor.peek
    -- Between single quotes a quote is written twice.
    if !double && c = '\'' && cursor.peekAt 1 = '\'' then
      quotedBody quote fuel (done.add ['\'']) (cursor.advanceBy 2)
    else if c = quote then .ok (done, cursor.advance)
    else if double && c = '\\' then
      match escaped cursor.advance with
      | .ok (meant, cursor) => quotedBody quote fuel (done.append meant) cursor
      | .error trouble => .error trouble
    else if c = '\'' || c = '"' || c = '\\' then quotedBody quote fuel (done.add [c]) cursor.advance
    else
      match quotedGap cursor with
      | some (gap, cursor) => quotedBody quote fuel (done.add gap) cursor
      | none => .broken

/-- Reads a scalar between quotes; the cursor stands at the opening one. -/
def quoted (cursor : Cursor) : Reading (ScalarText × Cursor) :=
  quotedBody cursor.peek cursor.fuel {} cursor.advance

/-- Which line breaks at the end of a block are kept. -/
inductive Chomping where
  | strip
  | clip
  | keep
  deriving DecidableEq, Repr, Inhabited

/-- The mark for what is kept, if there is one. -/
def chomping? : Char → Option Chomping
  | '+' => some .keep
  | '-' => some .strip
  | _ => none

/-- The digit that gives a block's indentation. Zero is none. -/
def indentDigit (cursor : Cursor) : Option (Option Nat × Cursor) :=
  let c := cursor.peek
  if c.isDigit then
    if c = '0' then none else some (some (digitValue c), cursor.advance)
  else some (none, cursor)

/-- The marks behind a block's indicator, in either order. -/
def blockMarks (cursor : Cursor) : Option (Chomping × Option Nat × Cursor) :=
  match chomping? cursor.peek with
  | some chomping =>
    (indentDigit cursor.advance).map fun (step, cursor) => (chomping, step, cursor)
  | none =>
    match indentDigit cursor with
    | none => none
    | some (step, cursor) =>
      match step, chomping? cursor.peek with
      | some _, some chomping => some (chomping, step, cursor.advance)
      | _, _ => some (.clip, step, cursor)

/-- The rest of a line that may hold a comment and nothing else. -/
def emptyTail (cursor : Cursor) : Option Cursor :=
  let cursor := cursor.skipSpaces
  let cursor := if cursor.peek = '#' then cursor.skipLine else cursor
  if isLineEnd cursor.peek then some cursor.takeBreak.2 else none

/-- Goes forward over spaces as long as the column is below an indentation. -/
def indentTo (indent : Nat) : Nat → Cursor → Cursor
  | 0, cursor => cursor
  | fuel + 1, cursor =>
    if cursor.column < indent && cursor.peek = ' ' then indentTo indent fuel cursor.advance
    else cursor

/-- The empty lines of a block with a known indentation. -/
def blockBreaks (indent : Nat) : Nat → List Char → Cursor → List Char × Cursor
  | 0, done, cursor => (done, cursor)
  | fuel + 1, done, cursor =>
    let cursor := indentTo indent cursor.fuel cursor
    if isBreak cursor.peek then
      let (lineBreak, cursor) := cursor.takeBreak
      blockBreaks indent fuel (done ++ lineBreak) cursor
    else (done, cursor)

/-- The empty lines in front of a block, and the greatest column reached on them. -/
def leadingBreaks : Nat → Nat → List Char → Cursor → List Char × Nat × Cursor
  | 0, widest, done, cursor => (done, widest, cursor)
  | fuel + 1, widest, done, cursor =>
    if cursor.peek = ' ' then
      let cursor := cursor.advance
      leadingBreaks fuel (max widest cursor.column) done cursor
    else if isBreak cursor.peek then
      let (lineBreak, cursor) := cursor.takeBreak
      leadingBreaks fuel widest (done ++ lineBreak) cursor
    else (done, widest, cursor)

/-- Whether a line of a folded block starts with a blank, which keeps the breaks around it. -/
def startsBlank (cursor : Cursor) : Bool :=
  cursor.peek = ' ' || cursor.peek = '\t'

/-- Reads the lines of a block. `breaks` are those read since the last line, and stand before the
next. The answer is the text, the last line's own break, and the breaks after it. -/
def blockLines (folds : Bool) (indent : Nat) :
    Nat → List Char → List Char → Cursor → List Char × List Char × List Char × Cursor
  | 0, done, breaks, cursor => (done, [], breaks, cursor)
  | fuel + 1, done, breaks, cursor =>
    if cursor.column = indent && !cursor.rest.isEmpty then
      let blank := startsBlank cursor
      let (line, cursor) := cursor.takeWhile (!isLineEnd ·)
      let done := done ++ breaks ++ line
      let (lineBreak, cursor) := cursor.takeBreak
      let (breaks, cursor) := blockBreaks indent cursor.fuel [] cursor
      if cursor.column = indent && !cursor.rest.isEmpty then
        let joined :=
          -- Two lines become one only if neither begins with a blank.
          if folds && lineBreak = ['\n'] && !blank && !startsBlank cursor then
            if breaks.isEmpty then [' '] else []
          else lineBreak
        blockLines folds indent fuel (done ++ joined) breaks cursor
      else (done, lineBreak, breaks, cursor)
    else (done, [], breaks, cursor)

/-- Reads a block scalar; the cursor stands at its indicator, and `parent` is the indentation around
it. -/
def block (folds : Bool) (parent : Int) (cursor : Cursor) : Option (List Char × Cursor) := do
  let (chomping, step, cursor) ← blockMarks cursor.advance
  if !(cursor.peek = ' ' || isLineEnd cursor.peek) then none
  let cursor ← emptyTail cursor
  let least := (max (parent + 1) 1).toNat
  let (indent, breaks, cursor) := match step with
    | some step =>
      let indent := least + step - 1
      let (breaks, cursor) := blockBreaks indent cursor.fuel [] cursor
      (indent, breaks, cursor)
    | none =>
      let (breaks, widest, cursor) := leadingBreaks cursor.fuel 0 [] cursor
      -- Without a mark the widest of the leading blanks says how far the text is set in.
      (max least widest, breaks, cursor)
  let (text, lineBreak, breaks, cursor) := blockLines folds indent cursor.fuel [] breaks cursor
  let text := match chomping with
    | .strip => text
    | .clip => text ++ lineBreak
    | .keep => text ++ lineBreak ++ breaks
  some (text, cursor)

/-- What a walk over the gap after a plain word found. -/
structure PlainGap where
  /-- What the gap adds to the scalar, if more of it follows. -/
  text : List Char
  /-- Whether a line ended in the gap. -/
  broken : Bool
  cursor : Cursor

/-- The breaks after the first one inside a plain scalar; nothing if a document ends there. -/
def plainBreaks : Nat → List Char → Cursor → Option (List Char) × Cursor
  | 0, done, cursor => (some done, cursor)
  | fuel + 1, done, cursor =>
    if cursor.peek = ' ' then plainBreaks fuel done cursor.advance
    else if isBreak cursor.peek then
      let (lineBreak, cursor) := cursor.takeBreak
      if cursor.atSeparator then (none, cursor)
      else plainBreaks fuel (done ++ lineBreak) cursor
    else (some done, cursor)

/-- The gap after a plain word. -/
def plainGap (cursor : Cursor) : PlainGap :=
  let (spaces, cursor) := cursor.takeWhile (· = ' ')
  if isBreak cursor.peek then
    let (first, cursor) := cursor.takeBreak
    if cursor.atSeparator then ⟨[], true, cursor⟩
    else
      match plainBreaks cursor.fuel [] cursor with
      | (none, cursor) => ⟨[], true, cursor⟩
      | (some more, cursor) => ⟨folded first more, true, cursor⟩
  else ⟨spaces, false, cursor⟩

/-- How many characters of a plain word stand at the start of a text. Inside brackets more
characters end it. -/
def plainLength (inFlow : Bool) : List Char → Nat
  | [] => 0
  | c :: rest =>
    let next := rest.head?.getD '\x00'
    let stops := isGap c ||
      (c = ':' && (isGap next || (inFlow && [',', '[', ']', '{', '}'].contains next))) ||
      (inFlow && [',', '?', '[', ']', '{', '}'].contains c)
    if stops then 0 else plainLength inFlow rest + 1

/-- A plain scalar: its text, whether a line ended behind its last word, and the place after it. -/
structure PlainScalar where
  text : List Char
  broken : Bool
  cursor : Cursor

/-- Reads the words of a plain scalar; `done` is what was read and `gap` what stands before the next
word. A line that is indented less than `indent` ends the scalar, unless it stands in brackets. -/
def plainWords (inFlow : Bool) (indent : Int) :
    Nat → List Char → List Char → Bool → Cursor → PlainScalar
  | 0, done, _, broken, cursor => ⟨done, broken, cursor⟩
  | fuel + 1, done, gap, broken, cursor =>
    -- A comment begins with a hash that stands behind a gap, so it is looked for here only.
    let n := if cursor.peek = '#' then 0 else plainLength inFlow cursor.rest
    if n = 0 then ⟨done, broken, cursor⟩
    else
      let done := done ++ gap ++ cursor.rest.take n
      let after := plainGap (cursor.advanceBy n)
      if after.text.isEmpty || after.cursor.peek = '#' ||
          (!inFlow && (after.cursor.column : Int) < indent) then
        ⟨done, after.broken, after.cursor⟩
      else plainWords inFlow indent fuel done after.text after.broken after.cursor

/-- Reads a plain scalar; `parent` is the indentation around it. -/
def plain (inFlow : Bool) (parent : Int) (cursor : Cursor) : PlainScalar :=
  plainWords inFlow (parent + 1) cursor.fuel [] [] false cursor

end ConsoleKeeper.Yaml
