import ConsoleKeeper.Text.Utf8
import ConsoleKeeper.Yaml.Number
import ConsoleKeeper.Yaml.Scalar

/-!
# `ConsoleKeeper.Yaml.Token`: the parts of a YAML text

A text is a row of tokens. Where indentation opens or closes a collection, there are tokens that no
characters stand for. A key that has no mark of its own is known only when its colon comes, so the
token for the key is put in front of what was read already.

A place where such a key may stand is remembered, one for each depth of brackets. It is forgotten
when the line ends or after 1024 characters.

A row of tokens ends with the end of the text, or with a flaw where no further token can be read.
-/

set_option autoImplicit false

namespace ConsoleKeeper.Yaml

/-- A token. -/
inductive Token where
  | version (major minor : Nat)
  | tagHandle (handle start : String)
  | reserved
  | documentStart
  | documentEnd
  | blockSequenceStart
  | blockMappingStart
  | blockEnd
  | sequenceOpen
  | sequenceClose
  | mappingOpen
  | mappingClose
  | comma
  | entry
  | key
  | value
  | alias (name : String)
  | anchor (name : String)
  | tag (handle : Option String) (suffix : String)
  | scalar (text : ScalarText) (plain : Bool)
  | ending
  /-- The text cannot be read from here on. -/
  | flaw (trouble : Trouble)
  deriving BEq, Repr, Inhabited

/-- A place where a key may stand. -/
structure KeyPlace where
  /-- How many tokens come before it. -/
  number : Nat
  /-- Whether the text is broken unless a key stands there. -/
  required : Bool
  index : Nat
  line : Nat
  column : Nat
  deriving Repr, Inhabited

/-- What is known while tokens are read. -/
structure Lexer where
  cursor : Cursor
  tokens : Array Token := #[]
  /-- How many brackets are open. -/
  depth : Nat := 0
  indent : Int := -1
  /-- The indentations around the present one. -/
  outer : List Int := []
  keyAllowed : Bool := true
  /-- The places for keys by depth of brackets. -/
  places : List (Nat × KeyPlace) := []
  deriving Inhabited

namespace Lexer

/-- Whether brackets are open. -/
def inFlow (lexer : Lexer) : Bool :=
  lexer.depth ≠ 0

/-- Adds a token. -/
def emit (lexer : Lexer) (token : Token) : Lexer :=
  { lexer with tokens := lexer.tokens.push token }

/-- Goes some characters further. -/
def skip (lexer : Lexer) (n : Nat) : Lexer :=
  { lexer with cursor := lexer.cursor.advanceBy n }

/-- The place for a key at the present depth. -/
def place? (lexer : Lexer) : Option KeyPlace :=
  lexer.places.lookup lexer.depth

/-- Forgets the place for a key at the present depth; fails if a key is required there. -/
def forgetPlace (lexer : Lexer) : Option Lexer :=
  match lexer.place? with
  | some place =>
    if place.required then none
    else some { lexer with places := lexer.places.filter (·.1 ≠ lexer.depth) }
  | none => some lexer

/-- Whether a place is too far back for a key. -/
def isStale (lexer : Lexer) (place : KeyPlace) : Bool :=
  place.line ≠ lexer.cursor.line || place.index + 1024 < lexer.cursor.index

/-- Forgets the places that are too far back; fails if a key is required at one. -/
def forgetStale (lexer : Lexer) : Option Lexer :=
  if lexer.places.any fun p => lexer.isStale p.2 && p.2.required then none
  else some { lexer with places := lexer.places.filter fun p => !lexer.isStale p.2 }

/-- Remembers that a key may stand here, if one may. -/
def savePlace (lexer : Lexer) : Option Lexer :=
  if lexer.keyAllowed then
    (lexer.forgetPlace).map fun lexer =>
      { lexer with
        places := (lexer.depth,
          { number := lexer.tokens.size
            required := !lexer.inFlow && lexer.indent = lexer.cursor.column
            index := lexer.cursor.index
            line := lexer.cursor.line
            column := lexer.cursor.column }) :: lexer.places }
  else some lexer

/-- Closes collections that are indented more than a column; `outer` bounds their number. -/
def closeBlocks (column : Int) : List Int → Lexer → Lexer
  | [], lexer => lexer
  | around :: outer, lexer =>
    if column < lexer.indent then
      closeBlocks column outer { lexer.emit .blockEnd with indent := around, outer := outer }
    else lexer

/-- Closes the collections that end at a column. Brackets ignore indentation. -/
def unwind (lexer : Lexer) (column : Int) : Lexer :=
  if lexer.inFlow then lexer else closeBlocks column lexer.outer lexer

/-- Opens a deeper indentation at a column, if it is deeper, and says whether it is. -/
def deepen (lexer : Lexer) (column : Int) : Bool × Lexer :=
  if lexer.indent < column then
    (true, { lexer with outer := lexer.indent :: lexer.outer, indent := column })
  else (false, lexer)

/-- Opens a block collection at the cursor, if it is indented deeper than the present one. -/
def openBlock (lexer : Lexer) (token : Token) : Lexer :=
  match lexer.deepen lexer.cursor.column with
  | (true, lexer) => lexer.emit token
  | (false, lexer) => lexer

/-- Goes over blanks, comments and empty lines to the next token. A new line allows a key again. -/
def toNext : Nat → Lexer → Lexer
  | 0, lexer => lexer
  | fuel + 1, lexer =>
    let cursor := lexer.cursor.skipSpaces
    let cursor := if cursor.peek = '#' then cursor.skipLine else cursor
    if isBreak cursor.peek then
      toNext fuel
        { lexer with
          cursor := cursor.takeBreak.2
          keyAllowed := lexer.keyAllowed || !lexer.inFlow }
    else { lexer with cursor }

/-- Ends the text. -/
def finish (lexer : Lexer) : Option Lexer :=
  ((lexer.unwind (-1)).forgetPlace).map fun lexer => lexer.emit .ending

/-- A mark between documents. -/
def separator (lexer : Lexer) (token : Token) : Option Lexer :=
  ((lexer.unwind (-1)).forgetPlace).map fun lexer =>
    (Lexer.skip { lexer with keyAllowed := false } 3).emit token

/-- An opening bracket. -/
def openFlow (lexer : Lexer) (token : Token) : Option Lexer :=
  lexer.savePlace.map fun lexer =>
    (Lexer.skip { lexer with depth := lexer.depth + 1, keyAllowed := true } 1).emit token

/-- A closing bracket. -/
def closeFlow (lexer : Lexer) (token : Token) : Option Lexer :=
  if !lexer.inFlow then none
  else
    lexer.forgetPlace.map fun lexer =>
      (Lexer.skip { lexer with depth := lexer.depth - 1, keyAllowed := false } 1).emit token

/-- A comma. -/
def comma (lexer : Lexer) : Option Lexer :=
  (Lexer.forgetPlace { lexer with keyAllowed := true }).map fun lexer => (lexer.skip 1).emit .comma

/-- The mark of an entry in a block sequence. -/
def entry (lexer : Lexer) : Option Lexer :=
  if !lexer.inFlow && !lexer.keyAllowed then none
  else
    let lexer := if lexer.inFlow then lexer else lexer.openBlock .blockSequenceStart
    (Lexer.forgetPlace { lexer with keyAllowed := true }).map fun lexer =>
      (lexer.skip 1).emit .entry

/-- The mark of a key. -/
def key (lexer : Lexer) : Option Lexer :=
  if !lexer.inFlow && !lexer.keyAllowed then none
  else
    let lexer := if lexer.inFlow then lexer else lexer.openBlock .blockMappingStart
    (Lexer.forgetPlace { lexer with keyAllowed := !lexer.inFlow }).map fun lexer =>
      (lexer.skip 1).emit .key

/-- Puts a token in front of those from a number on. -/
def insert (lexer : Lexer) (number : Nat) (token : Token) : Lexer :=
  { lexer with tokens := lexer.tokens.insertIdxIfInBounds number token }

/-- The colon of a key that stands at a remembered place. -/
def valueOfPlace (lexer : Lexer) (place : KeyPlace) : Lexer :=
  let lexer := { lexer with places := lexer.places.filter (·.1 ≠ lexer.depth) }
  let lexer := lexer.insert place.number .key
  let lexer :=
    if lexer.inFlow then lexer
    else
      match lexer.deepen place.column with
      | (true, lexer) => lexer.insert place.number .blockMappingStart
      | (false, lexer) => lexer
  (Lexer.skip { lexer with keyAllowed := false } 1).emit .value

/-- The mark of a value. -/
def value (lexer : Lexer) : Option Lexer :=
  match lexer.place? with
  | some place => some (lexer.valueOfPlace place)
  | none =>
    if !lexer.inFlow && !lexer.keyAllowed then none
    else
      let lexer := if lexer.inFlow then lexer else lexer.openBlock .blockMappingStart
      (Lexer.forgetPlace { lexer with keyAllowed := !lexer.inFlow }).map fun lexer =>
        (lexer.skip 1).emit .value

/-- What may follow the name of an anchor directly. -/
def endsAnchor (c : Char) : Bool :=
  isGap c || ['?', ':', ',', ']', '}', '%', '@', '\x60'].contains c

/-- An anchor, or an alias for one. -/
def anchor (lexer : Lexer) (make : String → Token) : Option Lexer := do
  let lexer ← lexer.savePlace
  let (name, cursor) := lexer.cursor.advance.takeWhile isNameChar
  if name.isEmpty || !endsAnchor cursor.peek then none
  else some (Lexer.emit { lexer with cursor, keyAllowed := false } (make (String.ofList name)))

/-- Whether a character may stand in a tag as it is. -/
def isTagChar (c : Char) : Bool :=
  c.isAlphanum || "-;/?:@&=+$,_.!~*'()[]".toList.contains c

/-- The bytes of escapes in a tag. -/
def tagBytes : Nat → List UInt8 → Cursor → Option (List UInt8 × Cursor)
  | 0, done, cursor => some (done, cursor)
  | fuel + 1, done, cursor =>
    if cursor.peek = '%' then
      match hexNumber? [cursor.peekAt 1, cursor.peekAt 2] with
      | some n => tagBytes fuel (done ++ [UInt8.ofNat n]) (cursor.advanceBy 3)
      | none => none
    else some (done, cursor)

/-- The rest of a tag. Characters may be written as bytes in hexadecimal. -/
def tagText : Nat → List Char → Cursor → Option (List Char × Cursor)
  | 0, done, cursor => some (done, cursor)
  | fuel + 1, done, cursor =>
    let (taken, cursor) := cursor.takeWhile isTagChar
    let done := done ++ taken
    if cursor.peek = '%' then
      match tagBytes cursor.fuel [] cursor with
      | none => none
      | some (bytes, cursor) =>
        match Text.Utf8.decode? bytes with
        | some cs => tagText fuel (done ++ cs) cursor
        | none => none
    else some (done, cursor)

/-- The part of a tag that may not be empty. -/
def tagPart (cursor : Cursor) : Option (String × Cursor) :=
  match tagText cursor.fuel [] cursor with
  | some (text, cursor) => if text.isEmpty then none else some (String.ofList text, cursor)
  | none => none

/-- A tag's handle: one exclamation mark, or two with a name between them. -/
def handlePart (cursor : Cursor) : Option (String × Cursor) :=
  if cursor.peek ≠ '!' then none
  else if cursor.peekAt 1 = ' ' then some ("!", cursor.advance)
  else
    let (name, after) := cursor.advance.takeWhile isNameChar
    if after.peek = '!' then some (String.ofList (['!'] ++ name ++ ['!']), after.advance)
    else none

/-- Whether a second exclamation mark stands in a tag. -/
def hasHandle (cursor : Cursor) : Bool :=
  ((cursor.advance.rest.takeWhile fun c => !(c = ' ' || isLineEnd c))).contains '!'

/-- The handle and the rest of a tag. -/
def tagParts (cursor : Cursor) : Option (Option String × String × Cursor) :=
  if cursor.peekAt 1 = '<' then
    match tagPart (cursor.advanceBy 2) with
    | some (text, cursor) => if cursor.peek = '>' then some (none, text, cursor.advance) else none
    | none => none
  else if isGap (cursor.peekAt 1) then some (none, "!", cursor.advance)
  else if hasHandle cursor then do
    let (handle, cursor) ← handlePart cursor
    let (text, cursor) ← tagPart cursor
    some (some handle, text, cursor)
  else (tagPart cursor.advance).map fun (text, cursor) => (some "!", text, cursor)

/-- A tag. -/
def tag (lexer : Lexer) : Option Lexer := do
  let lexer ← lexer.savePlace
  let (handle, suffix, cursor) ← tagParts lexer.cursor
  if cursor.peek = ' ' || isLineEnd cursor.peek then
    some (Lexer.emit { lexer with cursor, keyAllowed := false } (.tag handle suffix))
  else none

/-- A number in a directive. -/
def directiveNumber (cursor : Cursor) : Reading (Nat × Cursor) :=
  let (digits, cursor) := cursor.takeWhile Char.isDigit
  if digits.isEmpty then .broken
  else if wholeLimit < digits.length then .failed .badArgument
  else .ok (digitsValue digits, cursor)

/-- The version in a directive. -/
def versionPart (cursor : Cursor) : Reading (Token × Cursor) := do
  let (major, cursor) ← directiveNumber cursor.skipSpaces
  if cursor.peek ≠ '.' then .broken
  else
    let (minor, cursor) ← directiveNumber cursor.advance
    if cursor.peek = ' ' || isLineEnd cursor.peek then .ok (.version major minor, cursor)
    else .broken

/-- The handle in a directive and what it stands for. -/
def handleDirective (cursor : Cursor) : Option (Token × Cursor) := do
  let (handle, cursor) ← handlePart cursor.skipSpaces
  if cursor.peek ≠ ' ' then none
  else
    let (start, cursor) ← tagPart cursor.skipSpaces
    if cursor.peek = ' ' || isLineEnd cursor.peek then some (.tagHandle handle start, cursor)
    else none

/-- The name of a directive and what it says. -/
def directivePart (cursor : Cursor) : Reading (Token × Cursor) :=
  let (name, cursor) := cursor.takeWhile isNameChar
  if name.isEmpty || !(cursor.peek = ' ' || isLineEnd cursor.peek) then .broken
  else if name = "YAML".toList then versionPart cursor
  else if name = "TAG".toList then .ofOption (handleDirective cursor)
  else .ok (.reserved, cursor.skipLine)

/-- A directive, which takes a whole line. -/
def directive (lexer : Lexer) : Reading Lexer := do
  let lexer ← Reading.ofOption (lexer.unwind (-1)).forgetPlace
  let (token, cursor) ← directivePart lexer.cursor.advance
  let cursor ← Reading.ofOption (emptyTail cursor)
  .ok (Lexer.emit { lexer with cursor, keyAllowed := false } token)

/-- A block scalar. -/
def blockScalar (lexer : Lexer) (folds : Bool) : Option Lexer := do
  let lexer ← Lexer.forgetPlace { lexer with keyAllowed := true }
  let (text, cursor) ← block folds lexer.indent lexer.cursor
  some (Lexer.emit { lexer with cursor } (.scalar { text } false))

/-- A quoted scalar. -/
def quotedScalar (lexer : Lexer) : Reading Lexer := do
  let lexer ← Reading.ofOption lexer.savePlace
  let (text, cursor) ← quoted lexer.cursor
  .ok (Lexer.emit { lexer with cursor, keyAllowed := false } (.scalar text false))

/-- A plain scalar. A line break behind it allows a key again. -/
def plainScalar (lexer : Lexer) : Option Lexer := do
  let lexer ← lexer.savePlace
  let found := plain lexer.inFlow lexer.indent lexer.cursor
  some ({ lexer with cursor := found.cursor, keyAllowed := found.broken }.emit
    (.scalar { text := found.text } true))

/-- The characters that start something other than a plain scalar. -/
def indicators : List Char :=
  ['-', '?', ':', ',', '[', ']', '{', '}', '#', '&', '*', '!', '|', '>', '\'', '"', '%', '@',
    '\x60']

/-- Whether a plain scalar starts at the cursor. -/
def startsPlain (lexer : Lexer) : Bool :=
  let c := lexer.cursor.peek
  (!isGap c && !indicators.contains c) ||
  (!isGap (lexer.cursor.peekAt 1) && (c = '-' || (!lexer.inFlow && (c = '?' || c = ':'))))

/-- Reads the token at the cursor, which no character of its own shows to be a quoted scalar or a
directive. -/
def plainToken (lexer : Lexer) : Option Lexer :=
  let c := lexer.cursor.peek
  let atStart := lexer.cursor.column = 0
  let beforeGap := isGap (lexer.cursor.peekAt 1)
  -- The marks come before everything that begins with the same characters.
  if atStart && lexer.cursor.atMark '-' then lexer.separator .documentStart
  else if atStart && lexer.cursor.atMark '.' then lexer.separator .documentEnd
  else if c = '[' then lexer.openFlow .sequenceOpen
  else if c = '{' then lexer.openFlow .mappingOpen
  else if c = ']' then lexer.closeFlow .sequenceClose
  else if c = '}' then lexer.closeFlow .mappingClose
  else if c = ',' then lexer.comma
  else if c = '-' && beforeGap then lexer.entry
  else if c = '?' && (lexer.inFlow || beforeGap) then lexer.key
  else if c = ':' && (lexer.inFlow || beforeGap) then lexer.value
  else if c = '*' then lexer.anchor .alias
  else if c = '&' then lexer.anchor .anchor
  else if c = '!' then lexer.tag
  else if c = '|' && !lexer.inFlow then lexer.blockScalar false
  else if c = '>' && !lexer.inFlow then lexer.blockScalar true
  else if lexer.startsPlain then lexer.plainScalar
  else none

/-- Reads the token at the cursor. -/
def token (lexer : Lexer) : Reading Lexer :=
  let c := lexer.cursor.peek
  if c = '%' && lexer.cursor.column = 0 then lexer.directive
  else if c = '\'' || c = '"' then lexer.quotedScalar
  else .ofOption lexer.plainToken

/-- The tokens before a flaw. Where a key may stand, nothing is known before the text behind it is
read, so the flaw comes before the tokens there. -/
def upTo (lexer : Lexer) (trouble : Trouble) : List Token :=
  let fresh := lexer.places.filter fun place => !lexer.isStale place.2
  let known := fresh.foldl (fun n place => min n place.2.number) lexer.tokens.size
  lexer.tokens.toList.take known ++ [.flaw trouble]

/-- Goes to the next token, and closes the collections that end before it. -/
def approach (lexer : Lexer) : Option Lexer :=
  (toNext lexer.cursor.fuel lexer).forgetStale.map fun next => next.unwind next.cursor.column

/-- Reads tokens to the end of the text. Each takes a character at least. -/
def run : Nat → Lexer → List Token
  | 0, lexer => lexer.upTo .broken
  | fuel + 1, lexer =>
    match lexer.approach with
    | none => lexer.upTo .broken
    | some next =>
      if next.cursor.rest.isEmpty then
        match next.finish with
        | some done => done.tokens.toList
        | none => lexer.upTo .broken
      else
        match next.token with
        | .ok done => run fuel done
        | .error trouble => lexer.upTo trouble

end Lexer

/-- The tokens of a text. A byte order mark at its start means nothing. -/
def Token.ofText (text : List Char) : List Token :=
  if !text.all isAllowed then [.flaw .broken]
  else
    let start : Cursor := { rest := text }
    let cursor := if start.peek = '\ufeff' then start.advance else start
    Lexer.run cursor.fuel { cursor }

end ConsoleKeeper.Yaml
