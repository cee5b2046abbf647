import ConsoleKeeper.Text.Split

/-!
# `ConsoleKeeper.Command.Words`: words on a command line

`quote` writes a word so that a shell reads it back as one word, and `join` writes a whole command.
`split?` reads a command line the way a shell does, apart from what it would substitute: `'` keeps
everything up to the next one, `"` keeps everything but a backslash before itself or a backslash,
and outside quotes a backslash keeps the next character.
-/

set_option autoImplicit false

namespace ConsoleKeeper.Words

/-- The characters that mean themselves to a shell. -/
def isPlain (c : Char) : Bool :=
  c.isAlphanum || ['_', '@', '%', '+', '=', ':', ',', '.', '/', '-'].contains c

/-- A quote inside a quoted word: the word is closed, the quote follows between double quotes, and
the word is opened again. -/
def quotedQuote : List Char := ['\'', '"', '\'', '"', '\'']

/-- A word between single quotes. -/
def wrap (word : List Char) : List Char :=
  ['\''] ++ word.flatMap (fun c => if c = '\'' then quotedQuote else [c]) ++ ['\'']

/-- A word as a shell reads it back. -/
def quote (word : List Char) : List Char :=
  if word.isEmpty then ['\'', '\'']
  else if word.all isPlain then word
  else wrap word

/-- A command line of words. -/
def join (words : List String) : String :=
  String.ofList (List.intercalate [' '] (words.map fun word => quote word.toList))

/-- Where the reading of a command line stands. -/
inductive Mode where
  /-- Between words. -/
  | gap
  /-- In a word, outside quotes. -/
  | bare
  /-- After a backslash outside quotes. -/
  | escaped
  /-- Between single quotes. -/
  | single
  /-- Between double quotes. -/
  | double
  /-- After a backslash between double quotes. -/
  | doubleEscaped
  deriving DecidableEq, Repr

/-- Whether a character separates words. -/
def isGap (c : Char) : Bool :=
  c = ' ' || c = '\t' || c = '\r' || c = '\n'

/-- Reads on from a point of a command line; `word` holds the open word in reverse. Nothing if a
quote stays open or a backslash ends the line. -/
def readFrom : Mode → List Char → List Char → Option (List (List Char))
  | .gap, _, [] => some []
  | .bare, word, [] => some [word.reverse]
  | _, _, [] => none
  | .gap, word, c :: rest =>
    if isGap c then readFrom .gap word rest
    else if c = '\'' then readFrom .single [] rest
    else if c = '"' then readFrom .double [] rest
    else if c = '\\' then readFrom .escaped [] rest
    else readFrom .bare [c] rest
  | .bare, word, c :: rest =>
    if isGap c then (readFrom .gap [] rest).map (word.reverse :: ·)
    else if c = '\'' then readFrom .single word rest
    else if c = '"' then readFrom .double word rest
    else if c = '\\' then readFrom .escaped word rest
    else readFrom .bare (c :: word) rest
  | .escaped, word, c :: rest => readFrom .bare (c :: word) rest
  | .single, word, c :: rest =>
    if c = '\'' then readFrom .bare word rest else readFrom .single (c :: word) rest
  | .double, word, c :: rest =>
    if c = '"' then readFrom .bare word rest
    else if c = '\\' then readFrom .doubleEscaped word rest
    else readFrom .double (c :: word) rest
  -- Here a backslash takes the meaning of the quote and of itself only, and stands for itself
  -- before any other character.
  | .doubleEscaped, word, c :: rest =>
    if c = '"' || c = '\\' then readFrom .double (c :: word) rest
    else readFrom .double (c :: '\\' :: word) rest

/-- The words of a command line, if its quotes are closed. -/
def split? (line : String) : Option (List String) :=
  (readFrom .gap [] line.toList).map fun words => words.map String.ofList

end ConsoleKeeper.Words
