import ConsoleKeeper.Failure.Basic
import ConsoleKeeper.Journal
import ConsoleKeeper.Text.Case

/-!
# `ConsoleKeeper.Journal.Writing`: which records are written, and how

The settings name the least level that is written. A name that is no level means the level for
information. In the plain format a record is a line, unless a text in it has line breaks that are
shown as they are; in the other format it is a document with its level under a name of its own.

The time of a record is part of both forms and is left out here.
-/

set_option autoImplicit false

namespace ConsoleKeeper

namespace Level

/-- The weight below that of all levels. -/
def noWeight : Nat := 0

/-- The least weights that are written, by the names for them in capital letters. -/
def thresholds : List (String × Nat) :=
  [("NOTSET", noWeight), ("DEBUG", debug.weight), ("INFO", info.weight),
    ("WARNING", warning.weight), ("WARN", warning.weight), ("ERROR", error.weight),
    ("CRITICAL", critical.weight), ("FATAL", critical.weight)]

/-- The names that stand for something else in a log than a weight, so that nothing can be written
under them. -/
def misnomers : List (String × Failure) :=
  [("BASIC_FORMAT", .noKey), ("_STYLES", .wrongKind)]

/-- The least weight that is written where the settings have a name for it. -/
def thresholdOf (name : String) : Except Failure Nat :=
  let capital := String.ofList (Text.capitalLatin name.toList)
  match misnomers.lookup capital with
  | some failure => .error failure
  | none => .ok ((thresholds.lookup capital).getD info.weight)

end Level

/-- A record before it is written: what was bound, and what came with the event. -/
structure Note where
  level : Level
  /-- What happened; null if nothing was said. -/
  event : Data
  bound : Fields
  fields : Fields
  deriving Repr, Inhabited

namespace Note

/-- Binds a part of the operator as the one that reports. -/
def boundTo (component : Data) (bound : Fields) : Fields :=
  bound.put "component" component

/-- All fields of a note. Its level counts before a field with that name. -/
def all (note : Note) : Fields :=
  let given := note.fields.foldl (fun all (k, v) => Table.put all k v) note.bound
  let named := if note.event == .null then given else given.put "event" note.event
  (named.erase "timestamp").put "level" (.text note.level.name)

/-- The document form of a note. The request to show an error is no part of it. -/
def document (note : Note) : Fields :=
  note.all.erase "exc_info"

/-! ### The plain form -/

/-- The characters on account of which a text is shown between quotes. -/
def quotedFor : List Char := [' ', '\t', '=', '\r', '\n', '"', '\'']

/-- The value of a field in a line. -/
def shownValue : Data → List Char
  | .text s =>
    if s.toList.any quotedFor.contains then Text.literal s.toList else s.toList
  | value => value.literal

/-- Adds blanks up to a width. -/
def padded (width : Nat) (cs : List Char) : List Char :=
  cs ++ List.replicate (width - cs.length) ' '

/-- How wide an event is at least. -/
def eventWidth : Nat := 30

/-- How wide a level is at least. -/
def levelWidth : Nat := 9

/-- The fields with a place of their own in front of the others, and how each is shown there. -/
def columns : List (String × (List Char → List Char)) :=
  let bracketed (cs : List Char) : List Char := ['['] ++ cs ++ [']']
  [("level", fun cs => bracketed (padded levelWidth cs)), ("event", padded eventWidth),
    ("logger", bracketed), ("logger_name", bracketed)]

/-- The fields that are shown below the line. -/
def trailers : List String := ["stack", "exception", "exc_info"]

/-- The fields of the line without a place of their own, in the order of their names. -/
def others (fields : Fields) : Fields :=
  (fields.filter fun (name, _) =>
    !(columns.lookup name).isSome && !trailers.contains name).mergeSort fun a b => a.1 ≤ b.1

/-- The line of a note. -/
def headLine (fields : Fields) : List Char :=
  let placed := columns.filterMap fun (name, form) =>
    (Table.get? fields name).map fun value => form value.shown.toList
  let named := (others fields).map fun (name, value) => name.toList ++ ['='] ++ shownValue value
  List.intercalate [' '] (placed ++ named)

/-- The rule between a stack and an error. -/
def rule : List Char :=
  ['\n', '\n'] ++ List.replicate 79 '=' ++ ['\n']

/-- A text below the line, which has to be one. -/
def below : Data → Except Failure (List Char)
  | .null => .ok []
  | .text s => .ok ('\n' :: s.toList)
  | _ => .error .wrongKind

/-- What stands below the line: a stack and an error, with a rule between them if an error is to be
shown. -/
def trailer (fields : Fields) : Except Failure (List Char) := do
  let stack := Data.field fields "stack"
  let error := Data.field fields "exception"
  let shown ← below stack
  let ruled := !(stack == .null) &&
    (!(Data.field fields "exc_info").isFalsy || !(error == .null))
  .ok (shown ++ (if ruled then rule else []) ++ (← below error))

/-- The plain form of a note. -/
def text (note : Note) : Except Failure (List Char) := do
  .ok (headLine note.all ++ (← trailer note.all) ++ ['\n'])

/-- How many lines a note takes in the plain form. -/
def lineCount (note : Note) : Except Failure Nat :=
  note.text.map fun cs => (Text.lines cs).length

end Note

namespace LogRecord

/-- The note of a record. -/
def note (record : LogRecord) : Note :=
  { level := record.level
    event := .text record.event
    bound := Note.boundTo (.text record.component) []
    fields := record.fields }

end LogRecord

/-- The notes that are written if the least weight is `threshold`. -/
def writtenFrom (threshold : Nat) (notes : List Note) : List Note :=
  notes.filter fun note => threshold ≤ note.level.weight

end ConsoleKeeper
