import ConsoleKeeper.Data.Table
import ConsoleKeeper.Number.Decimal
import ConsoleKeeper.Text.Literal

/-!
# `ConsoleKeeper.Data.Basic`: documents as values

Cluster objects, settings documents and the details of an error are trees of plain values. A mapping
in such a tree is a `Table` with names for keys: it keeps the order in which its names first came,
and a name occurs once.

`Data.literal` shows a tree in one line, the way a log or an error shows it.
-/

set_option autoImplicit false

namespace ConsoleKeeper

/-- A tree of plain values. Whole numbers and binary numbers are different things: `5` is a whole
number and `5.0` is not. -/
inductive Data where
  | null
  | bool (value : Bool)
  | int (value : Int)
  | float (value : Binary64)
  | text (value : String)
  | list (items : List Data)
  | object (fields : List (String × Data))
  /-- Raw bytes, which a document may write in a coded form. -/
  | bytes (value : List UInt8)
  /-- A text with half of a surrogate pair in it, which no form of the text can encode. -/
  | brokenText
  /-- A value of a kind that no setting takes, such as a date. -/
  | foreign (kind : String)
  deriving Repr, Inhabited, BEq

/-- A mapping from names to values, in the order in which the names first came. -/
abbrev Fields := Table String Data

namespace Fields

/-- Puts a value under a name that has none yet. -/
def setDefault (fields : Fields) (key : String) (value : Data) : Fields :=
  if fields.has key then fields else fields ++ [(key, value)]

/-- The mapping of a row of pairs, of which later ones replace earlier ones. -/
def ofPairs (pairs : List (String × Data)) : Fields :=
  pairs.foldl (fun fields pair => fields.put pair.1 pair.2) []

end Fields

namespace Data

/-- Whether a value counts as nothing: null, false, zero, or empty. -/
def isFalsy : Data → Bool
  | null => true
  | bool b => !b
  | int n => n = 0
  | float x => x.isZero
  | text s => s.isEmpty
  | list items => items.isEmpty
  | object fields => fields.isEmpty
  | bytes bs => bs.isEmpty
  | brokenText | foreign _ => false

/-- The value under a name, null if the name has none. -/
def field (fields : Fields) (key : String) : Data :=
  (Table.get? fields key).getD null

/-- The text that a value is. -/
def text? : Data → Option String
  | text s => some s
  | _ => none

mutual

/-- A tree in one line: texts as literals, mappings in braces. -/
def literal : Data → List Char
  | null => "None".toList
  | bool true => "True".toList
  | bool false => "False".toList
  | int n => wholeText n
  | float x => x.text
  | text s => Text.literal s.toList
  | list items => ['['] ++ literals items ++ [']']
  | object fields => ['{'] ++ entries fields ++ ['}']
  | bytes bs => ['b'] ++ Text.literal (bs.map fun b => Char.ofNat b.toNat)
  | brokenText => ['\'', '\'']
  | foreign kind => ['<'] ++ kind.toList ++ ['>']

/-- The literals of a list, with commas between them. -/
def literals : List Data → List Char
  | [] => []
  | [item] => item.literal
  | item :: items => item.literal ++ [',', ' '] ++ literals items

/-- The entries of a mapping, with commas between them. -/
def entries : List (String × Data) → List Char
  | [] => []
  | [(key, value)] => Text.literal key.toList ++ [':', ' '] ++ value.literal
  | (key, value) :: rest =>
    Text.literal key.toList ++ [':', ' '] ++ value.literal ++ [',', ' '] ++ entries rest

end

/-- A value inside a message: a text as it is, anything else in one line. -/
def shown : Data → String
  | text s => s
  | value => String.ofList value.literal

/-- A list of texts. -/
def texts (items : List String) : Data :=
  list (items.map text)

/-- A text, or null. -/
def textOrNull : Option String → Data
  | some s => text s
  | none => null

end Data

end ConsoleKeeper
