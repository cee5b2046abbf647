import ConsoleKeeper.Data.Table
import ConsoleKeeper.Settings.Variables

/-!
# `ConsoleKeeper.Settings.EnvFile`: files of variables

A file of variables has lines such as `NAME=value`, with an optional `export` in front. A value may
stand between quotes, and then go over several lines; behind a bare value a comment may follow. A
line that cannot be read is passed over. A name without a sign behind it has no value.

In a value `${NAME}` stands for the value of a variable that an earlier line or the environment
gives, and `${NAME:-text}` for the text if there is no such variable.
-/

set_option autoImplicit false

namespace ConsoleKeeper.EnvFile

/-- A variable in a file: its name, and its value if it has one. -/
abbrev Binding := String × Option String

/-- Whether a character is a blank inside a line. -/
def isGap (c : Char) : Bool :=
  Text.isSpace c && c ≠ '\n' && c ≠ '\r'

/-- A text without the blanks at its start. -/
def skipGap (cs : List Char) : List Char :=
  cs.dropWhile isGap

/-- What follows the word that may stand in front of a name. -/
def skipExport (cs : List Char) : List Char :=
  match List.isPrefixOf? "export".toList cs with
  | some rest => if (rest.head?.map isGap).getD false then skipGap rest else cs
  | none => cs

/-- The characters before the next single quote, and what follows it. -/
def quotedName? (cs : List Char) : Option (List Char × List Char) :=
  match Text.cutFirst '\'' cs with
  | ([], _) | (_, none) => none
  | (name, some rest) => some (name, rest)

/-- Reads a name, between quotes or bare. -/
def name? : List Char → Option (List Char × List Char)
  | '\'' :: rest => quotedName? rest
  | cs =>
    let name := cs.takeWhile fun c => !(c = '=' || c = '#' || Text.isSpace c)
    if name.isEmpty then none else some (name, cs.drop name.length)

/-- Reads a value up to its closing quote, which no backslash stands before; `done` holds what was
read in reverse. If there is no such quote, the last one with a backslash before it, `last`, closes
the value. -/
def quotedFrom (quote : Char) (last : Option (List Char × List Char)) (done : List Char) :
    List Char → Option (List Char × List Char)
  | [] => last
  | [c] => if c = quote then some (done.reverse, []) else last
  | c :: d :: rest =>
    if c = quote then some (done.reverse, d :: rest)
    else if c = '\\' && d = quote then
      quotedFrom quote (some ((c :: done).reverse, rest)) (d :: c :: done) rest
    else quotedFrom quote last (c :: done) (d :: rest)

/-- The characters that a letter after a backslash stands for between double quotes. -/
def escapes : List (Char × Char) :=
  [('\\', '\\'), ('\'', '\''), ('"', '"'), ('a', '\x07'), ('b', '\x08'), ('f', '\x0c'),
    ('n', '\n'), ('r', '\r'), ('t', '\t'), ('v', '\x0b')]

/-- The escapes between single quotes. -/
def fewEscapes : List (Char × Char) :=
  [('\\', '\\'), ('\'', '\'')]

/-- A text with its escapes replaced by what they stand for. -/
def unescaped (escapes : List (Char × Char)) : List Char → List Char
  | [] => []
  | [c] => [c]
  | c :: d :: rest =>
    match c, escapes.lookup d with
    | '\\', some meant => meant :: unescaped escapes rest
    | _, _ => c :: unescaped escapes (d :: rest)

/-- A bare value without a comment, which starts behind a blank; `afterSpace` says whether one
stands before the text. -/
def withoutComment (afterSpace : Bool) : List Char → List Char
  | [] => []
  | c :: rest =>
    if c = '#' && afterSpace then [] else c :: withoutComment (Text.isSpace c) rest

/-- Reads a value. -/
def value? (cs : List Char) : Option (List Char × List Char) :=
  match cs with
  | '\'' :: rest =>
    (quotedFrom '\'' none [] rest).map fun (value, rest) => (unescaped fewEscapes value, rest)
  | '"' :: rest =>
    (quotedFrom '"' none [] rest).map fun (value, rest) => (unescaped escapes value, rest)
  | _ =>
    let line := cs.takeWhile (· ≠ '\n')
    some (Text.trimRight Text.isSpace (withoutComment false line), cs.drop line.length)

/-- What follows a comment, if one comes next. -/
def skipComment (cs : List Char) : List Char :=
  match skipGap cs with
  | '#' :: rest => rest.dropWhile (· ≠ '\n')
  | _ => cs

/-- What follows the end of the line, if nothing but blanks stands before it. -/
def lineEnd? (cs : List Char) : Option (List Char) :=
  match skipGap cs with
  | [] => some []
  | '\n' :: rest => some rest
  | _ => none

/-- What follows the line. -/
def skipLine (cs : List Char) : List Char :=
  (cs.dropWhile (· ≠ '\n')).drop 1

/-- Reads one line: a variable, if there is one, and what follows. -/
def line (cs : List Char) : Option Binding × List Char :=
  let cs := skipExport cs
  let named : Option (Option (List Char) × List Char) :=
    if cs.head? = some '#' then some (none, cs)
    else (name? cs).map fun (name, rest) => (some name, rest)
  match named with
  | none => (none, skipLine cs)
  | some (name, rest) =>
    let rest := skipGap rest
    let valued : Except (List Char) (Option (List Char) × List Char) := match rest with
      | '=' :: rest =>
        let rest := skipGap rest
        match value? rest with
        | some (value, rest) => .ok (some value, rest)
        | none => .error rest
      | _ => .ok (none, rest)
    match valued with
    | .error rest => (none, skipLine rest)
    | .ok (value, rest) =>
      let rest := skipComment rest
      match lineEnd? rest with
      | some after =>
        -- A comment has no name and binds nothing.
        (name.map fun name => (String.ofList name, value.map String.ofList), after)
      | none => (none, skipLine rest)

/-- Reads the lines of a text, of which each takes a character at least. -/
def linesFrom : Nat → List Char → List Binding
  | 0, _ => []
  | fuel + 1, cs =>
    match cs.dropWhile Text.isSpace with
    | [] => []
    | cs =>
      let (binding, rest) := line cs
      binding.toList ++ linesFrom fuel rest

/-- The variables in the text of a file, as they are written. -/
def ofText (cs : List Char) : List Binding :=
  linesFrom (cs.length + 1) cs

/-- Reads what follows `${` up to the brace: a name, and a text in case it has no value. -/
def mention? (cs : List Char) : Option (List Char × List Char × List Char) :=
  let name := cs.takeWhile fun c => !(c = '\x7d' || c = ':')
  match cs.drop name.length with
  | '\x7d' :: rest => some (name, [], rest)
  | ':' :: '-' :: rest =>
    match Text.cutFirst '\x7d' rest with
    | (other, some rest) => some (name, other, rest)
    | (_, none) => none
  | _ => none

/-- A value with the variables in it replaced by what `valueOf?` gives: a value, no value, or
nothing if there is no such variable. -/
def filled (valueOf? : String → Option (Option String)) : Nat → List Char → List Char
  | 0, cs => cs
  | _ + 1, [] => []
  | fuel + 1, c :: rest =>
    match c, rest with
    | '$', '\x7b' :: more =>
      match mention? more with
      | some (name, other, after) =>
        let value := match valueOf? (String.ofList name) with
          | some value => (value.getD "").toList
          | none => other
        value ++ filled valueOf? fuel after
      | none => c :: filled valueOf? fuel rest
    | _, _ => c :: filled valueOf? fuel rest

/-- The variables of a file with the variables in their values replaced. Of two with one name the
later counts. -/
def resolved (environment : Variables) (bindings : List Binding) :
    Table String (Option String) :=
  bindings.foldl
    (fun done (name, value) =>
      let valueOf? (name : String) : Option (Option String) :=
        match Table.get? done name with
        | some value => some value
        | none => (environment.value? name).map some
      Table.put done name
        (value.map fun v => String.ofList (filled valueOf? (v.length + 1) v.toList)))
    []

/-- The variables that the text of a file gives in an environment. -/
def defined (environment : Variables) (text : List Char) : Table String (Option String) :=
  resolved environment (ofText text)

end ConsoleKeeper.EnvFile
