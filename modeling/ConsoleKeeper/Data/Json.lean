import ConsoleKeeper.Data.Basic

/-!
# `ConsoleKeeper.Data.Json`: the JSON form of a document

`Json.parse` reads a whole text. A number with a point or an exponent is a binary number, any other
is a whole number of any size. The words for infinity and for what is no number are accepted, and of
two equal names in an object the later one counts. `Json.render` writes a value in one line with
letters outside ASCII escaped; it writes a binary number as a text, so that no digit is lost.
-/

set_option autoImplicit false

namespace ConsoleKeeper.Json

/-- The characters that may stand between the parts of a document. -/
def isSpace (c : Char) : Bool :=
  c = ' ' || c = '\t' || c = '\n' || c = '\r'

/-- A text without the spaces at its start. -/
def skipSpaces (cs : List Char) : List Char :=
  cs.dropWhile isSpace

/-- The value of a hexadecimal digit. -/
def hexValue? (c : Char) : Option Nat :=
  let n := c.toNat
  if 48 ≤ n && n ≤ 57 then some (n - 48)
  else if 97 ≤ n && n ≤ 102 then some (n - 87)
  else if 65 ≤ n && n ≤ 70 then some (n - 55)
  else none

/-- Reads four hexadecimal digits. -/
def fourHex? : List Char → Option (Nat × List Char)
  | a :: b :: c :: d :: rest => do
    let a ← hexValue? a
    let b ← hexValue? b
    let c ← hexValue? c
    let d ← hexValue? d
    some (((a * 16 + b) * 16 + c) * 16 + d, rest)
  | _ => none

/-- The character with a code, or the replacement character if the code has none. -/
def charOf (n : Nat) : Char :=
  if (Char.ofNat n).toNat = n then Char.ofNat n else '\ufffd'

/-- The character of an escape of one letter. -/
def escapeOf? (c : Char) : Option Char :=
  match c with
  | '"' => some '"'
  | '\\' => some '\\'
  | '/' => some '/'
  | 'b' => some '\x08'
  | 'f' => some '\x0c'
  | 'n' => some '\n'
  | 'r' => some '\r'
  | 't' => some '\t'
  | _ => none

/-- Why a text is no document. -/
inductive Flaw where
  | malformed
  /-- Lists and objects stand inside one another too deep. -/
  | tooDeep
  deriving DecidableEq, Repr, Inhabited

/-- What was read and the text behind it, or why nothing was. -/
abbrev Parse (α : Type) := Except Flaw (α × List Char)

/-- A text in a document; `none` if half of a surrogate pair is in it. -/
abbrev Quoted := Option String

/-- The document that a text in it is. -/
def ofQuoted : Quoted → Data
  | some s => .text s
  | none => .brokenText

/-- Reads an escaped code after `\u`: two halves of a pair make one character, and one half alone
makes none. -/
def escapedCode (cs : List Char) : Parse (Option Char) :=
  match fourHex? cs with
  | none => .error .malformed
  | some (n, rest) =>
    -- Half of a pair on its own is no character. Reading goes on behind it, but the text is
    -- broken.
    if 0xd800 ≤ n && n < 0xdc00 then
      match rest with
      | '\\' :: 'u' :: more =>
        match fourHex? more with
        | none => .error .malformed
        | some (k, after) =>
          if 0xdc00 ≤ k && k < 0xe000 then
            .ok (some (charOf (0x10000 + (n - 0xd800) * 1024 + (k - 0xdc00))), after)
          else .ok (none, rest)
      | _ => .ok (none, rest)
    else if 0xdc00 ≤ n && n < 0xe000 then .ok (none, rest)
    else .ok (some (charOf n), rest)

/-- Reads a text up to its closing quote; `done` holds what is read in reverse, as long as each part
of it is a character. -/
def stringBody : Nat → Option (List Char) → List Char → Parse Quoted
  | 0, _, _ => .error .malformed
  | fuel + 1, done, cs =>
    match cs with
    | [] => .error .malformed
    | '"' :: rest => .ok (done.map fun done => String.ofList done.reverse, rest)
    | '\\' :: 'u' :: rest =>
      match escapedCode rest with
      | .ok (c, rest) => stringBody fuel (do return (← c) :: (← done)) rest
      | .error flaw => .error flaw
    | '\\' :: e :: rest =>
      match escapeOf? e with
      | some c => stringBody fuel (done.map (c :: ·)) rest
      | none => .error .malformed
    | c :: rest =>
      if c.toNat < 0x20 then .error .malformed else stringBody fuel (done.map (c :: ·)) rest

/-- How many digits a whole number may have. -/
def wholeLimit : Nat := 4300

/-- Whether digits have no needless zero in front. -/
def isPlainWhole (ds : List Char) : Bool :=
  isDigits ds && (ds.length = 1 || ds.head? ≠ some '0')

/-- Reads a number: whole digits, then an optional fraction and an optional exponent. -/
def number? (cs : List Char) : Option (Data × List Char) :=
  let (negative, rest) := match cs with
    | '-' :: rest => (true, rest)
    | _ => (false, cs)
  let digits := rest.takeWhile Char.isDigit
  -- a zero in front ends the whole part
  let whole := if digits.head? = some '0' then ['0'] else digits
  let rest := rest.drop whole.length
  if !isPlainWhole whole then none
  else
    let (part, rest) := match rest with
      | '.' :: more =>
        let ds := more.takeWhile Char.isDigit
        if ds.isEmpty then (none, rest) else (some ds, more.drop ds.length)
      | _ => (none, rest)
    let (power, rest) := match rest with
      | e :: more =>
        if e = 'e' || e = 'E' then
          let (minus, ds) := takeSign more
          let shown := ds.takeWhile Char.isDigit
          if shown.isEmpty then (none, rest)
          else
            let n : Int := digitsValue shown
            (some (if minus then -n else n), ds.drop shown.length)
        else (none, rest)
      | [] => (none, rest)
    match part, power with
    | none, none =>
      if wholeLimit < whole.length then none
      else
        let n : Int := digitsValue whole
        some (.int (if negative then -n else n), rest)
    | part, power =>
      let ds := part.getD []
      some
        (.float (.ofDecimal negative (digitsValue (whole ++ ds)) (power.getD 0 - ds.length)), rest)

/-- Reads a word that stands for a value. -/
def word? (cs : List Char) : Option (Data × List Char) :=
  let words : List (String × Data) :=
    [("null", .null), ("true", .bool true), ("false", .bool false), ("NaN", .float .nan),
      ("Infinity", .float (.infinite false)), ("-Infinity", .float (.infinite true))]
  words.findSome? fun (word, value) =>
    (List.isPrefixOf? word.toList cs).map fun rest => (value, rest)

/-- How deep lists and objects may stand inside one another. -/
def depthLimit : Nat := 975

mutual

/-- Reads one value at the start of a text; `depth` counts the lists and objects around it. -/
def value : Nat → Nat → List Char → Parse Data
  | 0, _, _ => .error .malformed
  | fuel + 1, depth, cs =>
    match cs with
    | '"' :: rest =>
      (stringBody (rest.length + 1) (some []) rest).map fun (s, rest) => (ofQuoted s, rest)
    | '[' :: rest =>
      if depthLimit ≤ depth then .error .tooDeep
      else
        match skipSpaces rest with
        | ']' :: rest => .ok (.list [], rest)
        | rest => items fuel (depth + 1) [] rest
    | '{' :: rest =>
      if depthLimit ≤ depth then .error .tooDeep
      else
        match skipSpaces rest with
        | '}' :: rest => .ok (.object [], rest)
        | rest => members fuel (depth + 1) [] rest
    | _ =>
      match word? cs <|> number? cs with
      | some found => .ok found
      | none => .error .malformed

/-- Reads the items of a list up to its closing bracket. -/
def items : Nat → Nat → List Data → List Char → Parse Data
  | 0, _, _, _ => .error .malformed
  | fuel + 1, depth, done, cs =>
    match value fuel depth (skipSpaces cs) with
    | .error flaw => .error flaw
    | .ok (item, rest) =>
      match skipSpaces rest with
      | ',' :: rest => items fuel depth (item :: done) rest
      | ']' :: rest => .ok (.list (item :: done).reverse, rest)
      | _ => .error .malformed

/-- Reads the members of an object up to its closing brace. A name that is no proper text is passed
over with its value. -/
def members : Nat → Nat → Fields → List Char → Parse Data
  | 0, _, _, _ => .error .malformed
  | fuel + 1, depth, done, cs =>
    match skipSpaces cs with
    | '"' :: rest =>
      match stringBody (rest.length + 1) (some []) rest with
      | .error flaw => .error flaw
      | .ok (key, rest) =>
        match skipSpaces rest with
        | ':' :: rest =>
          match value fuel depth (skipSpaces rest) with
          | .error flaw => .error flaw
          | .ok (value, rest) =>
            -- A name that is broken can be no key.
            let done := match key with
              | some key => done.put key value
              | none => done
            match skipSpaces rest with
            | ',' :: rest => members fuel depth done rest
            | '}' :: rest => .ok (.object done, rest)
            | _ => .error .malformed
        | _ => .error .malformed
    | _ => .error .malformed

end

/-- Reads a whole text as one value with optional spaces around it. -/
def parse (s : String) : Except Flaw Data :=
  let cs := s.toList
  match value (2 * cs.length + 2) 0 (skipSpaces cs) with
  | .error flaw => .error flaw
  | .ok (value, rest) => if (skipSpaces rest).isEmpty then .ok value else .error .malformed

/-- The value of a text, if it is a document. -/
def parse? (s : String) : Option Data :=
  (parse s).toOption

/-- One character inside a text. -/
def renderChar (c : Char) : List Char :=
  let code (n : Nat) : List Char := ['\\', 'u'] ++ Text.hexDigits 4 n
  if c = '"' || c = '\\' then ['\\', c]
  else if 0x20 ≤ c.toNat && c.toNat < 0x7f then [c]
  else if c.toNat < 0x10000 then code c.toNat
  else
    let n := c.toNat - 0x10000
    code (0xd800 + n / 1024) ++ code (0xdc00 + n % 1024)

/-- A text between quotes. -/
def renderText (cs : List Char) : List Char :=
  ['"'] ++ cs.flatMap renderChar ++ ['"']

mutual

/-- A value in one line. -/
def render : Data → List Char
  | .null => "null".toList
  | .bool true => "true".toList
  | .bool false => "false".toList
  | .int n => wholeText n
  | .float x => renderText x.text
  | .text s => renderText s.toList
  | .list items => ['['] ++ renderItems items ++ [']']
  | .object fields => ['{'] ++ renderMembers fields ++ ['}']
  | .bytes bs => renderText (bs.map fun b => Char.ofNat b.toNat)
  | .brokenText => renderText []
  | .foreign kind => renderText kind.toList

/-- The items of a list. -/
def renderItems : List Data → List Char
  | [] => []
  | [item] => render item
  | item :: items => render item ++ [',', ' '] ++ renderItems items

/-- The members of an object. -/
def renderMembers : List (String × Data) → List Char
  | [] => []
  | [(key, value)] => renderText key.toList ++ [':', ' '] ++ render value
  | (key, value) :: rest =>
    renderText key.toList ++ [':', ' '] ++ render value ++ [',', ' '] ++ renderMembers rest

end

end ConsoleKeeper.Json
