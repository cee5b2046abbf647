import ConsoleKeeper.Shell.Basic
import ConsoleKeeper.Text.Split

/-!
# `ConsoleKeeper.Shell.Word`: the parts of words

A word ends at a blank or an operator that is not quoted. Single quotes take everything up to the
next one as it is. Double quotes leave three signs their meaning: the dollar sign, the grave accent
and the backslash.
-/

set_option autoImplicit false

namespace ConsoleKeeper.Shell

/-- The sign that encloses a script whose output is meant. -/
def graveAccent : Char := '\x60'

/-- Goes to the end of an enclosed text. `marks` are the signs that still have to come, the
innermost first; `seen` is what was passed, in reverse. -/
def enclosedFrom : List Char → List Char → List Char → Option (List Char × List Char)
  | [], input, seen => some (seen.reverse, input)
  | _ :: _, [], _ => none
  | mark :: marks, c :: rest, seen =>
    if c = mark then
      if marks.isEmpty then some (seen.reverse, rest) else enclosedFrom marks rest (c :: seen)
    else if mark = '\'' then enclosedFrom (mark :: marks) rest (c :: seen)
    else if c = '\\' then
      match rest with
      | [] => none
      | d :: rest => enclosedFrom (mark :: marks) rest (d :: c :: seen)
    else if mark = graveAccent then enclosedFrom (mark :: marks) rest (c :: seen)
    else if c = '$' then
      match rest with
      | '(' :: rest => enclosedFrom (')' :: mark :: marks) rest ('(' :: c :: seen)
      | '{' :: rest => enclosedFrom ('}' :: mark :: marks) rest ('{' :: c :: seen)
      | rest => enclosedFrom (mark :: marks) rest (c :: seen)
    else if c = '"' || c = graveAccent || (c = '\'' && mark ≠ '"') then
      enclosedFrom (c :: mark :: marks) rest (c :: seen)
    else if c = '(' && mark = ')' then enclosedFrom (')' :: mark :: marks) rest (c :: seen)
    else enclosedFrom (mark :: marks) rest (c :: seen)

/-- What stands before the sign that closes, and what follows it. -/
def enclosed (mark : Char) (input : List Char) : Option (List Char × List Char) :=
  enclosedFrom [mark] input []

/-- Adds text to parts that are gathered in reverse. -/
def addText (text : List Char) (quoted : Bool) : List Part → List Part
  | .text before q :: rest =>
    if q = quoted then .text (before ++ text) q :: rest
    else .text text quoted :: .text before q :: rest
  | parts => .text text quoted :: parts

/-- Whether a character is the name of a parameter of its own. -/
def isSpecial (c : Char) : Bool :=
  ['@', '*', '#', '?', '-', '$', '!'].contains c

/-- The name of a parameter at the start, and what follows it. -/
def parameterName? : List Char → Option (String × List Char)
  | [] => none
  | c :: rest =>
    let run (p : Char → Bool) : Option (String × List Char) :=
      some (String.ofList (c :: rest.takeWhile p), rest.dropWhile p)
    if isNameStart c then run isNameChar
    else if c.isDigit then run Char.isDigit
    else if isSpecial c then some (String.ofList [c], rest)
    else none

/-- What is taken from a parameter, by what follows its name in braces. -/
def alterationOf : List Char → Option (Alteration × List Char)
  | [] => some (.value, [])
  | ':' :: '-' :: argument => some (.otherwise true, argument)
  | '-' :: argument => some (.otherwise false, argument)
  | ':' :: '=' :: argument => some (.assign true, argument)
  | '=' :: argument => some (.assign false, argument)
  | ':' :: '?' :: argument => some (.require true, argument)
  | '?' :: argument => some (.require false, argument)
  | ':' :: '+' :: argument => some (.replacement true, argument)
  | '+' :: argument => some (.replacement false, argument)
  | '%' :: '%' :: argument => some (.trimBack true, argument)
  | '%' :: argument => some (.trimBack false, argument)
  | '#' :: '#' :: argument => some (.trimFront true, argument)
  | '#' :: argument => some (.trimFront false, argument)
  | _ => none

/-- The part that stands in braces after a dollar sign. -/
def bracedParameter (inside : List Char) (quoted : Bool) : Except Fault Part :=
  let altered : Except Fault Part :=
    match parameterName? inside with
    | none => .error .badParameter
    | some (name, rest) =>
      match alterationOf rest with
      | none => .error .badParameter
      | some (alteration, argument) => .ok (.parameter name alteration argument quoted)
  match inside with
  | '#' :: counted =>
    match parameterName? counted with
    | some (name, []) => .ok (.parameter name .length [] quoted)
    | _ => altered
  | _ => altered

/-- The part after a dollar sign, and what follows it. -/
def dollarPart (quoted : Bool) (input : List Char) : Except Fault (Part × List Char) :=
  match input with
  | '(' :: rest =>
    match enclosed ')' rest with
    | none =>
      .error (if rest.head? = some '(' then .openNumber
        else Fault.unexpectedEnd.wanting "\")\"")
    | some (inside, rest) =>
      if inside.head? = some '(' && inside.getLast? = some ')' && 2 ≤ inside.length then
        .ok (.number inside.tail.dropLast quoted, rest)
      else .ok (.output inside quoted, rest)
  | '{' :: rest =>
    match enclosed '}' rest with
    | none => .error .openBrace
    | some (inside, rest) => (bracedParameter inside quoted).map fun part => (part, rest)
  | c :: rest =>
    if c.isDigit then .ok (.parameter (String.ofList [c]) .value [] quoted, rest)
    else
      match parameterName? (c :: rest) with
      | some (name, rest) => .ok (.parameter name .value [] quoted, rest)
      | none => .ok (.text ['$'] quoted, c :: rest)
  | [] => .ok (.text ['$'] quoted, [])

/-- A script between grave accents, in which a backslash protects three signs. -/
def unescapedScript : List Char → List Char
  | '\\' :: c :: rest =>
    if c = '$' || c = '\\' || c = graveAccent then c :: unescapedScript rest
    else '\\' :: c :: unescapedScript rest
  | c :: rest => c :: unescapedScript rest
  | [] => []

/-- The part after a grave accent, and what follows it. -/
def accentPart (quoted : Bool) (input : List Char) : Except Fault (Part × List Char) :=
  match enclosed graveAccent input with
  | none => .error .openScript
  | some (inside, rest) => .ok (.output (unescapedScript inside) quoted, rest)

/-- Adds a part to parts that are gathered in reverse. -/
def addPart : Part → List Part → List Part
  | .text text quoted, parts => addText text quoted parts
  | part, parts => part :: parts

/-- Reads what stands in double quotes. Without `closes` it goes to the end of the input. `fuel`
bounds the number of steps, each of which takes a character at least. -/
def quotedFrom (closes : Bool) :
    Nat → List Char → List Part → Except Fault (List Part × List Char)
  | 0, _, _ => .error .openQuote
  | fuel + 1, input, parts =>
    match input with
    | [] => if closes then .error .openQuote else .ok (parts, [])
    | '"' :: rest =>
      if closes then .ok (parts, rest) else quotedFrom closes fuel rest (addText ['"'] true parts)
    | '\\' :: c :: rest =>
      if c = '\n' then quotedFrom closes fuel rest parts
      else if c = '$' || c = '\\' || c = graveAccent || (c = '"' && closes) then
        quotedFrom closes fuel rest (addText [c] true parts)
      else quotedFrom closes fuel rest (addText ['\\', c] true parts)
    | '$' :: rest =>
      match dollarPart true rest with
      | .error fault => .error fault
      | .ok (part, rest) => quotedFrom closes fuel rest (addPart part parts)
    | c :: rest =>
      if c = graveAccent then
        match accentPart true rest with
        | .error fault => .error fault
        | .ok (part, rest) => quotedFrom closes fuel rest (addPart part parts)
      else quotedFrom closes fuel rest (addText [c] true parts)

/-- Whether a character ends a word. -/
def endsWord (c : Char) : Bool :=
  [' ', '\t', '\n', ';', '&', '|', '<', '>', '(', ')'].contains c

/-- Reads a word; without `stops` it goes to the end of the input. `fuel` bounds the number of
steps, each of which takes a character at least. -/
def wordFrom (stops : Bool) :
    Nat → List Char → List Part → Except Fault (List Part × List Char)
  | 0, input, parts => .ok (parts, input)
  | fuel + 1, input, parts =>
    match input with
    | [] => .ok (parts, [])
    | '\\' :: c :: rest =>
      -- A backslash before a line break takes it away.
      if c = '\n' then wordFrom stops fuel rest parts
      else wordFrom stops fuel rest (addText [c] true parts)
    | '\'' :: rest =>
      match Text.cutFirst '\'' rest with
      | (_, none) => .error .openQuote
      | (inside, some rest) => wordFrom stops fuel rest (addText inside true parts)
    | '"' :: rest =>
      match quotedFrom true (rest.length + 1) rest [] with
      | .error fault => .error fault
      -- Empty quotes make a word, even if nothing else does.
      | .ok ([], rest) => wordFrom stops fuel rest (addText [] true parts)
      | .ok (inside, rest) => wordFrom stops fuel rest (inside ++ parts)
    | '$' :: rest =>
      match dollarPart false rest with
      | .error fault => .error fault
      | .ok (part, rest) => wordFrom stops fuel rest (addPart part parts)
    | c :: rest =>
      if c = graveAccent then
        match accentPart false rest with
        | .error fault => .error fault
        | .ok (part, rest) => wordFrom stops fuel rest (addPart part parts)
      else if stops && endsWord c then .ok (parts, c :: rest)
      else wordFrom stops fuel rest (addText [c] false parts)

namespace Word

/-- The word at the start of an input, and what follows it. -/
def read (input : List Char) : Except Fault (Word × List Char) :=
  (wordFrom true (input.length + 1) input []).map fun (parts, rest) => (parts.reverse, rest)

/-- A whole text as a word, in which blanks and operators are text. -/
def ofText (text : List Char) : Except Fault Word :=
  (wordFrom false (text.length + 1) text []).map fun (parts, _) => parts.reverse

/-- A whole text as it is read in double quotes. -/
def ofQuotedText (text : List Char) : Except Fault Word :=
  (quotedFrom false (text.length + 1) text []).map fun (parts, _) => parts.reverse

/-- The text of a word that has no other parts. -/
def plainText? (word : Word) : Option (List Char) :=
  word.foldr
    (fun part text =>
      match part, text with
      | .text chars _, some text => some (chars ++ text)
      | _, _ => none)
    (some [])

/-- Whether a part of a word is quoted. -/
def isQuoted (word : Word) : Bool :=
  word.any fun part =>
    match part with
    | .text _ quoted | .parameter _ _ _ quoted | .output _ quoted | .number _ quoted => quoted

/-- The text of a word that is neither quoted nor has other parts than text. -/
def bare? (word : Word) : Option String :=
  if word.isQuoted then none else (plainText? word).map String.ofList

/-- The name and the value of a word that assigns. -/
def assignment? (word : Word) : Option (String × Word) :=
  match word with
  | .text chars false :: rest =>
    match Text.cutFirst '=' chars with
    | (name, some value) =>
      if isName name then
        some (String.ofList name, if value.isEmpty then rest else .text value false :: rest)
      else none
    | _ => none
  | _ => none

end Word

end ConsoleKeeper.Shell
