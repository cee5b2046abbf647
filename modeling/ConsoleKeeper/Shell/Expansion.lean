import ConsoleKeeper.Number.Decimal
import ConsoleKeeper.Shell.Arithmetic
import ConsoleKeeper.Shell.Opening
import ConsoleKeeper.Shell.Pattern
import ConsoleKeeper.Shell.Script

/-!
# `ConsoleKeeper.Shell.Expansion`: what words come to

The value of a word is worked out part by part. What comes from a part that is not quoted is then
cut into fields at blanks, and a field that is an open pattern stands for the paths that fit it, if
there are any.

Carrying out a clause is a parameter here, since a word can hold scripts.
-/

set_option autoImplicit false

namespace ConsoleKeeper.Shell

/-- A bit of the value of a word. -/
inductive Bit where
  /-- A character. Fields are cut only at characters that say so. -/
  | char (c : Char) (quoted splits : Bool)
  /-- Nothing, but quoted: a field that holds it is there even if it is empty. -/
  | mark
  /-- A place where fields are cut in any case. -/
  | gap
  deriving DecidableEq, Repr, Inhabited

namespace Bit

/-- Text as bits. -/
def ofText (text : List Char) (quoted splits : Bool) : List Bit :=
  text.map fun c => .char c quoted splits

/-- The character of a bit, and whether it is quoted. -/
def char? : Bit → Option (Char × Bool)
  | char c quoted _ => some (c, quoted)
  | mark | gap => none

/-- The text of bits; gaps are blanks. -/
def textOf (bits : List Bit) : String :=
  String.ofList (bits.filterMap fun bit =>
    match bit with
    | char c _ _ => some c
    | mark => none
    | gap => some ' ')

/-- Makes what is not quoted a place where fields may be cut. -/
def loosened : Bit → Bit
  | char c false _ => char c false true
  | bit => bit

end Bit

/-- The cutting of fields so far: the open field in reverse, whether it is there at all, whether
blanks were just passed, and the finished fields in reverse. -/
structure Cutting where
  current : List Bit := []
  isThere : Bool := false
  afterBlank : Bool := false
  fields : List (List Bit) := []

namespace Cutting

/-- Finishes the open field. -/
def finished (cutting : Cutting) : Cutting :=
  { fields := cutting.current.reverse :: cutting.fields }

/-- Finishes the open field if there is one. -/
def closed (cutting : Cutting) : Cutting :=
  if cutting.isThere then cutting.finished else { cutting with current := [] }

/-- Takes in a bit. -/
def step (separators : List Char) (cutting : Cutting) (bit : Bit) : Cutting :=
  match bit with
  | .gap => cutting.closed
  | .mark =>
    { cutting with current := bit :: cutting.current, isThere := true, afterBlank := false }
  | .char c _ splits =>
    if splits && separators.contains c then
      if c = ' ' || c = '\t' || c = '\n' then
        if cutting.isThere then { cutting.finished with afterBlank := true } else cutting
      else if !cutting.isThere && cutting.afterBlank then { cutting with afterBlank := false }
      else cutting.finished
    else { cutting with current := bit :: cutting.current, isThere := true, afterBlank := false }

end Cutting

/-- The fields of bits. -/
def fieldsOf (separators : List Char) (bits : List Bit) : List (List Bit) :=
  ((bits.foldl (Cutting.step separators) {}).closed).fields.reverse

/-- The names of what stands directly in a directory. -/
def namesIn (files : Tree) (place : Place) : List String :=
  ((files.nodes.filterMap fun node =>
    match List.isPrefixOf? place node.1 with
    | some [name] => some name
    | _ => none)).mergeSort Tree.pathBefore

/-- The place that a name means in a directory. -/
def placeOf (place : Place) (name : String) : Place :=
  if name.isEmpty || name = "." then place
  else if name = ".." then place.dropLast
  else place ++ [name]

/-- Goes one step further on the paths that fit a pattern. -/
def stepInto (files : Tree) (isLast : Bool) (segment : List (Char × Bool))
    (paths : List (String × Place)) : List (String × Place) :=
  let pattern := Pattern.ofChars segment
  let stop := if isLast then "" else "/"
  paths.flatMap fun (path, place) =>
    if pattern.isOpen then
      let hidden := (segment.head?).any (·.1 = '.')
      (([".", ".."] ++ namesIn files place).filter fun name =>
        pattern.fits name.toList && (hidden || !name.startsWith ".")).map fun name =>
          (path ++ name ++ stop, placeOf place name)
    else
      let name := String.ofList (segment.map (·.1))
      [(path ++ name ++ stop, placeOf place name)]

/-- Goes on to the end of a pattern for paths. -/
def pathsAlong (files : Tree) :
    List (List (Char × Bool)) → List (String × Place) → List (String × Place)
  | [], paths => paths
  | segment :: rest, paths =>
    pathsAlong files rest (stepInto files rest.isEmpty segment paths)

/-- The segments between the slashes of a pattern for paths. -/
def segmentsOf : List (Char × Bool) → List (List (Char × Bool))
  | [] => [[]]
  | c :: rest =>
    if c.1 = '/' then [] :: segmentsOf rest
    else
      match segmentsOf rest with
      | [] => [[c]]
      | segment :: others => (c :: segment) :: others

/-- The paths that a field stands for: those that fit it, or its own text. -/
def pathsOf (files : Tree) (field : List Bit) : List String :=
  let chars := field.filterMap Bit.char?
  let text := Bit.textOf field
  if (Pattern.ofChars chars).isOpen then
    let start : List (String × Place) :=
      match chars with
      | ('/', _) :: _ => [("", [])]
      | _ => [("", files.workplace)]
    let found := (pathsAlong files (segmentsOf chars) start).filter fun (path, _) => files.has path
    if found.isEmpty then [text] else (found.map (·.1)).mergeSort Tree.pathBefore
  else [text]

/-- What carries out a clause. -/
abbrev Carrier := Clause → Run Unit

namespace Run

/-- Carries out a script line by line, up to its fault if it has one. -/
def script (carry : Carrier) (script : Script) : Run Unit := do
  script.lines.forM carry
  match script.fault with
  | none => pure ()
  | some (line, fault) =>
    modify fun session => { session with line }
    complain fault.message
    leave (.exit 2)

/-- Carries out the script that a text is. -/
def scriptText (carry : Carrier) (text : List Char) : Run Unit :=
  script carry (Script.ofText text)

/-- Characters at which fields are cut. -/
def separators : Run (List Char) := do
  pure (((← valueOf? "IFS").getD " \t\n").toList)

/-- A whole number as text. -/
def numberText (n : Nat) : String :=
  String.ofList (digitsOf n)

/-- The number by which scripts know their own program. -/
def processText (process : Nat) : String :=
  numberText (4000 + process)

/-- The value of a parameter. -/
def parameter? (name : String) : Run (Option String) := do
  let session ← get
  match name with
  | "@" | "*" =>
    pure (if session.arguments.isEmpty then none
      else some (String.intercalate " " session.arguments))
  | "#" => pure (some (numberText session.arguments.length))
  | "?" => pure (some (numberText session.status))
  | "$" => pure (some (processText session.process))
  | "!" => pure (if session.processes = session.process then none
      else some (processText session.processes))
  | "-" => pure (some (String.join [if session.strict then "e" else "",
      if session.literal then "f" else "", if session.traced then "x" else "",
      if session.exact then "u" else ""]))
  | "0" => pure (some session.name)
  | _ =>
    if name.toList.all Char.isDigit then
      let n := digitsValue name.toList
      pure session.arguments[n - 1]?
    else valueOf? name

/-- The bits of the arguments of a script. -/
def argumentBits (together quoted : Bool) : Run (List Bit) := do
  let session ← get
  let separators ← separators
  let parts := session.arguments.map fun argument =>
    (if quoted then [Bit.mark] else []) ++ Bit.ofText argument.toList quoted (!quoted)
  if together && quoted then
    let between := Bit.ofText (separators.take 1) true false
    pure (Bit.mark :: List.intercalate between parts)
  else pure (List.intercalate [.gap] parts)

/-- A word that has to be one. -/
def asWord (word : Except Fault Word) : Run Word :=
  match word with
  | .ok word => pure word
  | .error fault => giveUp fault.message

/-- The value of an expression. -/
def calculated (expression : String) : Run Int := do
  let session ← get
  let values := session.bindings.map fun v => (v.name, v.value)
  match Arithmetic.value values expression.toList with
  | .ok (n, assigned) =>
    assigned.forM fun (name, n) => assign name (String.ofList (wholeText n)) false
    pure n
  | .error .divisionByZero =>
    giveUp ("arithmetic expression: division by zero: \"" ++ expression ++ "\"")
  | .error .malformed =>
    giveUp ("arithmetic expression: expecting primary: \"" ++ expression ++ "\"")
  | .error .trailing =>
    giveUp ("arithmetic expression: expecting EOF: \"" ++ expression ++ "\"")
  | .error (.noNumber text) => giveUp ("Illegal number: " ++ text)

/-- The bits of a value. -/
def valueBits (value : String) (quoted : Bool) : List Bit :=
  (if quoted then [Bit.mark] else []) ++ Bit.ofText value.toList quoted (!quoted)

/-- The bits of a part of a word. `fuel` bounds how deep words stand in words. -/
def part (carry : Carrier) : Nat → Part → Run (List Bit)
  | 0, _ => pure []
  | fuel + 1, p => do
    let inside (quoted : Bool) (text : List Char) : Run (List Bit) := do
      let word ← asWord (if quoted then Word.ofQuotedText text else Word.ofText text)
      let bits ← word.mapM (part carry fuel)
      pure (if quoted then Bit.mark :: bits.flatten else bits.flatten.map Bit.loosened)
    match p with
    | .text chars quoted =>
      pure ((if quoted then [Bit.mark] else []) ++ Bit.ofText chars quoted false)
    | .number expression quoted =>
      let bits ← inside true expression
      let n ← calculated (Bit.textOf bits)
      pure (valueBits (String.ofList (wholeText n)) quoted)
    | .output text quoted =>
      let bytes ← captured (scriptText carry text)
      -- A script's text cannot hold the character zero, and newlines at the end of an output are
      -- dropped.
      let chars := (Text.Utf8.decodeLossy bytes).filter (· ≠ '\x00')
      pure (valueBits (String.ofList (Text.trimRight (· = '\n') chars)) quoted)
    | .parameter name alteration argument quoted =>
      let found ← parameter? name
      let value := found.getD ""
      let isWanting (ifEmpty : Bool) : Bool := found.isNone || (ifEmpty && value.isEmpty)
      let plain : Run (List Bit) := do
        if name = "@" || name = "*" then argumentBits (name = "*") quoted
        else pure (valueBits value quoted)
      let session ← get
      -- Under `set -u` a parameter that is not there ends the script, unless the form of the
      -- expansion provides for that.
      let strictly (action : Run (List Bit)) : Run (List Bit) :=
        if session.exact && found.isNone && name ≠ "@" && name ≠ "*" then
          giveUp (name ++ ": parameter not set")
        else action
      match alteration with
      | .value => strictly plain
      | .length => strictly (pure (valueBits (numberText value.utf8ByteSize) quoted))
      | .otherwise ifEmpty => if isWanting ifEmpty then inside quoted argument else plain
      | .replacement ifEmpty =>
        if isWanting ifEmpty then pure (if quoted then [Bit.mark] else [])
        else inside quoted argument
      | .assign ifEmpty =>
        if isWanting ifEmpty then
          let bits ← inside quoted argument
          assign name (Bit.textOf bits) false
          pure bits
        else plain
      | .require ifEmpty =>
        if isWanting ifEmpty then
          let bits ← inside true argument
          let usual := if ifEmpty then "parameter not set or null" else "parameter not set"
          giveUp (name ++ ": " ++ if argument.isEmpty then usual else Bit.textOf bits)
        else plain
      | .trimFront longest => strictly do
        let bits ← inside false argument
        let pattern := Pattern.ofChars (bits.filterMap Bit.char?)
        pure (valueBits (String.ofList (pattern.trimFront longest value.toList)) quoted)
      | .trimBack longest => strictly do
        let bits ← inside false argument
        let pattern := Pattern.ofChars (bits.filterMap Bit.char?)
        pure (valueBits (String.ofList (pattern.trimBack longest value.toList)) quoted)

/-- How deep words can stand in a part. -/
def depthOf : Part → Nat
  | .text _ _ | .output _ _ => 1
  | .number inside _ | .parameter _ _ inside _ => inside.length + 2

/-- A word whose leading tilde is the home directory. -/
def homeward (word : Word) : Run Word := do
  match word with
  | .text ('~' :: rest) false :: parts =>
    if rest.isEmpty || rest.head? = some '/' then
      match ← valueOf? "HOME" with
      | some home => pure (.text home.toList true :: .text rest false :: parts)
      | none => pure word
    else pure word
  | _ => pure word

/-- The bits of a word. -/
def bits (carry : Carrier) (word : Word) : Run (List Bit) := do
  let word ← homeward word
  let bits ← word.mapM fun p => part carry (depthOf p) p
  pure bits.flatten

/-- The text of a word that is not cut into fields. -/
def text (carry : Carrier) (word : Word) : Run String := do
  pure (Bit.textOf (← bits carry word))

/-- The pattern that a word is. -/
def pattern (carry : Carrier) (word : Word) : Run Pattern := do
  pure (Pattern.ofChars ((← bits carry word).filterMap Bit.char?))

/-- The fields of words. -/
def fields (carry : Carrier) (words : List Word) : Run (List String) := do
  let separators ← separators
  let parts ← words.mapM fun word => do
    let found := fieldsOf separators (← bits carry word)
    let session ← get
    pure (if session.literal then found.map Bit.textOf else found.flatMap (pathsOf session.files))
  pure parts.flatten

end Run

end ConsoleKeeper.Shell
