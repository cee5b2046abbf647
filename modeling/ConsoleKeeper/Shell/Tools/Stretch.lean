import ConsoleKeeper.Command.Output
import ConsoleKeeper.Shell.Printing
import ConsoleKeeper.Shell.Tools.Basic

/-!
# `ConsoleKeeper.Shell.Tools.Stretch`: tools that pass bytes on

These tools write what they read, or a part of it: the whole, the front, the back, or with some
bytes exchanged. Two write what they make up themselves.
-/

set_option autoImplicit false

namespace ConsoleKeeper.Shell.Tools

open ConsoleKeeper.Shell.Run

/-- Writes the contents of files. -/
def cat : Tool := fun arguments => do
  let (_, paths) := options arguments
  let (bytes, status) ← contents "cat" paths
  finish bytes status

/-- The duration that a text stands for. -/
def durationOf? (text : String) : Option (Option Nat) :=
  let (digits, unit) := match text.toList.reverse with
    | 's' :: rest => (rest.reverse, 1)
    | 'm' :: rest => (rest.reverse, 60)
    | 'h' :: rest => (rest.reverse, 3600)
    | 'd' :: rest => (rest.reverse, 86400)
    | _ => (text.toList, 1)
  match readDecimal? digits with
  | some (.infinite false) => some none
  | some x =>
    match x.toRatio? with
    | some (num, den) => if num < 0 then none else some (some (num.toNat * unit * 1000000000 / den))
    | none => none
  | none => none

/-- Waits. -/
def sleep : Tool := fun arguments => do
  if arguments.isEmpty then
    tell "sleep: missing operand"
    tell "Try 'sleep --help' for more information."
    pure 1
  else
    match arguments.mapM durationOf? with
    | none =>
      let wrong := (arguments.find? fun a => (durationOf? a).isNone).getD ""
      tell ("sleep: invalid time interval '" ++ wrong ++ "'")
      tell "Try 'sleep --help' for more information."
      pure 1
    | some durations =>
      if durations.contains none then leave .unwatched
      else
        wait (durations.foldl (fun total d => total + d.getD 0) 0)
        pure 0

/-- The count that a tool for the front or the back of a text is asked for. -/
structure Share where
  bytes : Bool := false
  count : Nat := 10
  /-- The count is one of what is left out, or one from which on the text is shown. -/
  complement : Bool := false
  deriving Inhabited

/-- The share that arguments ask for, and the paths. `fuel` bounds the number of arguments. -/
def shareFrom : Nat → Share → List String → Share × List String
  | 0, share, rest => (share, rest)
  | fuel + 1, share, arguments =>
    let counted (bytes : Bool) (text : List Char) (rest : List String) : Share × List String :=
      let share := match text with
        | '-' :: digits => { share with bytes, count := digitsValue digits, complement := true }
        | '+' :: digits => { share with bytes, count := digitsValue digits, complement := true }
        | digits => { share with bytes, count := digitsValue digits, complement := false }
      shareFrom fuel share rest
    match arguments with
    | [] => (share, [])
    | argument :: rest =>
      match argument.toList with
      | ['-', 'n'] => counted false (rest.headD "").toList rest.tail
      | ['-', 'c'] => counted true (rest.headD "").toList rest.tail
      | '-' :: 'n' :: text => counted false text rest
      | '-' :: 'c' :: text => counted true text rest
      | '-' :: c :: text =>
        if c.isDigit then counted false (c :: text) rest else shareFrom fuel share rest
      | _ =>
        let (share, paths) := shareFrom fuel share rest
        (share, argument :: paths)

/-- Bytes as lines with their ends. -/
def linesWithEnds (bytes : List UInt8) : List (List UInt8) :=
  let (lines, rest) := Output.finishedLines bytes
  lines.map (· ++ [10]) ++ (if rest.isEmpty then [] else [rest])

/-- Writes the front of a text. -/
def head : Tool := fun arguments => do
  let (share, paths) := shareFrom (arguments.length + 1) {} arguments
  if share.bytes && !share.complement && paths.isEmpty then
    let bytes ← read 0 (some share.count)
    finish bytes 0
  else if share.bytes && !share.complement && paths = ["/dev/zero"] then
    finish (List.replicate share.count 0) 0
  else
    let (bytes, status) ← contents "head" paths
    if share.bytes then
      finish (if share.complement then bytes.take (bytes.length - share.count)
        else bytes.take share.count) status
    else
      let lines := linesWithEnds bytes
      finish (if share.complement then lines.take (lines.length - share.count)
        else lines.take share.count).flatten status

/-- Writes the back of a text. -/
def tail : Tool := fun arguments => do
  let (share, paths) := shareFrom (arguments.length + 1) {} arguments
  let fromStart := arguments.any fun a => a.contains '+'
  let (bytes, status) ← contents "tail" paths
  let dropped (length : Nat) : Nat :=
    if fromStart then share.count - 1 else length - share.count
  if share.bytes then finish (bytes.drop (dropped bytes.length)) status
  else
    let lines := linesWithEnds bytes
    finish (lines.drop (dropped lines.length)).flatten status

/-- The whole numbers from one to another. `fuel` bounds their number. -/
def numbersFrom : Nat → Int → Int → Int → List Int
  | 0, _, _, _ => []
  | fuel + 1, first, step, last =>
    if (0 < step && last < first) || (step < 0 && first < last) || step = 0 then []
    else first :: numbersFrom fuel (first + step) step last

/-- Writes whole numbers, one on each line. -/
def seq : Tool := fun arguments => do
  let numbers (first step last : Int) : Run Nat :=
    let count := if step = 0 then 0 else ((last - first) / step).toNat + 1
    finish (withEnds ((numbersFrom count first step last).map fun n =>
      Text.Utf8.encode (wholeText n))) 0
  match arguments.map (·.toList) |>.mapM Arithmetic.integer? with
  | some [last] => numbers 1 1 last
  | some [first, last] => numbers first 1 last
  | some [first, step, last] => numbers first step last
  | _ =>
    tell "seq: invalid argument"
    pure 1

/-- The characters that a set names: ranges and escapes are written out. `fuel` bounds the number of
steps. -/
def setFrom : Nat → List Char → List UInt8
  | 0, _ => []
  | fuel + 1, text =>
    match text with
    | [] => []
    | '[' :: ':' :: rest =>
      let name := String.ofList (rest.takeWhile (· ≠ ':'))
      let ranges := (Pattern.classes.lookup name).getD []
      (ranges.flatMap fun (a, b) =>
        (List.range (b.toNat + 1 - a.toNat)).map fun n => UInt8.ofNat (a.toNat + n)) ++
        setFrom fuel ((rest.dropWhile (· ≠ ':')).drop 2)
    | '\\' :: rest =>
      match Printing.escapeAt false rest with
      | (.byte b, rest) => b :: setFrom fuel rest
      | (_, c :: rest) => Text.Utf8.encode [c] ++ setFrom fuel rest
      | (_, []) => [92]
    | a :: '-' :: b :: rest =>
      (List.range (b.toNat + 1 - a.toNat)).map (fun n => UInt8.ofNat (a.toNat + n)) ++
        setFrom fuel rest
    | c :: rest => Text.Utf8.encode [c] ++ setFrom fuel rest

/-- The characters that a set names. -/
def setOf (text : String) : List UInt8 :=
  setFrom (text.length + 1) text.toList

/-- Writes the input with some bytes exchanged, left out or squeezed. -/
def tr : Tool := fun arguments => do
  let (letters, sets) := options arguments
  let first := setOf (sets.headD "")
  let chosen (b : UInt8) : Bool :=
    first.contains b != (letters.contains 'c' || letters.contains 'C')
  let bytes ← read 0 none
  let squeezed (among : UInt8 → Bool) (bytes : List UInt8) : List UInt8 :=
    (bytes.foldl (fun (done : List UInt8) b =>
      if among b && done.head? = some b then done else b :: done) []).reverse
  if letters.contains 'd' then finish (bytes.filter (!chosen ·)) 0
  else
    match sets with
    | [_] => finish (if letters.contains 's' then squeezed chosen bytes else bytes) 0
    | _ =>
      let second := setOf ((sets[1]?).getD "")
      let last := second.getLast?.getD 0
      let exchanged (b : UInt8) : UInt8 :=
        if letters.contains 'c' || letters.contains 'C' then (if chosen b then last else b)
        else
          match first.idxOf? b with
          | some n => (second[n]?).getD last
          -- Where the second set is shorter, its last byte stands for the rest.
          | none => b
      let bytes := bytes.map exchanged
      finish (if letters.contains 's' then squeezed second.contains bytes else bytes) 0

/-- How many words stand in bytes. -/
def wordCount (bytes : List UInt8) : Nat :=
  let blank (b : UInt8) : Bool := b = 32 || (9 ≤ b && b ≤ 13)
  (bytes.foldl (fun (count, inside) b =>
    if blank b then (count, false) else (if inside then count else count + 1, true))
    (0, false)).1

/-- Counts lines, words and bytes. -/
def wc : Tool := fun arguments => do
  let (letters, paths) := options arguments
  let (bytes, status) ← contents "wc" paths
  let all := letters.isEmpty
  let counts :=
    (if all || letters.contains 'l' then [bytes.count 10] else []) ++
    (if all || letters.contains 'w' then [wordCount bytes] else []) ++
    (if all || letters.contains 'c' then [bytes.length] else []) ++
    (if letters.contains 'm' then [(Text.Utf8.decodeLossy bytes).length] else [])
  let texts := counts.map numberText
  let width := if counts.length ≤ 1 then 0 else 7
  let shown := texts.map fun text =>
    String.ofList (List.replicate (width - text.length) ' ') ++ text
  let line := String.intercalate " " (shown ++ paths.take 1)
  finish (withEnds [Text.Utf8.encode line.toList]) status

/-- How many lines are written where they would go on without end. -/
def endless : Nat := 20000

/-- Writes the same line again and again. -/
def yes : Tool := fun arguments =>
  let line := if arguments.isEmpty then "y" else String.intercalate " " arguments
  finish (withEnds (List.replicate endless (Text.Utf8.encode line.toList))) 0

/-- Writes the input to the output and to files. -/
def tee : Tool := fun arguments => do
  let (letters, paths) := options arguments
  let bytes ← read 0 none
  let status ← forEach paths fun path =>
    change "tee" path fun files => files.store path bytes (letters.contains 'a') newFileMode
  finish bytes status

end ConsoleKeeper.Shell.Tools
