import ConsoleKeeper.Shell.Printing
import ConsoleKeeper.Shell.Testing
import ConsoleKeeper.Shell.Tools.Basic

/-!
# `ConsoleKeeper.Shell.Tools.Say`: tools that say what they are told

These tools write their arguments, the variables, or the working directory, or answer a test.
-/

set_option autoImplicit false

namespace ConsoleKeeper.Shell.Tools

open ConsoleKeeper.Shell.Run

/-- Writes shared variables. -/
def printenv : Tool := fun arguments => do
  let session ← get
  let shared := session.bindings.filter (·.shared)
  match arguments with
  | [] =>
    finish (withEnds (shared.map fun v => Text.Utf8.encode (v.name ++ "=" ++ v.value).toList)) 0
  | names =>
    let found := names.filterMap fun name => (shared.find? (·.name = name)).map (·.value)
    finish (withEnds (found.map fun value => Text.Utf8.encode value.toList))
      (if found.length = names.length then 0 else 1)

/-- Writes its arguments, as the program of that name does: escapes count only if it is told so. -/
def plainEcho : Tool := fun arguments =>
  let isOption (a : String) : Bool :=
    match a.toList with
    | '-' :: c :: rest => (c :: rest).all fun c => ['n', 'e', 'E'].contains c
    | _ => false
  let letters := (arguments.takeWhile isOption).flatMap String.toList
  let text := (String.intercalate " " (arguments.dropWhile isOption)).toList
  let (bytes, stop) :=
    if letters.contains 'e' then Printing.escaped text else (Text.Utf8.encode text, false)
  finish (if letters.contains 'n' || stop then bytes else bytes ++ [10]) 0

/-- Writes its arguments with their escapes. -/
def echo : Tool := fun arguments => do
  if ← write 1 (Printing.echoed arguments) then pure 0
  else
    complain "echo: I/O error"
    pure 1

/-- Writes by a format. -/
def printf : Tool := fun arguments => do
  match (if arguments.head? = some "--" then arguments.tail else arguments) with
  | [] =>
    complain "printf: usage: printf format [arg ...]"
    pure 2
  | format :: arguments =>
    let printed := Printing.formatted format arguments
    let open_ ← write 1 printed.bytes
    printed.misfits.forM fun misfit => complain ("printf: " ++ misfit.message)
    if printed.misfits.any (·.isFatal) then pure 2
    else if open_ && printed.misfits.isEmpty then pure 0
    else pure 1

/-- Tests, and gives the answer as a status. -/
def testAs (own : String) : Tool := fun words => do
  let session ← get
  match Testing.answer session.files words with
  | .ok true => pure 0
  | .ok false => pure 1
  | .error misuse =>
    complain (own ++ ": " ++ misuse.message)
    pure 2

/-- Tests, and gives the answer as a status. -/
def test : Tool := testAs "test"

/-- Tests what stands before a closing bracket. -/
def bracket : Tool := fun words => do
  if words.getLast? = some "]" then testAs "[" words.dropLast
  else
    complain "[: missing ]"
    pure 2

/-- Writes the path of the working directory. -/
def pwd : Tool := fun _ => do
  let session ← get
  finish (withEnds [Text.Utf8.encode
    ("/" ++ String.intercalate "/" session.files.workplace).toList]) 0

end ConsoleKeeper.Shell.Tools
