import ConsoleKeeper.Command.Words
import ConsoleKeeper.World

/-!
# `ConsoleKeeper.Command.Basic`: external commands

A command is a program with arguments, some environment variables, and the secrets among them.
`display` shows it in one line in which every secret is masked. Logs and errors show a command only
that way.
-/

set_option autoImplicit false

namespace ConsoleKeeper

/-- An external command. -/
structure Command where
  program : String
  arguments : List String := []
  /-- Variables set on top of the operator's own. -/
  environment : List (String × String) := []
  /-- Texts that must not be shown. -/
  secrets : List String := []
  deriving DecidableEq, Repr, Inhabited

namespace Command

/-- What stands in place of a secret. -/
def mask : String := "*****"

/-- Masks the secrets one after the other; an empty one masks nothing. -/
def masked (secrets : List String) (text : List Char) : List Char :=
  secrets.foldl
    (fun text secret =>
      if secret.isEmpty then text else Text.replaceAll secret.toList mask.toList text)
    text

/-- The program and its arguments. -/
def words (command : Command) : List String :=
  command.program :: command.arguments

/-- The command line with every secret masked. -/
def display (command : Command) : String :=
  String.ofList (masked command.secrets (Words.join command.words).toList)

/-- Reads a command. -/
def read : Reading Command :=
  Reading.record fun fields =>
    Command.mk <$> Reading.required fields "program" Reading.text
      <*> Reading.optional fields "args" [] (Reading.list Reading.text)
      <*> Reading.optional fields "env" [] (Reading.mapping Reading.text)
      <*> Reading.optional fields "secrets" [] (Reading.list Reading.text)

/-- Variables as a mapping. -/
def variableFields (environment : List (String × String)) : Fields :=
  environment.map fun (name, value) => (name, .text value)

/-- A command as a record. -/
def fields (command : Command) : Fields :=
  [("program", .text command.program), ("args", .texts command.arguments),
    ("env", .object (variableFields command.environment)), ("secrets", .texts command.secrets)]

/-- The command as a record in one line, which leaves out the secrets. -/
def literal (command : Command) : String :=
  let part (data : Data) : String := String.ofList data.literal
  "ProcessCommand(program=" ++ part (.text command.program) ++ ", args=" ++
    part (.texts command.arguments) ++ ", env=" ++
    part (.object (variableFields command.environment)) ++ ")"

end Command

/-- How a command ended that did not fail. -/
structure CommandResult where
  command : String
  status : Int := 0
  deriving DecidableEq, Repr, Inhabited

namespace CommandResult

/-- Reads a result. -/
def read : Reading CommandResult :=
  Reading.record fun fields =>
    CommandResult.mk <$> Reading.required fields "command" Reading.text
      <*> Reading.optional fields "returncode" 0 Reading.int

/-- A result as a record. -/
def fields (result : CommandResult) : Fields :=
  [("command", .text result.command), ("returncode", .int result.status)]

end CommandResult

/-- Something that runs commands: it gives a result for a command that ends with status zero, and
fails otherwise. -/
abbrev Runner (κ ρ : Type) := Command → Act κ ρ CommandResult

/-- The error of a command that could not be started. -/
def startError (command : Command) (why : String) : OperatorError :=
  .plain .processStart ("Execution failed: " ++ command.display ++ ": " ++ why)
    [("command", .text command.display)]

/-- The error of a command that ended with a status other than zero. -/
def exitError (command : Command) (status : Int) : OperatorError :=
  .plain .processExit
    ("Execution failed (exit status " ++ String.ofList (wholeText status) ++ "): " ++
      command.display)
    [("returncode", .int status), ("command", .text command.display)]

end ConsoleKeeper
