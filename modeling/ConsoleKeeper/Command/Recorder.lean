import ConsoleKeeper.Command.Basic

/-!
# `ConsoleKeeper.Command.Recorder`: a runner that starts nothing

A recorder notes each command, together with the files that its arguments name. It can be told to
fail for some commands. For the others it calls a hook, which plays the part of the command; the
hook has a state of its own inside the recorder.
-/

set_option autoImplicit false

namespace ConsoleKeeper

/-- A command that a recorder was asked to run, with the text of each file that it names. -/
structure RecordedCall where
  command : Command
  files : List (String × String)
  deriving DecidableEq, Repr, Inhabited

/-- Which commands a rule is about: those of a program, those with a first argument, or both. -/
structure CommandPattern where
  program : Option String := none
  firstArgument : Option String := none
  deriving DecidableEq, Repr, Inhabited

namespace CommandPattern

/-- Whether a rule is about a command. -/
def fits (pattern : CommandPattern) (command : Command) : Bool :=
  (match pattern.program with
    | some program => command.program = program
    | none => true) &&
  (match pattern.firstArgument with
    | some argument => command.arguments.head? = some argument
    | none => true)

end CommandPattern

/-- A rule by which commands fail: with an exit status, or at the start. -/
structure FailureRule where
  covers : Command → Bool
  status : Int := 1
  atStart : Bool := false

/-- What a recorder knows: the calls so far, the rules, and what its hook remembers. -/
structure Recorder (η : Type) where
  calls : List RecordedCall := []
  rules : List FailureRule := []
  memory : η

namespace Recorder

variable {κ η : Type}

/-- The program and the first argument of each call. -/
def programs (recorder : Recorder η) : List String :=
  recorder.calls.map fun call => String.intercalate " " (call.command.words.take 2)

/-- The text of a file, if a path leads to one. -/
def fileText (files : Tree) (path : String) : Except Failure (Option String) :=
  match files.find path with
  | .ok (.file content _) => (Tree.textOf content).map some
  | .error .nameTooLong => .error (.system (.about .nameTooLong path))
  | _ => .ok none

/-- The texts of the files that arguments name by a path from the root. An argument is taken for a
path, so slashes at its end do not count, but what was found stands under the argument as it is. -/
def filesNamed (files : Tree) (arguments : List String) : Except Failure (List (String × String)) :=
  arguments.foldlM
    (fun found argument => do
      if argument.startsWith "/" && !argument.contains '\x00' then
        match ← fileText files (Path.ofText argument).text with
        | some text => pure (Table.put found argument text)
        | none => pure found
      else pure found)
    []

/-- The failure that the first rule about a command asks for. -/
def failure? (rules : List FailureRule) (command : Command) : Option OperatorError :=
  (rules.find? (·.covers command)).map fun rule =>
    if rule.atStart then startError command "simulated start failure"
    else exitError command rule.status

/-- Notes a command, and fails or calls the hook. -/
def run (hook : Command → Act κ (Recorder η) Unit) : Runner κ (Recorder η) := fun command => do
  let world ← Act.look
  let files ← Act.lift (filesNamed world.files command.arguments)
  -- A command counts as called even where a rule lets it fail.
  Act.change fun world =>
    { world with runner := { world.runner with calls := world.runner.calls ++ [⟨command, files⟩] } }
  Act.report (.commandRecorded command.display)
  let world ← Act.look
  match failure? world.runner.rules command with
  | some e => Act.fail (.operator e)
  | none =>
    hook command
    pure ⟨command.display, 0⟩

/-- Forgets calls and rules. -/
def clear : Act κ (Recorder η) Unit :=
  Act.changeRunner fun recorder => { recorder with calls := [], rules := [] }

/-- Adds a rule after the others. -/
def failWhen (rule : FailureRule) : Act κ (Recorder η) Unit :=
  Act.changeRunner fun recorder => { recorder with rules := recorder.rules ++ [rule] }

end Recorder

end ConsoleKeeper
