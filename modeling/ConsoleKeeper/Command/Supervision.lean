import ConsoleKeeper.Command.Host
import ConsoleKeeper.Command.Output
import ConsoleKeeper.Number.Decimal
import ConsoleKeeper.Settings.Layers

/-!
# `ConsoleKeeper.Command.Supervision`: running commands on a host

A supervised command runs on a host, and each line that it writes is reported. It may have a limit
of time: a command that is still running then is ended, and has failed. The supervision itself can
be called off, which ends the command as well.

Both outputs are read as they come, and what is reported of one may stand between what is reported
of the other. So `Output.portions` reads an output as `Output.drain` does, and keeps apart what each
delivery brings.
-/

set_option autoImplicit false

namespace ConsoleKeeper

/-- A number of seconds, written with or without a fraction. -/
inductive Seconds where
  | whole (n : Int)
  | decimal (x : Binary64)
  deriving DecidableEq, Repr, Inhabited

namespace Seconds

/-- Seconds as they are shown in a message. -/
def text : Seconds → String
  | whole n => String.ofList (wholeText n)
  | decimal x => String.ofList x.text

/-- Seconds as data. -/
def data : Seconds → Data
  | whole n => .int n
  | decimal x => .float x

/-- Whether no time is left at all. -/
def isZero : Seconds → Bool
  | whole n => n = 0
  | decimal x => x.isZero

/-- The seconds that an error reports: none at all are written with a fraction. -/
def reported (seconds : Seconds) : Data :=
  if seconds.isZero then .float (.ofInt 0) else seconds.data

/-- How many nanoseconds a second has. -/
def nanoseconds : Nat := 1000000000

/-- The moment after so many seconds, the very start for a negative number, and none for a number
without end. -/
def moment? : Seconds → Option Moment
  | whole n => some (n.toNat * nanoseconds)
  | decimal x =>
    x.toRatio?.map fun (num, den) => num.toNat * nanoseconds / den

end Seconds

namespace Output

/-- The pieces of an output, delivery by delivery, and those that its end brings. -/
def portionsFrom (limit : Nat) (secrets : List (List UInt8)) (pending : List UInt8) :
    List Delivery → List (List Emission)
  | [] => [leftover pending]
  | .refused message :: _ => [.unread message :: leftover pending]
  | .bytes stretch :: rest =>
    if stretch.isEmpty then [leftover pending]
    else
      let (pieces, pending) := feed limit secrets pending stretch
      pieces.map .piece :: portionsFrom limit secrets pending rest

/-- The pieces of an output, delivery by delivery, and those that its end brings. -/
def portions (limit : Nat) (secrets : List (List UInt8)) (deliveries : List Delivery) :
    List (List Emission) :=
  portionsFrom limit secrets [] deliveries

/-- Writes of one moment put together. -/
def gathered : List (Moment × List UInt8) → List (Moment × List UInt8)
  | [] => []
  | (moment, bytes) :: rest =>
    match gathered rest with
    | (next, more) :: others =>
      if next = moment then (moment, bytes ++ more) :: others
      else (moment, bytes) :: (next, more) :: others
    | [] => [(moment, bytes)]

/-- Writes in stretches that one look brings, each with its moment. -/
def looks (said : List (Moment × List UInt8)) : List (Moment × Delivery) :=
  (gathered said).flatMap fun (moment, bytes) => (stretches bytes).map fun d => (moment, d)

/-- What is reported about one output of a command, with the moment of each report. The end of the
output brings the last of it, if there is an end. -/
def reports (limit : Nat) (command : Command) (stream : OutputStream)
    (said : List (Moment × List UInt8)) (finish : Option Moment) : List (Moment × Event) :=
  let looks := looks said
  let portions := portions limit (secretBytes command.secrets) (looks.map (·.2))
  let moments := looks.map (·.1) ++ finish.toList
  (moments.zip portions).flatMap fun (moment, portion) =>
    portion.map fun emission => (moment, eventOf command stream emission)

end Output

/-- How commands are run: on a host, with the operator's own environment, within limits. -/
structure Supervision where
  host : Host
  environment : Variables := []
  /-- The time that a command may take. -/
  limit : Option Seconds := none
  /-- The length from which a line of output is cut. -/
  lineLimit : Nat := Output.defaultLimit
  /-- The time after which the supervision is called off. -/
  patience : Option Seconds := none

/-- The error of a command that took too long. -/
def timeoutError (command : Command) (limit : Seconds) : OperatorError :=
  .plain .processTimeout ("Execution exceeded " ++ limit.text ++ "s: " ++ command.display)
    [("timeout_seconds", limit.reported), ("command", .text command.display)]

namespace Command

/-- Whether a host can be given the command at all: no text may hold the character that ends texts,
and the name of a variable may not hold the sign between name and value. -/
def isPassable (command : Command) : Bool :=
  let isText (s : String) : Bool := !s.contains '\x00'
  command.words.all isText &&
    command.environment.all fun (name, value) =>
      isText name && isText value && !name.contains '='

end Command

namespace Supervision

variable {κ ρ : Type}

/-- The earlier of two moments that need not come. -/
def earlier : Option Moment → Option Moment → Option Moment
  | some a, some b => some (min a b)
  | some a, none => some a
  | none, b => b

/-- The moment until which a command is watched. -/
def watchedUntil (s : Supervision) : Option Moment :=
  earlier (s.limit.bind Seconds.moment?) (s.patience.bind Seconds.moment?)

/-- Whether the supervision is called off before the limit is reached. -/
def givesUpFirst (s : Supervision) : Bool :=
  match s.patience.bind Seconds.moment?, s.limit.bind Seconds.moment? with
  | some patience, some limit => patience < limit
  | some _, none => true
  | none, _ => false

/-- What a host is asked to start for a command, whose variables count before the operator's own. -/
def launch (s : Supervision) (command : Command) : Launch where
  words := command.words
  -- Later values replace earlier ones, so the command's own are put last.
  environment :=
    command.environment.foldl (fun all (name, value) => Variables.put all name value)
      s.environment

/-- What is reported about both outputs of a command: in the order of the moments, and the first
output first within a moment. -/
def outputEvents (s : Supervision) (command : Command) (conduct : Conduct) : List Event :=
  let finish := conduct.ending.map (·.moment)
  let of (stream : OutputStream) : List (Moment × Event) :=
    Output.reports s.lineLimit command stream (conduct.said stream) finish
  ((of .stdout ++ of .stderr).mergeSort fun a b => a.1 ≤ b.1).map (·.2)

/-- Ends a command that was still running when nobody watched it any longer. -/
def stop (s : Supervision) (command : Command) : Act κ ρ CommandResult :=
  match s.givesUpFirst, s.limit with
  | false, some limit => do
    Act.report (.commandTimedOut command.display limit.data)
    Act.fail (.operator (timeoutError command limit))
  | _, _ => Act.fail .cancelled

/-- Follows a command that was started. -/
def follow (s : Supervision) (command : Command) (conduct : Conduct) : Act κ ρ CommandResult := do
  Act.change fun world => { world with files := conduct.files }
  (s.outputEvents command conduct).forM Act.report
  match conduct.ending with
  | none => s.stop command
  | some ending =>
    if ending.status = 0 then
      Act.report (.commandFinished command.display ending.status)
      pure ⟨command.display, ending.status⟩
    else
      Act.report (.commandFailed command.display ending.status)
      Act.fail (.operator (exitError command ending.status))

/-- Runs a command. -/
def run (s : Supervision) : Runner κ ρ := fun command => do
  Act.report (.commandStarting command.display)
  if command.isPassable then
    let world ← Act.look
    match s.host world.files (s.launch command) s.watchedUntil with
    | .error reason =>
      let e : SystemError := .about reason command.program
      Act.report (.commandUnstarted command.display e.message)
      Act.fail (.operator ((startError command e.message).causedBy (.system e)))
    | .ok conduct => s.follow command conduct
  else Act.fail .badArgument

end Supervision

end ConsoleKeeper
