import ConsoleKeeper.Command.Host
import ConsoleKeeper.Shell.Basic

/-!
# `ConsoleKeeper.Shell.Session`: a script that is being carried out

A session holds what commands can see and change: files, variables, the channels that lead in and
out, and the time. Only waiting takes time. When the moment comes until which the session is
watched, it is left as it is.

An action of a session ends normally or leaves what it is in: the whole script, a loop, a function.
-/

set_option autoImplicit false

namespace ConsoleKeeper.Shell

/-- Where bytes come from. -/
inductive Source where
  | bytes (rest : List UInt8)
  /-- Zeros without end. -/
  | zeros
  deriving DecidableEq, Repr, Inhabited

/-- Where a channel leads. -/
inductive Channel where
  /-- To one of the places where a session gathers what is written. -/
  | sink (number : Nat)
  /-- To one of the places from which a session reads. -/
  | source (number : Nat)
  /-- To the end of a file. -/
  | file (place : Place)
  /-- To nothing: it takes everything and gives nothing. -/
  | nothing
  deriving DecidableEq, Repr, Inhabited

/-- A variable; one that is shared is seen by the programs that a script starts. -/
structure Variable where
  name : String
  value : String
  shared : Bool
  deriving DecidableEq, Repr, Inhabited

/-- A part of a script that runs in the background: its number, its status, and the moment of its
end. -/
structure Job where
  process : Nat
  status : Nat
  finish : Moment
  deriving DecidableEq, Repr, Inhabited

/-- What commands see and change. -/
structure Session where
  files : Tree
  clock : Moment := 0
  /-- The moment until which the session is watched. -/
  limit : Option Moment := none
  /-- The latest moment at which something in the background ends. -/
  trailing : Moment := 0
  jobs : List Job := []
  /-- What was written to each sink, the latest first. -/
  sinks : Array (List (Moment × List UInt8)) := #[]
  sources : Array Source := #[]
  channels : List (Nat × Channel) := []
  bindings : List Variable := []
  /-- The names of variables that keep their values. -/
  constants : List String := []
  /-- The variables that a function has for itself, with what they were outside; nothing outside of
  functions. -/
  own : Option (List (String × Option Variable)) := none
  functions : List (String × Clause) := []
  /-- What to do instead when a signal comes, or at the end, which has the number zero. -/
  traps : List (Nat × String) := []
  name : String := "sh"
  arguments : List String := []
  /-- The status of the command before. -/
  status : Nat := 0
  /-- How many loops are gone round, one inside another. -/
  loops : Nat := 0
  /-- The line of the command. -/
  line : Nat := 1
  /-- The number of the program that carries out the script. -/
  process : Nat := 0
  /-- How many programs were started. -/
  processes : Nat := 0
  /-- Whether a script ends with the first command that fails. -/
  strict : Bool := false
  /-- Whether a script ends where it uses a variable that is not there. -/
  exact : Bool := false
  /-- Whether commands are shown before they are carried out. -/
  traced : Bool := false
  /-- Whether patterns for paths are taken as they are. -/
  literal : Bool := false
  /-- Whether the failure of a command is looked at, so that the script goes on. -/
  guarded : Bool := false
  deriving Inhabited

/-- Why an action of a session does not end normally. -/
inductive Leave where
  | exit (status : Nat)
  | signal (number process : Nat)
  | back (status : Nat)
  | breakOut (loops : Nat)
  | goOn (loops : Nat)
  /-- The session is no longer watched. -/
  | unwatched
  deriving DecidableEq, Repr, Inhabited

/-- An action of a session. -/
abbrev Run (α : Type) := ExceptT Leave (StateM Session) α

namespace Run

variable {α : Type}

/-- Leaves what the action is in. -/
def leave (reason : Leave) : Run α :=
  throw reason

/-- Runs an action and gives its outcome as a value. -/
def attempt (action : Run α) : Run (Except Leave α) :=
  ExceptT.mk do
    let outcome ← action.run
    pure (.ok outcome)

/-- Goes on with an outcome. -/
def resume : Except Leave α → Run α
  | .ok a => pure a
  | .error reason => leave reason

/-- Lets time pass. -/
def wait (duration : Nat) : Run Unit := do
  let session ← get
  let moment := session.clock + duration
  match session.limit with
  | none => set { session with clock := moment }
  | some limit =>
    if moment < limit then set { session with clock := moment }
    else
      set { session with clock := limit }
      leave .unwatched

/-- Writes to a channel, and says whether it is open for that. -/
def write (channel : Nat) (bytes : List UInt8) : Run Bool := do
  let session ← get
  match session.channels.lookup channel with
  | some (.sink n) =>
    if !bytes.isEmpty then
      set { session with sinks := session.sinks.modify n ((session.clock, bytes) :: ·) }
    pure true
  | some (.file place) =>
    match session.files.at? place with
    | some (.file content mode) =>
      set { session with files := session.files.put place (.file (content ++ bytes) mode) }
    | _ => pure ()
    pure true
  | some .nothing => pure true
  | some (.source _) | none => pure false

/-- Writes text to a channel. -/
def writeText (channel : Nat) (text : String) : Run Bool :=
  write channel (Text.Utf8.encode text.toList)

/-- Tells people about something that went wrong. -/
def tell (text : String) : Run Unit :=
  discard (writeText 2 (text ++ "\n"))

/-- Tells people what went wrong in the script, and where. -/
def complain (text : String) : Run Unit := do
  let session ← get
  tell (session.name ++ ": " ++ toString session.line ++ ": " ++ text)

/-- Gives up a script, and says why. -/
def giveUp (why : String) : Run α := do
  complain why
  leave (.exit 2)

/-- What a channel has still to give, as far as it is no more than the given number of bytes, and
all of it if there is no such number. Zeros without end are given only so far. -/
def read (channel : Nat) (count : Option Nat) : Run (List UInt8) := do
  let session ← get
  match session.channels.lookup channel with
  | some (.source n) =>
    match session.sources[n]? with
    | some (.bytes rest) =>
      let given := match count with
        | some k => rest.take k
        | none => rest
      let rest := match count with
        | some k => rest.drop k
        | none => []
      set { session with sources := session.sources.set! n (.bytes rest) }
      pure given
    | some .zeros => pure (List.replicate (count.getD 0) 0)
    | none => pure []
  | _ => pure []

/-- Opens a new place to gather what is written, and gives its number. -/
def openSink : Run Nat := do
  let session ← get
  set { session with sinks := session.sinks.push [] }
  pure session.sinks.size

/-- What was written to a sink. -/
def gathered (sink : Nat) : Run (List UInt8) := do
  let session ← get
  pure (((session.sinks[sink]?).getD []).reverse.flatMap (·.2))

/-- Opens a new place to read from, and gives the channel that leads there. -/
def openSource (source : Source) : Run Channel := do
  let session ← get
  set { session with sources := session.sources.push source }
  pure (.source session.sources.size)

/-- Leads a channel somewhere. -/
def lead (number : Nat) (channel : Channel) : Run Unit :=
  modify fun session =>
    { session with
      channels := (number, channel) :: session.channels.filter (·.1 ≠ number) }

/-- Closes a channel. -/
def close (number : Nat) : Run Unit :=
  modify fun session => { session with channels := session.channels.filter (·.1 ≠ number) }

/-- Notes the status of a command. -/
def conclude (status : Nat) : Run Unit :=
  modify fun session => { session with status }

/-- The value of a variable. -/
def valueOf? (name : String) : Run (Option String) := do
  let session ← get
  pure ((session.bindings.find? (·.name = name)).map (·.value))

/-- Variables with one that has a new value. -/
def assigned (bindings : List Variable) (name value : String) (shared : Bool) : List Variable :=
  match bindings with
  | [] => [⟨name, value, shared⟩]
  | v :: rest =>
    if v.name = name then ⟨name, value, v.shared || shared⟩ :: rest
    else v :: assigned rest name value shared

/-- Gives a variable a value, unless it keeps the one that it has. -/
def assign (name value : String) (shared : Bool) : Run Unit := do
  let session ← get
  if session.constants.contains name then giveUp (name ++ ": is read only")
  else set { session with bindings := assigned session.bindings name value shared }

/-- What starts separate and ends separate: what a command changes in it is not seen outside, apart
from files, time, and what was read and written. -/
def apart (action : Run α) : Run (Except Leave α) := do
  let before ← get
  let outcome ← attempt action
  -- What was written and what time it took stays; all else is as it was before.
  modify fun after =>
    { after with
      files := { after.files with workplace := before.files.workplace }
      channels := before.channels
      bindings := before.bindings
      constants := before.constants
      own := before.own
      jobs := before.jobs
      functions := before.functions
      traps := before.traps
      name := before.name
      arguments := before.arguments
      loops := before.loops
      line := before.line
      process := before.process
      strict := before.strict
      exact := before.exact
      traced := before.traced
      literal := before.literal
      guarded := before.guarded }
  pure outcome

/-- The status of an outcome where a script goes on: that of the end of the separate part. -/
def statusOf (status : Nat) : Except Leave Unit → Run Nat
  | .ok () => pure status
  | .error (.exit status) => pure status
  | .error (.back status) => pure status
  | .error (.breakOut _) | .error (.goOn _) => pure status
  | .error (.signal number process) => leave (.signal number process)
  | .error .unwatched => leave .unwatched

/-- Runs a part of a script apart from the rest, and gives its status. -/
def subshell (action : Run Unit) : Run Nat := do
  let outcome ← apart (do
    modify fun session => { session with traps := session.traps.filter (·.2.isEmpty) }
    action)
  let session ← get
  statusOf session.status outcome

/-- What an action writes to the first output. -/
def captured (action : Run Unit) : Run (List UInt8) := do
  let sink ← openSink
  let status ← subshell do
    lead 1 (.sink sink)
    action
  conclude status
  gathered sink

end Run

end ConsoleKeeper.Shell
