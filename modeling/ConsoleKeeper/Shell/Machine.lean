import ConsoleKeeper.Shell.Evaluation

/-!
# `ConsoleKeeper.Shell.Machine`: a host that knows scripts and common tools

The machine starts programs as a host does: tools by their names or paths, and scripts in files.
Starting takes a moment, and waiting takes the time that it says; all else is done at once.

This is the one host that is written out. Supervision takes any host, so it does not need this one.
-/

set_option autoImplicit false

namespace ConsoleKeeper.Shell.Machine

/-- The most bytes that a word or a variable may have when a program is started. -/
def wordLimit : Nat := 131071

/-- Whether a program can be given what it is started with. -/
def fits (launch : Launch) : Bool :=
  launch.words.all (fun word => Tree.bytesIn word ≤ wordLimit) &&
    launch.environment.all fun (name, value) =>
      Tree.bytesIn name + Tree.bytesIn value < wordLimit

/-- How long it takes to start a program. -/
def startingTime : Moment := 1000000

/-- How deep clauses are carried out inside one another. -/
def depth : Nat := 1000

/-- The session of a program that is started: what it writes is gathered, and it has nothing to
read. -/
def sessionOf (files : Tree) (launch : Launch) (limit : Option Moment) : Session where
  files := files
  limit := limit
  sinks := #[[], []]
  channels := [(0, .nothing), (1, .sink 0), (2, .sink 1)]
  bindings := launch.environment.map fun (name, value) => ⟨name, value, true⟩

/-- What was written to a sink, from the first on. -/
def utterances (session : Session) (sink : Nat) (stream : OutputStream) : List Utterance :=
  ((session.sinks[sink]?).getD []).reverse.map fun (moment, bytes) => ⟨moment, stream, bytes⟩

/-- How a program ended, if it was not left before. -/
def endingOf (outcome : Except Leave Nat) (session : Session) : Option Ending :=
  let moment := max session.clock session.trailing
  let watched : Bool := match session.limit with
    | some limit => moment < limit
    | none => true
  let status? : Option Int := match outcome with
    | .ok status | .error (.exit status) | .error (.back status) => some status
    | .error (.breakOut _) | .error (.goOn _) => some session.status
    | .error (.signal number _) => some (-(number : Int))
    | .error .unwatched => none
  if watched then status?.map fun status => ⟨moment, status⟩ else none

/-- The conduct of a program. -/
def conduct (files : Tree) (launch : Launch) (limit : Option Moment) (path : String)
    (program : Program) : Conduct :=
  let action : Run Nat := do
    Run.wait startingTime
    Start.program (Evaluation.carry depth) path program launch.words.tail
  let (outcome, session) := action.run (sessionOf files launch limit)
  { utterances := utterances session 0 .stdout ++ utterances session 1 .stderr
    ending := endingOf outcome session
    files := { session.files with workplace := files.workplace } }

/-- The search path of a launch. -/
def searchOf (launch : Launch) : String :=
  ((launch.environment.reverse.find? (·.1 = "PATH")).map (·.2)).getD Program.usualSearch

/-- The system as a host. -/
def host : Host := fun files launch limit =>
  let name := launch.words.headD ""
  if !fits launch then .error .tooLong
  else
    match Program.find files (searchOf launch) name with
    | .error reason => .error reason
    | .ok (path, program) =>
      -- a tool sees the name by which it was started, a script its path
      let own := match program with
        | .tool _ => name
        | .file _ _ => path
      .ok (conduct files launch limit own program)

end ConsoleKeeper.Shell.Machine
