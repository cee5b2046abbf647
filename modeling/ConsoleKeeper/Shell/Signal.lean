import ConsoleKeeper.Shell.Expansion

/-!
# `ConsoleKeeper.Shell.Signal`: signals to scripts

A signal ends the program that it is sent to, unless the program has said what to do instead. A few
signals do nothing by themselves, and one cannot be answered at all.
-/

set_option autoImplicit false

namespace ConsoleKeeper.Shell

/-- The signals by their numbers: the name of each, and what is said about a program that it ends.
-/
def signals : List (Nat × String × String) :=
  [(0, "EXIT", ""), (1, "HUP", "Hangup"), (2, "INT", ""), (3, "QUIT", "Quit"),
    (4, "ILL", "Illegal instruction"), (5, "TRAP", "Trace/breakpoint trap"), (6, "ABRT", "Aborted"),
    (7, "BUS", "Bus error"), (8, "FPE", "Floating point exception"), (9, "KILL", "Killed"),
    (10, "USR1", "User defined signal 1"), (11, "SEGV", "Segmentation fault"),
    (12, "USR2", "User defined signal 2"), (13, "PIPE", ""), (14, "ALRM", "Alarm clock"),
    (15, "TERM", "Terminated"), (16, "16", "Stack fault"), (17, "CHLD", "Child exited"),
    (18, "CONT", "Continued"), (19, "STOP", "Stopped (signal)"), (20, "TSTP", "Stopped"),
    (21, "TTIN", "Stopped (tty input)"), (22, "TTOU", "Stopped (tty output)"),
    (23, "URG", "Urgent I/O condition"), (24, "XCPU", "CPU time limit exceeded"),
    (25, "XFSZ", "File size limit exceeded"), (26, "VTALRM", "Virtual timer expired"),
    (27, "PROF", "Profiling timer expired"), (28, "WINCH", "Window changed"),
    (29, "IO", "I/O possible"), (30, "PWR", "Power failure"), (31, "SYS", "Bad system call")]

/-- The highest number of a signal. -/
def lastSignal : Nat := 64

/-- The name of a signal. -/
def signalName (number : Nat) : String :=
  match signals.lookup number with
  | some (name, _) => name
  | none => String.ofList (digitsOf number)

/-- What is said about a program that a signal ends. -/
def signalWords (number : Nat) : String :=
  match signals.lookup number with
  | some (_, words) => words
  | none => "Real-time signal " ++ String.ofList (digitsOf (number - 34))

/-- The signal that a text stands for: its number or its name. -/
def signalOf? (text : String) : Option Nat :=
  let chars := text.toList
  if !chars.isEmpty && chars.all Char.isDigit then
    if digitsValue chars ≤ lastSignal then some (digitsValue chars) else none
  else
    let name := String.ofList (chars.map Char.toUpper)
    (signals.find? fun s => s.2.1 = name).map (·.1)

/-- The signals that do nothing unless they are answered. -/
def quietSignals : List Nat := [0, 17, 18, 23, 28]

/-- The signals that make a program wait without end. -/
def holdingSignals : List Nat := [19, 20, 21, 22]

/-- The signal that ends a program whatever it has said. -/
def finalSignal : Nat := 9

namespace Run

/-- Sends a signal to a program. -/
def send (carry : Carrier) (number process : Nat) : Run Unit := do
  let session ← get
  let answer := if number = finalSignal || process ≠ session.process then none
    else session.traps.lookup number
  match answer with
  | some action =>
    let status := session.status
    scriptText carry action.toList
    conclude status
  | none =>
    if quietSignals.contains number then pure ()
    else if holdingSignals.contains number then leave .unwatched
    else leave (.signal number process)

/-- The program that a text names, if it is one that sends or that waits for the sender. -/
def processOf? (text : String) : Run (Option Nat) := do
  let session ← get
  if text = "0" then pure (some session.process)
  else pure ((List.range (session.process + 1)).find? fun n => processText n = text)

end Run

end ConsoleKeeper.Shell
