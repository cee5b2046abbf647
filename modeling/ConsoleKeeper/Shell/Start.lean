import ConsoleKeeper.Shell.Language
import ConsoleKeeper.Shell.Program

/-!
# `ConsoleKeeper.Shell.Start`: starting programs

A program that a script starts is a program of its own: it sees the shared variables and the
channels of the script, and when it is done only its status, the files and the time are left of it.
-/

set_option autoImplicit false

namespace ConsoleKeeper.Shell

open ConsoleKeeper.Shell.Run

/-- What a script that is started is asked to do. -/
structure Order where
  /-- The options that are turned on. -/
  letters : List Char := []
  /-- Whether the first word is the script itself and not the path of a file. -/
  inPlace : Bool := false
  words : List String := []
  deriving Inhabited

namespace Order

/-- The order that arguments give. -/
def ofArguments (order : Order) : List String → Order
  | [] => order
  | "--" :: rest => { order with words := rest }
  | word :: rest =>
    match word.toList with
    | '-' :: c :: letters =>
      ofArguments
        { order with
          letters := order.letters ++ (c :: letters).filter (· ≠ 'c')
          inPlace := order.inPlace || (c :: letters).contains 'c' } rest
    | '+' :: _ :: _ => ofArguments order rest
    | _ => { order with words := word :: rest }

end Order

namespace Start

/-- The status with which a script that has ended is left. What was to be done at its end is done.
-/
def concluded (carry : Carrier) (outcome : Except Leave Unit) : Run Nat := do
  let status ← match outcome with
    | .ok () => do pure (← get).status
    | .error (.exit status) | .error (.back status) => pure status
    | .error (.breakOut _) | .error (.goOn _) => do pure (← get).status
    | .error reason => leave reason
  match (← get).traps.lookup 0 with
  | none => pure status
  | some action =>
    conclude status
    modify fun session => { session with traps := session.traps.filter (·.1 ≠ 0) }
    match ← attempt (scriptText carry action.toList) with
    | .error (.exit status) => pure status
    | .error (.signal number process) => leave (.signal number process)
    | .error .unwatched => leave .unwatched
    | _ => pure status

/-- Carries out a text as a script with a name and arguments. -/
def script (carry : Carrier) (name : String) (arguments : List String) (letters : List Char)
    (text : List Char) : Run Nat := do
  modify fun session => { session with name, arguments, line := 1, status := 0 }
  assign "PWD" ("/" ++ String.intercalate "/" (← get).files.workplace) false
  Language.adjust true letters
  let outcome ← attempt (scriptText carry text)
  concluded carry outcome

/-- Carries out what arguments name: a script in place, one in a file, or the input. -/
def shell (carry : Carrier) (own : String) : Tool := fun arguments => do
  let order := Order.ofArguments {} arguments
  match order.inPlace, order.words with
  | true, text :: rest =>
    script carry (rest.headD own) rest.tail order.letters text.toList
  | true, [] =>
    tell (own ++ ": 0: -c requires an argument")
    pure 2
  | false, path :: rest =>
    let session ← get
    match session.files.read path with
    | .ok bytes => script carry path rest order.letters (Text.Utf8.decodeLossy bytes)
    | .error _ =>
      tell (own ++ ": 0: cannot open " ++ path ++ ": No such file")
      pure 2
  | false, [] =>
    let bytes ← read 0 none
    script carry own [] order.letters (Text.Utf8.decodeLossy bytes)

/-- Makes the session that of a program of its own, which knows only the shared variables. -/
def becomeProgram (session : Session) : Session :=
  { session with
    bindings := session.bindings.filter (·.shared)
    functions := []
    constants := []
    own := none
    loops := 0
    jobs := []
    traps := session.traps.filter (·.2.isEmpty)
    strict := false
    exact := false
    traced := false
    literal := false
    guarded := false }

/-- The search path. -/
def searchPath : Run String := do
  pure ((← valueOf? "PATH").getD Program.usualSearch)

/-- Looks a name up and says why it cannot be started, if so. `speaker` stands in front of that. -/
def found (speaker name : String) : Run (Except Nat (String × Program)) := do
  let session ← get
  match Program.find session.files (← searchPath) name with
  | .ok found => pure (.ok found)
  | .error reason =>
    if Program.isAbsence reason then
      complain (speaker ++ name ++ ": not found")
      pure (.error 127)
    else
      complain (speaker ++ name ++ ": " ++ reason.words)
      pure (.error 126)

/-- Runs the tool with a name, with its own path in front of its arguments. `depth` bounds how often
a tool runs another. -/
def tool (carry : Carrier) : Nat → String → String → Tool
  | 0, _, _ => fun _ => pure 126
  | depth + 1, name, own => fun arguments => do
    match name with
    | "sh" | "dash" => shell carry own arguments
    | "kill" => Language.kill carry arguments
    | "env" =>
      let isSetting (word : String) : Bool := word.contains '='
      let words := if arguments.head? = some "-i" || arguments.head? = some "-"
        then arguments.tail else arguments
      -- Only `-i` takes the variables away.
      if words.length < arguments.length then
        modify fun session => { session with bindings := [] }
      let _ ← Language.export_ (words.takeWhile isSetting)
      match words.dropWhile isSetting with
      | [] => Tools.printenv []
      | word :: rest =>
        let session ← get
        match Program.find session.files (← searchPath) word with
        | .ok (path, .tool name) => tool carry depth name path rest
        | .ok (_, .file name before) => tool carry depth name name (before ++ rest)
        | .error reason =>
          tell ("env: '" ++ word ++ "': " ++ reason.words)
          pure (if Program.isAbsence reason then 127 else 126)
    | _ =>
      match Tools.all.lookup name with
      | some tool =>
        modify fun session => { session with name }
        tool arguments
      | none => pure 127

/-- How often a tool may run another. -/
def toolDepth : Nat := 20

/-- Runs a program in place of the script. -/
def program (carry : Carrier) (path : String) (program : Program) : Tool := fun arguments => do
  modify becomeProgram
  match program with
  | .tool name => tool carry toolDepth name path arguments
  | .file name before => tool carry toolDepth name name (before ++ arguments)

/-- Runs a program beside the script, and gives its status. A program that a signal ends has a
status of its own. -/
def beside (carry : Carrier) (path : String) (what : Program) : Tool := fun arguments => do
  let outcome ← apart do
    modify fun session =>
      { session with process := session.processes + 1, processes := session.processes + 1 }
    program carry path what arguments
  match outcome with
  | .ok status => pure status
  | .error (.exit status) | .error (.back status) => pure status
  | .error (.breakOut _) | .error (.goOn _) => pure 0
  | .error (.signal number process) =>
    if process ≤ (← get).process then leave (.signal number process)
    else
      let words := signalWords number
      if !words.isEmpty then tell words
      pure (128 + number)
  | .error .unwatched => leave .unwatched

end Start

end ConsoleKeeper.Shell
