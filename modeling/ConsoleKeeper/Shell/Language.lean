import ConsoleKeeper.Shell.Signal
import ConsoleKeeper.Shell.Tools

/-!
# `ConsoleKeeper.Shell.Language`: the commands of the language itself

Some commands change the session that carries out the script: its variables, its arguments, its
working directory, or where it goes on. They are part of the language. `plainCommands` need nothing
but a session; `carryingCommands` carry out other clauses.
-/

set_option autoImplicit false

namespace ConsoleKeeper.Shell.Language

open ConsoleKeeper.Shell.Run

/-- The number that an argument is, if it is one. -/
def numberIn? (text : String) : Option Nat :=
  if !text.isEmpty && text.toList.all Char.isDigit then some (digitsValue text.toList) else none

/-- The number that an argument of a command is. -/
def numberFor (command text : String) : Run Nat :=
  match numberIn? text with
  | some n => pure n
  | none => giveUp (command ++ ": Illegal number: " ++ text)

/-- The status that an argument asks for, or that of the command before. -/
def statusIn (command : String) (arguments : List String) : Run Nat := do
  match arguments with
  | [] => return (← get).status
  | text :: _ => return (← numberFor command text) % 256

/-- Leaves as many loops as an argument names, and no more than there are. -/
def leaveLoops (command : String) (reason : Nat → Leave) : Tool := fun arguments => do
  let named ← match arguments with
    | [] => pure 1
    | text :: _ => numberFor command text
  let loops := (← get).loops
  if named = 0 then giveUp (command ++ ": Illegal number: 0")
  else if loops = 0 then pure 0
  else leave (reason (min named loops))

/-- Changes the working directory. -/
def changeDirectory : Tool := fun arguments => do
  let home := (← valueOf? "HOME").getD ""
  let old := (← valueOf? "OLDPWD").getD ""
  let named := arguments.filter (· ≠ "--")
  let path := match named with
    | [] => home
    | "-" :: _ => old
    | path :: _ => path
  let session ← get
  let refuse : Run Nat := do
    complain ("cd: can't cd to " ++ path)
    pure 2
  -- Going back shows where that is.
  let arrived : Run Nat := if named.head? = some "-" then Tools.pwd [] else pure 0
  if path.isEmpty then arrived
  else
    match nodeAt session.files path, (withSystem session.files).locate path with
    | .ok .directory, .ok place =>
      let before := "/" ++ String.intercalate "/" session.files.workplace
      modify fun session =>
        { session with files := { session.files with workplace := place } }
      assign "OLDPWD" before false
      assign "PWD" ("/" ++ String.intercalate "/" place) false
      arrived
    | _, _ => refuse

/-- Shares variables with programs, and may give them values. -/
def export_ : Tool := fun arguments => do
  arguments.forM fun argument => do
    match Text.cutFirst '=' argument.toList with
    | (name, some value) => assign (String.ofList name) (String.ofList value) true
    | (_, none) =>
      modify fun session =>
        { session with
          bindings := session.bindings.map fun v =>
            if v.name = argument then { v with shared := true } else v }
  pure 0

/-- Makes variables keep the values that they have or that they are given. -/
def fix : Tool := fun arguments => do
  arguments.forM fun argument => do
    match Text.cutFirst '=' argument.toList with
    | (name, value) =>
      let name := String.ofList name
      match value with
      | some value => assign name (String.ofList value) false
      | none => pure ()
      modify fun session => { session with constants := name :: session.constants }
  pure 0

/-- Gives a function variables of its own, which may have values. -/
def local_ : Tool := fun arguments => do
  match (← get).own with
  | none => giveUp "local: not in a function"
  | some _ =>
    arguments.forM fun argument => do
      let (name, value) := Text.cutFirst '=' argument.toList
      let name := String.ofList name
      modify fun session =>
        { session with
          own := session.own.map fun own =>
            if own.any (·.1 = name) then own
            else (name, session.bindings.find? (·.name = name)) :: own }
      match value with
      | some value => assign name (String.ofList value) false
      | none => pure ()
    pure 0

/-- Takes variables and functions away. -/
def unset : Tool := fun arguments => do
  let (letters, names) := Tools.options arguments
  modify fun session =>
    if letters.contains 'f' then
      { session with functions := session.functions.filter fun f => !names.contains f.1 }
    else { session with bindings := session.bindings.filter fun v => !names.contains v.name }
  pure 0

/-- Drops arguments of the script from the front. -/
def shift : Tool := fun arguments => do
  let count ← match arguments with
    | [] => pure 1
    | text :: _ => numberFor "shift" text
  let session ← get
  if session.arguments.length < count then giveUp "shift: can't shift that many"
  else
    set { session with arguments := session.arguments.drop count }
    pure 0

/-- Turns the ways of carrying out a script on or off. -/
def adjust (on : Bool) (letters : List Char) : Run Unit :=
  modify fun session =>
    { session with
      strict := if letters.contains 'e' then on else session.strict
      exact := if letters.contains 'u' then on else session.exact
      traced := if letters.contains 'x' then on else session.traced
      literal := if letters.contains 'f' then on else session.literal }

/-- The letter of an option that has a name. -/
def letterOf (name : String) : List Char :=
  (([("errexit", 'e'), ("nounset", 'u'), ("xtrace", 'x'), ("noglob", 'f')].lookup name).map
    fun letter => [letter]).getD []

/-- Turns ways of carrying out a script on or off, and gives the script arguments. `fuel` bounds the
number of options. -/
def setFrom : Nat → List String → Run Nat
  | 0, _ => pure 0
  | fuel + 1, words => do
    match words with
    | [] => pure 0
    -- From here on all words are arguments, whatever they begin with.
    | "--" :: rest =>
      modify fun session => { session with arguments := rest }
      pure 0
    | "-o" :: name :: rest =>
      adjust true (letterOf name)
      setFrom fuel rest
    | "+o" :: name :: rest =>
      adjust false (letterOf name)
      setFrom fuel rest
    | word :: rest =>
      match word.toList with
      | '-' :: c :: letters =>
        adjust true (c :: letters)
        setFrom fuel rest
      | '+' :: c :: letters =>
        adjust false (c :: letters)
        setFrom fuel rest
      | _ =>
        modify fun session => { session with arguments := word :: rest }
        pure 0

/-- Turns ways of carrying out a script on or off, and gives the script arguments. -/
def adjustOrReplace : Tool := fun words =>
  setFrom (words.length + 1) words

/-- A text in quotes, as a script could hold it. -/
def quoted (text : String) : String :=
  "'" ++ String.intercalate "'\"'\"'" ((Text.splitOn '\'' text.toList).map String.ofList) ++ "'"

/-- Takes note of what to do when signals come, up to the first text that stands for none. -/
def trapAll (action : Option String) : List String → Run Nat
  | [] => pure 0
  | text :: rest => do
    match signalOf? text with
    | none =>
      tell ("trap: " ++ text ++ ": bad trap")
      pure 1
    | some number =>
      modify fun session =>
        let others := session.traps.filter fun t => t.1 ≠ number
        { session with
          traps := match action with
            | some action => (number, action) :: others
            | none => others }
      trapAll action rest

/-- Says what to do when signals come, or tells it. -/
def trap : Tool := fun arguments => do
  match (if arguments.head? = some "--" then arguments.tail else arguments) with
  | [] =>
    let session ← get
    let known := (List.range (lastSignal + 1)).filterMap fun number =>
      (session.traps.lookup number).map fun action =>
        Text.Utf8.encode ("trap -- " ++ quoted action ++ " " ++ signalName number).toList
    Tools.finish (Tools.withEnds known) 0
  | first :: rest =>
    if rest.isEmpty || (numberIn? first).any (· ≤ lastSignal) then trapAll none (first :: rest)
    else trapAll (if first = "-" then none else some first) rest

/-- The characters of a line as they are read: a backslash takes the meaning from the next one. -/
def readChars : List Char → List Bit
  | '\\' :: c :: rest => .char c true false :: readChars rest
  | c :: rest => .char c false true :: readChars rest
  | [] => []

/-- Gives the fields of a line to variables; the last one takes what is left. -/
def distribute (separators : List Char) (line : List Bit) : List String → Run Unit
  | [] => pure ()
  -- The last name gets all that is left, separators included.
  | [name] =>
    let blank (bit : Bit) : Bool :=
      match bit with
      | .char c _ splits => splits && separators.contains c && (c = ' ' || c = '\t' || c = '\n')
      | _ => false
    assign name (Bit.textOf (Text.trim blank line)) false
  | name :: names => do
    let separates (bit : Bit) : Bool :=
      match bit with
      | .char c _ splits => splits && separators.contains c
      | _ => false
    let blank (bit : Bit) : Bool :=
      match bit with
      | .char c _ splits => splits && separators.contains c && (c = ' ' || c = '\t' || c = '\n')
      | _ => false
    let line := line.dropWhile blank
    let first := line.takeWhile (!separates ·)
    assign name (Bit.textOf first) false
    let rest := (line.drop first.length).dropWhile blank
    -- Of the separators that are no blanks one belongs to the field before it.
    let rest := match rest with
      | bit :: others => if separates bit then others else rest
      | [] => []
    distribute separators rest names

/-- Reads the bytes up to the end of a line, and says whether the line has an end. -/
def readLine : Run (List UInt8 × Bool) := do
  let session ← get
  match session.channels.lookup 0 with
  | some (.source n) =>
    match session.sources[n]? with
    | some (.bytes rest) =>
      let line := rest.takeWhile (· ≠ 10)
      let below := rest.drop line.length
      set { session with sources := session.sources.set! n (.bytes below.tail) }
      pure (line, !below.isEmpty)
    | _ => pure ([], false)
  | _ => pure ([], false)

/-- Reads a line into variables. -/
def read_ : Tool := fun arguments => do
  let (letters, names) := Tools.options arguments
  let (bytes, whole) ← readLine
  let text := (Text.Utf8.decodeLossy bytes).filter (· ≠ '\x00')
  let line := if letters.contains 'r' then Bit.ofText text false true else readChars text
  distribute (← separators) line names
  pure (if whole then 0 else 1)

/-- Waits for what runs in the background: for all of it, or for parts named by their numbers. -/
def waitFor : Tool := fun arguments => do
  match arguments with
  | [] =>
    let session ← get
    wait (session.trailing - session.clock)
    pure 0
  | texts =>
    texts.foldlM
      (fun _ text => do
        let session ← get
        if (numberIn? text).isNone then
          complain ("wait: Illegal number: " ++ text)
          pure 2
        else
          match session.jobs.find? fun job => processText job.process = text with
          | none => pure 127
          | some job =>
            wait (job.finish - session.clock)
            pure job.status)
      0

/-- The kind of a name: what a command of that name would be. -/
def kindOf? (session : Session) (commands : List String) (name : String) : Option String :=
  if Parse.keywords.contains name then some " is a shell keyword"
  else if session.functions.any (·.1 = name) then some " is a shell function"
  else if specialCommands.contains name then some " is a special shell builtin"
  else if commands.contains name then some " is a shell builtin"
  else none

/-- Tells the permissions that new files do not get. -/
def umask : Tool := fun arguments =>
  if arguments.isEmpty then Tools.finish (Tools.withEnds [Text.Utf8.encode "0022".toList]) 0
  else pure 0

/-- The commands that need nothing but a session. -/
def plainCommands : List (String × Tool) :=
  [(":", fun _ => pure 0), ("[", Tools.bracket), ("cd", changeDirectory), ("echo", Tools.echo),
    ("export", export_), ("false", fun _ => pure 1), ("local", local_), ("printf", Tools.printf),
    ("pwd", Tools.pwd), ("read", read_), ("readonly", fix), ("set", adjustOrReplace),
    ("shift", shift), ("test", Tools.test), ("times", fun _ => pure 0), ("trap", trap),
    ("true", fun _ => pure 0), ("umask", umask), ("unset", unset),
    ("wait", waitFor), ("hash", fun _ => pure 0), ("jobs", fun _ => pure 0),
    ("break", leaveLoops "break" .breakOut), ("continue", leaveLoops "continue" .goOn),
    ("exit", fun arguments => do leave (.exit (← statusIn "exit" arguments))),
    ("return", fun arguments => do leave (.back (← statusIn "return" arguments)))]

/-- The words about what a signal can be sent with. -/
def killUsage : String :=
  "kill: Usage: kill [-s sigspec | -signum | -sigspec] [pid | job]... or\nkill -l [exitstatus]"

/-- Sends a signal to programs. -/
def sendAll (carry : Carrier) (number : Nat) (targets : List String) : Run Nat := do
  if targets.isEmpty then
    complain killUsage
    pure 2
  else
    match targets.find? fun target => (numberIn? target).isNone with
    | some target =>
      complain ("kill: Illegal number: " ++ target)
      pure 2
    | none =>
      Tools.forEach targets fun target => do
        match ← processOf? target with
        | some process =>
          Run.send carry number process
          pure 0
        | none =>
          complain "kill: No such process\n"
          pure 1

/-- Writes the names of signals. -/
def listSignals : List String → Run Nat
  | [] =>
    Tools.finish (Tools.withEnds ((List.range 32).map fun number =>
      Text.Utf8.encode (if number = 0 then "0" else signalName number).toList)) 0
  | text :: _ => do
    match numberIn? text with
    | none =>
      complain ("kill: Illegal number: " ++ text)
      pure 2
    | some status =>
      let number := if 128 < status then status - 128 else status
      if 0 < number && number ≤ lastSignal then
        Tools.finish (Tools.withEnds [Text.Utf8.encode (signalName number).toList]) 0
      else
        complain ("kill: invalid signal number or exit status: " ++ text)
        pure 2

/-- The number of the signal that is sent where none is named. -/
def usualSignal : Nat := 15

/-- Sends a signal. -/
def kill (carry : Carrier) : Tool := fun arguments => do
  match arguments with
  | "-l" :: rest => listSignals rest
  | "-s" :: name :: targets =>
    match signalOf? name with
    | some number => sendAll carry number targets
    | none =>
      complain ("kill: invalid signal number or name: " ++ name)
      pure 2
  | ["-s"] =>
    complain "kill: No arg for -s option"
    pure 2
  | "--" :: targets => sendAll carry usualSignal targets
  | first :: targets =>
    match first.toList with
    | '-' :: c :: name =>
      match signalOf? (String.ofList (c :: name)) with
      | some number => sendAll carry number targets
      | none =>
        complain ("kill: Illegal option -" ++ String.ofList [c])
        pure 2
    | _ => sendAll carry usualSignal arguments
  | [] => sendAll carry usualSignal []

/-- Carries out arguments as a script. -/
def eval (carry : Carrier) : Tool := fun arguments => do
  conclude 0
  scriptText carry (String.intercalate " " arguments).toList
  return (← get).status

/-- Carries out a file as a part of the script. -/
def include_ (carry : Carrier) : Tool := fun arguments => do
  let path := arguments.headD ""
  let session ← get
  match session.files.read path with
  | .ok bytes =>
    conclude 0
    let outcome ← attempt (scriptText carry (Text.Utf8.decodeLossy bytes))
    match outcome with
    | .error (.back status) => pure status
    | outcome =>
      resume outcome
      return (← get).status
  | .error _ =>
    if path.contains '/' then giveUp (".: cannot open " ++ path ++ ": No such file")
    else giveUp (".: " ++ path ++ ": not found")

/-- The commands that carry out other clauses. -/
def carryingCommands : List (String × (Carrier → Tool)) :=
  [(".", include_), ("eval", eval), ("kill", kill)]

/-- The command of the language with a name. -/
def command? (carry : Carrier) (name : String) : Option Tool :=
  (plainCommands.lookup name).or ((carryingCommands.lookup name).map fun tool => tool carry)

end ConsoleKeeper.Shell.Language
