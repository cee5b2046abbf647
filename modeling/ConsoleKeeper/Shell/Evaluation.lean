import ConsoleKeeper.Shell.Start

/-!
# `ConsoleKeeper.Shell.Evaluation`: carrying out clauses

`Evaluation.step` carries out one clause, given what carries out the clauses inside it. `carry` ties
the knot: it is `step` used again and again, and a number that falls with each use bounds how deep.
-/

set_option autoImplicit false

namespace ConsoleKeeper.Shell.Evaluation

open ConsoleKeeper.Shell.Run

/-- Notes a status, with which a strict script ends if it is not zero and nobody looks at it. -/
def settle (status : Nat) : Run Unit := do
  conclude status
  let session ← get
  if status ≠ 0 && session.strict && !session.guarded then leave (.exit status)

/-- Leads a channel as a redirection says; what went wrong is told, and the answer is whether it
could be done. -/
def redirect (carry : Carrier) (redirection : Redirection) : Run Bool := do
  let number := redirection.channel
  match redirection.route with
  | .given =>
    let text ← text carry redirection.target
    lead number (← openSource (.bytes (Text.Utf8.encode text.toList)))
    pure true
  | .same =>
    let target ← text carry redirection.target
    -- A hyphen closes the channel.
    if target = "-" then
      close number
      pure true
    else
      let session ← get
      match (Language.numberIn? target).bind fun n => session.channels.lookup n with
      | some channel =>
        lead number channel
        pure true
      | none =>
        complain (target ++ ": Bad file descriptor")
        pure false
  | .source =>
    let path ← text carry redirection.target
    match ← openForReading path with
    | .ok channel =>
      lead number channel
      pure true
    | .error reason =>
      complain ("cannot open " ++ path ++ ": " ++
        if Program.isAbsence reason then "No such file" else reason.words)
      pure false
  | .fresh | .behind =>
    let path ← text carry redirection.target
    match ← openForWriting path (redirection.route = .behind) with
    | .ok channel =>
      lead number channel
      pure true
    | .error reason =>
      complain ("cannot create " ++ path ++ ": " ++
        if Program.isAbsence reason then "Directory nonexistent" else reason.words)
      pure false

/-- Leads channels as redirections say, up to the first that cannot be done. -/
def redirectAll (carry : Carrier) : List Redirection → Run Bool
  | [] => pure true
  | first :: rest => do
    if ← redirect carry first then redirectAll carry rest else pure false

/-- Runs an action with channels led elsewhere. The channels are led back after it. -/
def redirected (carry : Carrier) (redirections : List Redirection) (action : Run Nat) :
    Run Nat := do
  let before := (← get).channels
  let outcome ← attempt do
    if ← redirectAll carry redirections then action else pure 2
  modify fun session => { session with channels := before }
  resume outcome

/-- Assigns the values of words to variables, and gives what it does as words. -/
def assignAll (carry : Carrier) (assignments : List (String × Word)) (shared : Bool) :
    Run (List String) :=
  assignments.mapM fun (name, word) => do
    let value ← text carry word
    assign name value shared
    pure (name ++ "=" ++ value)

/-- Shows the words of a command if the session is told to. -/
def trace (words : List String) : Run Unit := do
  if (← get).traced then tell ("+ " ++ String.intercalate " " words)

/-- Runs an action with variables that have other values for its duration. `words` is how the action
is shown. -/
def withValues (carry : Carrier) (assignments : List (String × Word)) (words : List String)
    (action : Run Nat) : Run Nat := do
  let names := assignments.map (·.1)
  let before := (← get).bindings.filter fun v => names.contains v.name
  let settings ← assignAll carry assignments true
  trace (settings ++ words)
  let outcome ← attempt action
  modify fun session =>
    { session with
      bindings := before ++ session.bindings.filter fun v => !names.contains v.name }
  resume outcome

/-- Variables with those that were outside of a function in place of its own. -/
def withoutOwn (own : List (String × Option Variable)) (bindings : List Variable) : List Variable :=
  own.filterMap (·.2) ++ bindings.filter fun v => !own.any (·.1 = v.name)

/-- Carries out a function with arguments. -/
def call (carry : Carrier) (body : Clause) (arguments : List String) : Run Nat := do
  let before ← get
  set { before with arguments, own := some [], loops := 0 }
  let outcome ← attempt (carry body)
  modify fun session =>
    { session with
      arguments := before.arguments
      bindings := withoutOwn (session.own.getD []) session.bindings
      own := before.own
      loops := before.loops }
  match outcome with
  | .error (.back status) => pure status
  | outcome =>
    resume outcome
    return (← get).status

/-- Starts a program beside the script. -/
def start (carry : Carrier) (name : String) (arguments : List String) : Run Nat := do
  match ← Start.found "" name with
  | .error status => pure status
  | .ok (path, program) => Start.beside carry (if path = name then name else path) program arguments

/-- Goes on as another program. Without a name only the redirections stay. -/
def become (carry : Carrier) (words : List String) : Run Nat := do
  match words with
  | [] => pure 0
  | name :: arguments =>
    match ← Start.found "exec: " name with
    | .error status => leave (.exit status)
    | .ok (path, program) =>
      let status ← Start.program carry path program arguments
      modify fun session => { session with traps := [] }
      leave (.exit status)

/-- Says what kind of command each name is. -/
def describeAll (carry : Carrier) (names : List String) : Run Nat :=
  Tools.forEach names fun name => do
    let session ← get
    let say (text : String) (status : Nat) : Run Nat :=
      Tools.finish (Tools.withEnds [Text.Utf8.encode text.toList]) status
    let own := if (Language.command? carry name).isSome then [name] else []
    match Language.kindOf? session own name with
    | some kind => say (name ++ kind) 0
    | none =>
      match Program.find session.files (← Start.searchPath) name with
      | .ok (path, _) => say (name ++ " is " ++ path) 0
      | .error _ => say (name ++ ": not found") 127

/-- Says what a name means, as a path or as a name of the language, for each name. -/
def locateAll (carry : Carrier) (names : List String) : Run Nat :=
  Tools.forEach names fun name => do
    let session ← get
    let own := if (Language.command? carry name).isSome then [name] else []
    if (Language.kindOf? session own name).isSome then
      Tools.finish (Tools.withEnds [Text.Utf8.encode name.toList]) 0
    else
      match Program.find session.files (← Start.searchPath) name with
      | .ok (path, _) => Tools.finish (Tools.withEnds [Text.Utf8.encode path.toList]) 0
      | .error _ => pure 127

/-- Carries out words as a command of the language or as a program. -/
def perform (carry : Carrier) (name : String) (arguments : List String) : Run Nat := do
  match Language.command? carry name with
  | some tool => tool arguments
  | none => start carry name arguments

/-- Carries out words, the name of the command first. -/
def invoke (carry : Carrier) (assignments : List (String × Word)) (name : String)
    (arguments : List String) : Run Nat := do
  let words := name :: arguments
  let lasting (shared : Bool) (action : Run Nat) : Run Nat := do
    let settings ← assignAll carry assignments shared
    trace (settings ++ words)
    action
  match (← get).functions.lookup name with
  | some body => withValues carry assignments words (call carry body arguments)
  | none =>
    if name = "exec" then lasting true (become carry arguments)
    else if specialCommands.contains name then lasting false (perform carry name arguments)
    else
      withValues carry assignments words
        (match name, arguments with
          | "command", "-v" :: names => locateAll carry names
          | "command", "-V" :: names => describeAll carry names
          | "command", [] => pure 0
          | "command", name :: arguments => perform carry name arguments
          | "type", names => describeAll carry names
          | _, _ => perform carry name arguments)

/-- Whether the output of a script is a part of one of the words. -/
def holdsOutput (words : List Word) : Bool :=
  words.any fun word => word.any fun part =>
    match part with
    | .output _ _ => true
    | _ => false

/-- Carries out a simple command. -/
def simple (carry : Carrier) (line : Nat) (assignments : List (String × Word)) (words : List Word)
    (redirections : List Redirection) : Run Unit := do
  modify fun session => { session with line }
  let words ← fields carry words
  match words with
  | [] =>
    let status ← redirected carry redirections do
      let settings ← assignAll carry assignments false
      if !settings.isEmpty then trace settings
      if holdsOutput (assignments.map (·.2)) then return (← get).status else pure 0
    settle status
  | name :: arguments =>
    if name = "exec" && arguments.isEmpty then
      let _ ← assignAll carry assignments false
      if ← redirectAll carry redirections then settle 0 else leave (.exit 2)
    else
      let status ← redirected carry redirections (invoke carry assignments name arguments)
      settle status

/-- Carries out a condition and says whether it holds. Its failures are looked at. -/
def holds (carry : Carrier) (condition : Clause) : Run Bool := do
  let before := (← get).guarded
  modify fun session => { session with guarded := true }
  let outcome ← attempt (carry condition)
  modify fun session => { session with guarded := before }
  resume outcome
  return (← get).status = 0

/-- How often a loop goes round before nobody watches it any longer. -/
def roundLimit : Nat := 100000

/-- Carries out the body of a loop, and says whether the loop goes on. -/
def round (carry : Carrier) (body : Clause) : Run Bool := do
  modify fun session => { session with loops := session.loops + 1 }
  let outcome ← attempt (carry body)
  modify fun session => { session with loops := session.loops - 1 }
  match outcome with
  | .ok () => pure true
  | .error (.breakOut loops) => if loops ≤ 1 then pure false else leave (.breakOut (loops - 1))
  | .error (.goOn loops) => if loops ≤ 1 then pure true else leave (.goOn (loops - 1))
  | .error reason => leave reason

/-- Goes round while a condition holds, or while it does not. `rounds` bounds how often. The status
is that of the last round. -/
def loopFrom (carry : Carrier) (goOn : Bool) (condition body : Clause) : Nat → Nat → Run Nat
  | 0, _ => leave .unwatched
  | rounds + 1, status => do
    if (← holds carry condition) = goOn then
      conclude 0
      let again ← round carry body
      let status := (← get).status
      if again then loopFrom carry goOn condition body rounds status else pure status
    else pure status

/-- Goes round once for each item. -/
def eachFrom (carry : Carrier) (name : String) (body : Clause) : List String → Run Unit
  | [] => pure ()
  | item :: rest => do
    assign name item false
    if ← round carry body then eachFrom carry name body rest

/-- The body of the first branch with a pattern that fits. -/
def branchFor (carry : Carrier) (subject : List Char) :
    List (List Word × Clause) → Run (Option Clause)
  | [] => pure none
  | (patterns, body) :: rest => do
    let patterns ← patterns.mapM (pattern carry)
    if patterns.any fun p => p.fits subject then pure (some body)
    else branchFor carry subject rest

/-- Whether a clause says to do nothing. -/
def isNothing : Clause → Bool
  | .nothing => true
  | _ => false

/-- Carries out a clause apart from the rest, with what was to be done at its end. -/
def separately (carry : Carrier) (body : Clause) : Run Unit := do
  let outcome ← attempt (carry body)
  leave (.exit (← Start.concluded carry outcome))

/-- Carries out a clause in the background: its time does not count for what follows. -/
def background (carry : Carrier) (body : Clause) : Run Unit := do
  let begun := (← get).clock
  let outcome ← apart do
    lead 0 .nothing
    separately carry body
  modify fun session =>
    let finish := match outcome with
      | .error .unwatched => session.limit.getD session.clock
      | _ => session.clock
    let status := match outcome with
      | .ok () => session.status
      | .error (.exit status) | .error (.back status) => status
      | .error (.signal number _) => 128 + number
      | .error _ => 0
    let process := session.processes + 1
    { session with
      clock := begun
      processes := process
      trailing := max session.trailing finish
      jobs := ⟨process, status, finish⟩ :: session.jobs
      status := 0 }

/-- Carries out a clause whose output another clause reads. -/
def pipe (carry : Carrier) (left right : Clause) : Run Unit := do
  let sink ← openSink
  let _ ← subshell do
    lead 1 (.sink sink)
    carry left
  let source ← openSource (.bytes (← gathered sink))
  let status ← subshell do
    lead 0 source
    carry right
  settle status

/-- Carries out a clause, given what carries out the clauses inside it. -/
def step (carry : Carrier) : Carrier
  | .nothing => pure ()
  | .simple line assignments words redirections =>
    simple carry line assignments words redirections
  | .redirected body redirections => do
    let status ← redirected carry redirections do
      carry body
      return (← get).status
    conclude status
  | .pipe left right => pipe carry left right
  | .negated body => do
    let held ← holds carry body
    conclude (if held then 1 else 0)
  | .andThen left right => do
    if ← holds carry left then carry right
  | .orElse left right => do
    if !(← holds carry left) then carry right
  | .sequence first second => do
    carry first
    carry second
  | .background body => background carry body
  | .subshell body => do
    let status ← subshell (separately carry body)
    settle status
  | .choice condition accepted refused => do
    if ← holds carry condition then carry accepted
    -- Without another branch a condition that fails is no failure.
    else if isNothing refused then conclude 0
    else carry refused
  | .loop goOn condition body => do
    let status ← loopFrom carry goOn condition body roundLimit 0
    conclude status
  | .each name items body => do
    let items ← match items with
      | some words => fields carry words
      | none => do pure (← get).arguments
    conclude 0
    eachFrom carry name body items
  | .cases subject branches => do
    let subject ← text carry subject
    match ← branchFor carry subject.toList branches with
    | some body =>
      conclude 0
      carry body
    | none => conclude 0
  | .define name body => do
    modify fun session =>
      { session with functions := (name, body) :: session.functions.filter (·.1 ≠ name) }
    conclude 0

/-- Carries out a clause. The number bounds how deep clauses are carried out inside one another; a
script that goes deeper is no longer watched. -/
def carry : Nat → Carrier
  | 0 => fun _ => leave .unwatched
  | depth + 1 => step (carry depth)

end ConsoleKeeper.Shell.Evaluation
