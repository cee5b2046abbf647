import ConsoleKeeper.Files.Tree
import ConsoleKeeper.Journal

/-!
# `ConsoleKeeper.World`: actions and what they act on

An action changes its surroundings and ends with a value or a failure; what it changed stays changed
in both cases. The surroundings are a cluster, whatever runs the commands, the file system, the
source of random bytes, and the journal of events so far. The first two are parameters: the same
action runs against a cluster in memory and against one behind an interface.
-/

set_option autoImplicit false

namespace ConsoleKeeper

/-- A source of random bytes that follows a script first. An entry gives the bytes or the message of
a failure. After the script, draw number `k` gives `k` in as many bytes as were asked for. -/
structure RandomSource where
  script : List (Except String (List UInt8)) := []
  drawn : Nat := 0

namespace RandomSource

/-- The last `count` bytes of a number, the highest first. -/
def bytesOf : Nat → Nat → List UInt8
  | 0, _ => []
  | count + 1, n => bytesOf count (n / 256) ++ [UInt8.ofNat (n % 256)]

/-- Draws bytes. -/
def draw (source : RandomSource) (count : Nat) : Except String (List UInt8) × RandomSource :=
  let drawn := source.drawn + 1
  match source.script with
  | entry :: rest => (entry, ⟨rest, drawn⟩)
  | [] => (.ok (bytesOf count drawn), ⟨[], drawn⟩)

end RandomSource

/-- What actions act on. -/
structure World (κ ρ : Type) where
  cluster : κ
  runner : ρ
  files : Tree
  random : RandomSource := {}
  journal : Array Event := #[]

/-- An action on surroundings with a cluster of type `κ` and a runner of type `ρ`. -/
abbrev Act (κ ρ α : Type) := ExceptT Failure (StateM (World κ ρ)) α

namespace Act

variable {κ ρ α β : Type}

/-- The action with the given outcome for each state of the surroundings. -/
def of (f : World κ ρ → Except Failure α × World κ ρ) : Act κ ρ α :=
  ExceptT.mk f

/-- Runs an action. -/
def runOn (action : Act κ ρ α) (world : World κ ρ) : Except Failure α × World κ ρ :=
  ExceptT.run action world

/-- Ends without a value. -/
def fail (failure : Failure) : Act κ ρ α :=
  of fun world => (.error failure, world)

/-- Ends with a value, or without one. -/
def lift (outcome : Except Failure α) : Act κ ρ α :=
  of fun world => (outcome, world)

/-- Reports an event. -/
def report (event : Event) : Act κ ρ Unit :=
  of fun world => (.ok (), { world with journal := world.journal.push event })

/-- The surroundings. -/
def look : Act κ ρ (World κ ρ) :=
  of fun world => (.ok world, world)

/-- Changes the surroundings. -/
def change (f : World κ ρ → World κ ρ) : Act κ ρ Unit :=
  of fun world => (.ok (), f world)

/-- Runs an action and gives its outcome as a value. -/
def attempt (action : Act κ ρ α) : Act κ ρ (Except Failure α) :=
  of fun world =>
    match action.runOn world with
    | (outcome, world) => (.ok outcome, world)

/-- Runs an action, and `rescue` in its place if it ends with a failure that `pick` accepts. -/
def rescuing {ε : Type} (pick : Failure → Option ε) (action : Act κ ρ α)
    (rescue : ε → Act κ ρ α) : Act κ ρ α :=
  of fun world =>
    match action.runOn world with
    | (.ok a, world) => (.ok a, world)
    | (.error failure, world) =>
      match pick failure with
      | some e => (rescue e).runOn world
      | none => (.error failure, world)

/-- Runs an action and gives a failure that `pick` accepts as a value. Other failures end the
action. -/
def catching {ε : Type} (pick : Failure → Option ε) (action : Act κ ρ α) :
    Act κ ρ (Except ε α) :=
  of fun world =>
    match action.runOn world with
    | (.ok a, world) => (.ok (.ok a), world)
    | (.error failure, world) =>
      match pick failure with
      | some e => (.ok (.error e), world)
      | none => (.error failure, world)

/-- Runs an action and `last` after it, however it ended. The outcome is the action's, unless `last`
fails itself. -/
def ensuring (action : Act κ ρ α) (last : Act κ ρ Unit) : Act κ ρ α :=
  of fun world =>
    match action.runOn world with
    | (outcome, world) =>
      match last.runOn world with
      | (.ok (), world) => (outcome, world)
      | (.error failure, world) => (.error failure, world)

/-- What the cluster knows. -/
def cluster : Act κ ρ κ :=
  of fun world => (.ok world.cluster, world)

/-- Changes what the cluster knows. -/
def changeCluster (f : κ → κ) : Act κ ρ Unit :=
  of fun world => (.ok (), { world with cluster := f world.cluster })

/-- What the runner knows. -/
def runner : Act κ ρ ρ :=
  of fun world => (.ok world.runner, world)

/-- Changes what the runner knows. -/
def changeRunner (f : ρ → ρ) : Act κ ρ Unit :=
  of fun world => (.ok (), { world with runner := f world.runner })

/-- Changes the file system, or ends with what the system said. -/
def changeFiles (path : String) (f : Tree → Except Errno Tree) : Act κ ρ Unit :=
  of fun world =>
    match f world.files with
    | .ok files => (.ok (), { world with files })
    | .error reason => (.error (.system (.about reason path)), world)

/-- Draws random bytes. -/
def draw (count : Nat) : Act κ ρ (Except String (List UInt8)) :=
  of fun world =>
    match world.random.draw count with
    | (bytes, random) => (.ok bytes, { world with random })

end Act

end ConsoleKeeper
