import ConsoleKeeper.Journal.Writing
import ConsoleKeeper.Operator.Start
import ConsoleKeeper.Settings.File

/-!
# `ConsoleKeeper.Operator.Watch`: what a watch on the cluster calls

A watch tells the operator about consoles that were there before, that are new, or that changed. The
operator answers each time with a pass. If the pass ends with an error, the watch is asked to come
back after a while; any other failure is passed on.
-/

set_option autoImplicit false

namespace ConsoleKeeper.Watch

variable {κ ρ : Type}

/-- Why a watch calls. A console that was there before has no reason of its own. -/
inductive Occasion where
  | resume
  | create
  | update
  deriving DecidableEq, Repr, Inhabited

/-- The word for a reason, if it has one. -/
def Occasion.word? : Occasion → Option String
  | resume => none
  | create => some "create"
  | update => some "update"

/-- What a watch is asked to look for. -/
structure Subscription where
  handler : String
  occasion : Occasion
  group : String
  version : String
  plural : String
  deriving DecidableEq, Repr, Inhabited

/-- The name of what answers the watch. -/
def handlerName : String := "reconcile_webui"

/-- The subscriptions of an operator with the given settings. -/
def subscriptions (settings : Settings) : List Subscription :=
  [Occasion.resume, .create, .update].map fun occasion =>
    { handler := handlerName
      occasion
      group := settings.cluster.group
      version := settings.cluster.version
      plural := settings.cluster.plural }

/-- The variable that names the settings file. -/
def settingsVariable : String := "WEBUI_OPERATOR_CONFIG_FILE"

/-- The settings of the operator that the watch calls. -/
def settings (environment : Variables) : Act κ ρ Settings :=
  Settings.load environment (environment.value? settingsVariable)

/-- How many seconds the watch waits for the cluster before it asks anew. -/
def patience : Nat := 210

/-- Starts the operator. Before that the log has to know from which level on it writes. -/
def start (settings : Settings) (environment : Variables) (cluster : Cluster κ ρ)
    (runner : Runner κ ρ) : Act κ ρ (Operator κ ρ) := do
  discard (Act.lift (Level.thresholdOf settings.logLevel))
  let op ← Operator.start settings environment cluster runner
  Act.report
    (.operatorStarted settings.cluster.group settings.cluster.version settings.cluster.plural)
  pure op

/-- The request to come back later after an error. -/
def retry (settings : Settings) (e : OperatorError) : Failure :=
  .retry (e.code ++ ": " ++ e.message) settings.retryDelay e.kind

/-- Answers the watch with a pass. -/
def attend (op : Operator κ ρ) (id : ResourceId) : Act κ ρ Unit :=
  Act.rescuing Failure.operator? (discard (op.pass id)) fun e =>
    Act.fail (retry op.settings e)

end ConsoleKeeper.Watch
