import ConsoleKeeper.Resource.Records
import ConsoleKeeper.Settings.Basic

/-!
# `ConsoleKeeper.Journal`: what the operator tells about itself

Each part of the operator reports what it does as events. An event has a record form for logs, with
the component that reports it, a level, and fields of its own.
-/

set_option autoImplicit false

namespace ConsoleKeeper

/-- How much an event matters. -/
inductive Level where
  | debug
  | info
  | warning
  | error
  | critical
  deriving DecidableEq, Repr, Inhabited

namespace Level

/-- The word for a level. -/
def name : Level → String
  | debug => "debug"
  | info => "info"
  | warning => "warning"
  | error => "error"
  | critical => "critical"

/-- The weight of a level; the heavier matters more. -/
def weight : Level → Nat
  | debug => 10
  | info => 20
  | warning => 30
  | error => 40
  | critical => 50

end Level

/-- A line in a log. -/
structure LogRecord where
  level : Level
  component : String
  event : String
  fields : Fields
  deriving Repr, Inhabited, BEq

/-- The two outputs of a command. -/
inductive OutputStream where
  | stdout
  | stderr
  deriving DecidableEq, Repr, Inhabited

namespace OutputStream

/-- The word for an output. -/
def name : OutputStream → String
  | stdout => "stdout"
  | stderr => "stderr"

/-- The output that a word stands for. -/
def ofName? (word : String) : Option OutputStream :=
  [stdout, stderr].find? (·.name = word)

end OutputStream

/-- A status that a pass tries to write, as it was asked for. -/
structure StatusNote where
  resource : ResourceId
  phase : Phase
  message : Data
  deriving Repr, Inhabited, BEq

/-- The owner and the deployment that are being linked. -/
structure LinkSite where
  owner : ResourceId
  deployment : String
  deriving DecidableEq, Repr, Inhabited

/-- The object that a call to the cluster is about. -/
structure ObjectName where
  kind : String
  ns : String
  name : String
  deriving DecidableEq, Repr, Inhabited

/-- The files of a run. -/
inductive ArtifactKind where
  | credentials
  | inventory
  deriving DecidableEq, Repr, Inhabited

/-- The word for a file of a run. -/
def ArtifactKind.name : ArtifactKind → String
  | credentials => "credentials"
  | inventory => "inventory"

/-- Something that a part of the operator reports. -/
inductive Event where
  | passStarted (id : ResourceId)
  | resourceAbsent (id : ResourceId)
  | resourceUnreadable (id : ResourceId) (error : String)
  | deploymentUnreadable (id : ResourceId) (error : String)
  | actionDecided (id : ResourceId) (action : Action) (desired : String) (actual : Option String)
  | versionUnreadable (id : ResourceId) (image : Option String)
  | linkRepairFailed (id : ResourceId) (code error : String)
  | firstHalfFailed (id : ResourceId)
  | playbookFailed (action : PlaybookAction) (id : ResourceId) (error code : String)
  | passFinished (id : ResourceId) (action : Action) (phase : Phase)
  | statusUnread (note : StatusNote) (error : String)
  | statusUnwritten (note : StatusNote) (error : String)
  | statusWritten (note : StatusNote)
  | ownedUnreadable (site : LinkSite) (error : String)
  | ownerPresent (site : LinkSite)
  | ownedByOther (site : LinkSite) (controller : String)
  | ownerUnwritten (site : LinkSite) (error : String)
  | ownerWritten (site : LinkSite) (uid : String)
  | runStarted (action : PlaybookAction) (ns version : String)
  | runFinished (action : PlaybookAction) (ns : String)
  | randomFailed (error fallback : String)
  | artifactMade (kind : ArtifactKind) (path : String)
  | artifactKept (path error : String)
  | artifactRemoved (path : String)
  | resourceStored (id : ResourceId) (phase : Option Phase)
  | scriptedFailure (operation error : String)
  | callRefused (object : ObjectName) (status reason : Data)
  | connectionLost (object : ObjectName) (error : String)
  | commandStarting (command : String)
  | commandUnstarted (command error : String)
  | commandTimedOut (command : String) (seconds : Data)
  | commandFailed (command : String) (status : Int)
  | commandFinished (command : String) (status : Int)
  | outputLine (stream : OutputStream) (program line : String)
  | outputUnread (stream : OutputStream) (program error : String)
  | commandRecorded (command : String)
  | operatorBuilt (stage : Stage) (backend : Backend) (resource : String)
  | operatorStarted (group version plural : String)
  deriving Repr, Inhabited, BEq

namespace StatusNote

/-- The fields of a report about a status. -/
def fields (note : StatusNote) : Fields :=
  [("resource", .text note.resource.path), ("phase", .text note.phase.name),
    ("status_message", note.message)]

end StatusNote

namespace LinkSite

/-- The fields of a report about a link. -/
def fields (site : LinkSite) : Fields :=
  [("resource", .text site.owner.path), ("deployment", .text site.deployment)]

end LinkSite

namespace ObjectName

/-- The fields of a report about a call to the cluster. -/
def fields (object : ObjectName) : Fields :=
  [("kind", .text object.kind), ("namespace", .text object.ns), ("name", .text object.name)]

end ObjectName

namespace Event

/-- The record of an event of the part that runs passes. -/
def ofPass (level : Level) (event : String) (id : ResourceId) (fields : Fields) : LogRecord :=
  ⟨level, "reconciler", event, ("resource", .text id.path) :: fields⟩

/-- The record of an event of the part that writes statuses. -/
def ofStatus (level : Level) (event : String) (note : StatusNote) (fields : Fields) : LogRecord :=
  ⟨level, "status_reporter", event, note.fields ++ fields⟩

/-- The record of an event of the part that links owners. -/
def ofLink (level : Level) (event : String) (site : LinkSite) (fields : Fields) : LogRecord :=
  ⟨level, "ownership_linker", event, site.fields ++ fields⟩

/-- The record of an event of the part that makes files. -/
def ofArtifact (level : Level) (event : String) (fields : Fields) : LogRecord :=
  ⟨level, "ephemeral_artifacts", event, fields⟩

/-- The record of an event of the part that runs commands. -/
def ofCommand (level : Level) (event : String) (fields : Fields) : LogRecord :=
  ⟨level, "subprocess_runner", event, fields⟩

/-- The record form of an event. -/
def record : Event → LogRecord
  | passStarted id => ofPass .info "reconcile_started" id []
  | resourceAbsent id => ofPass .info "resource_not_found" id []
  | resourceUnreadable id error => ofPass .error "resource_fetch_failed" id [("error", .text error)]
  | deploymentUnreadable id error =>
    ofPass .error "deployment_fetch_failed" id [("error", .text error)]
  | actionDecided id action desired actual =>
    ofPass .info "action_decided" id
      [("action", .text action.name), ("desired", .text desired), ("actual", .textOrNull actual)]
  | versionUnreadable id image =>
    ofPass .error "deployed_version_unreadable" id [("image", .textOrNull image)]
  | linkRepairFailed id code error =>
    ofPass .warning "owner_reference_repair_failed" id
      [("error_code", .text code), ("error", .text error)]
  | firstHalfFailed id => ofPass .error "deprovision_before_provision_failed" id []
  | playbookFailed action id error code =>
    ofPass .error (action.name ++ "_failed") id [("error", .text error), ("error_code", .text code)]
  | passFinished id action phase =>
    ofPass .info "reconcile_finished" id
      [("action", .text action.name), ("phase", .text phase.name)]
  | statusUnread note error => ofStatus .error "status_fetch_failed" note [("error", .text error)]
  | statusUnwritten note error =>
    ofStatus .error "status_update_failed" note [("error", .text error)]
  | statusWritten note => ofStatus .info "status_updated" note []
  | ownedUnreadable site error =>
    ofLink .error "owner_deployment_fetch_failed" site [("error", .text error)]
  | ownerPresent site => ofLink .debug "owner_reference_present" site []
  | ownedByOther site controller =>
    ofLink .error "deployment_controlled_by_other" site [("controller", .text controller)]
  | ownerUnwritten site error =>
    ofLink .error "owner_reference_update_failed" site [("error", .text error)]
  | ownerWritten site uid => ofLink .info "owner_reference_set" site [("owner_uid", .text uid)]
  | runStarted action ns version =>
    ⟨.info, "provisioning_workflow", "workflow_started",
      [("action", .text action.name), ("namespace", .text ns), ("version", .text version)]⟩
  | runFinished action ns =>
    ⟨.info, "provisioning_workflow", "workflow_finished",
      [("action", .text action.name), ("namespace", .text ns)]⟩
  | randomFailed error fallback =>
    ofArtifact .warning "random_source_failed"
      [("error", .text error), ("fallback", .text fallback)]
  | artifactMade kind path =>
    ofArtifact .debug "artifact_created" [("kind", .text kind.name), ("path", .text path)]
  | artifactKept path error =>
    ofArtifact .warning "artifact_remove_failed" [("path", .text path), ("error", .text error)]
  | artifactRemoved path => ofArtifact .debug "artifact_removed" [("path", .text path)]
  | resourceStored id phase =>
    ⟨.debug, "in_memory_cluster", "webui_updated",
      [("resource", .text id.path), ("phase", .textOrNull (phase.map Phase.name))]⟩
  | scriptedFailure operation error =>
    ⟨.debug, "in_memory_cluster", "simulated_cluster_failure",
      [("operation", .text operation), ("error", .text error)]⟩
  | callRefused object status reason =>
    ⟨.warning, "kubernetes_cluster", "cluster_api_error",
      object.fields ++ [("status", status), ("reason", reason)]⟩
  | connectionLost object error =>
    ⟨.warning, "kubernetes_cluster", "cluster_connection_error",
      object.fields ++ [("error", .text error)]⟩
  | commandStarting command => ofCommand .info "process_starting" [("command", .text command)]
  | commandUnstarted command error =>
    ofCommand .error "process_start_failed" [("command", .text command), ("error", .text error)]
  | commandTimedOut command seconds =>
    ofCommand .error "process_timed_out"
      [("command", .text command), ("timeout_seconds", seconds)]
  | commandFailed command status =>
    ofCommand .error "process_failed" [("command", .text command), ("returncode", .int status)]
  | commandFinished command status =>
    ofCommand .info "process_finished" [("command", .text command), ("returncode", .int status)]
  | outputLine stream program line =>
    ofCommand .info "process_output"
      [("stream", .text stream.name), ("program", .text program), ("line", .text line)]
  | outputUnread stream program error =>
    ofCommand .error "process_stream_read_failed"
      [("stream", .text stream.name), ("program", .text program), ("error", .text error)]
  | commandRecorded command =>
    ⟨.debug, "recording_process_runner", "recorded_process_call", [("command", .text command)]⟩
  | operatorBuilt stage backend resource =>
    ⟨.info, "webui_operator", "operator_initialized",
      [("environment", .text stage.name), ("cluster_backend", .text backend.name),
        ("resource", .text resource)]⟩
  | operatorStarted group version plural =>
    ⟨.info, "handlers", "operator_started",
      [("group", .text group), ("version", .text version), ("plural", .text plural)]⟩

/-- The status that an event reports as asked for, and whether it was written. -/
def status? : Event → Option (StatusNote × Bool)
  | statusWritten note => some (note, true)
  | statusUnread note _ => some (note, false)
  | statusUnwritten note _ => some (note, false)
  | _ => none

end Event

end ConsoleKeeper
