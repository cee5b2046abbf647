import ConsoleKeeper.Data.Basic

/-!
# `ConsoleKeeper.Failure.Operator`: the failures that a pass reports

An operator error has a kind, a message for people, a code for programs, and details. The kinds form
a tree: whoever handles cluster errors also handles the error of an absent object.
-/

set_option autoImplicit false

namespace ConsoleKeeper

/-- The kinds of operator errors. -/
inductive ErrorKind where
  /-- Any error of the operator; the root of the tree. -/
  | general
  /-- The configuration or the pod's credentials cannot be used. -/
  | configuration
  /-- A call to the cluster failed. -/
  | cluster
  /-- The object of a cluster call does not exist. -/
  | notFound
  /-- The observed state cannot be acted upon. -/
  | reconcile
  /-- The deployed container has a tag that names no version. -/
  | emptyTag
  /-- A file of a run could not be made. -/
  | artifact
  /-- A command failed. -/
  | process
  /-- A command could not be started. -/
  | processStart
  /-- A command ended with a status other than zero. -/
  | processExit
  /-- A command ran past its deadline. -/
  | processTimeout
  /-- The deployment could not be linked to its owner. -/
  | ownerReference
  deriving DecidableEq, Repr, Inhabited

namespace ErrorKind

/-- All kinds. -/
def all : List ErrorKind :=
  [general, configuration, cluster, notFound, reconcile, emptyTag, artifact, process, processStart,
    processExit, processTimeout, ownerReference]

/-- The name under which errors of a kind are reported. -/
def name : ErrorKind → String
  | general => "OperatorError"
  | configuration => "ConfigurationError"
  | cluster => "ClusterError"
  | notFound => "ResourceNotFoundError"
  | reconcile => "ReconcileError"
  | emptyTag => "EmptyImageTagError"
  | artifact => "ArtifactError"
  | process => "ProcessError"
  | processStart => "ProcessStartError"
  | processExit => "ProcessExitError"
  | processTimeout => "ProcessTimeoutError"
  | ownerReference => "OwnerReferenceError"

/-- The kind that a name stands for. -/
def ofName? (name : String) : Option ErrorKind :=
  all.find? (·.name = name)

/-- The kind that a kind is a case of. -/
def parent? : ErrorKind → Option ErrorKind
  | general => none
  | notFound => some cluster
  | emptyTag => some reconcile
  | processStart | processExit | processTimeout => some process
  | _ => some general

/-- The kinds above a kind, from the nearest on. -/
def ancestors (kind : ErrorKind) : List ErrorKind :=
  match kind.parent? with
  | none => []
  | some parent =>
    match parent.parent? with
    | none => [parent]
    | some root => [parent, root]

/-- Whether an error of the kind is a failed cluster call. -/
def isCluster : ErrorKind → Bool
  | cluster | notFound => true
  | _ => false

/-- The code of errors of a kind where none is given. -/
def code : ErrorKind → String
  | general => "UNKNOWN_ERROR"
  | configuration => "CONFIG_ERROR"
  | cluster => "CLUSTER_ERROR"
  | notFound => "RESOURCE_NOT_FOUND"
  | reconcile => "RECONCILE_ERROR"
  | emptyTag => "EMPTY_IMAGE_TAG"
  | artifact => "ARTIFACT_ERROR"
  | process => "PROCESS_ERROR"
  | processStart => "PROCESS_START"
  | processExit => "PROCESS_EXIT"
  | processTimeout => "PROCESS_TIMEOUT"
  | ownerReference => "OWNER_REFERENCE_FAILED"

/-- The arguments that errors of a kind carry in their details, with the default of each, if it has
one, in the order in which they are added. -/
def traits : ErrorKind → List (String × Option Data)
  | cluster | notFound =>
    [("kind", some (.text "")), ("namespace", some (.text "")), ("name", some (.text ""))]
  | artifact => [("path", some (.text ""))]
  | process | processStart => [("command", none)]
  | processExit => [("returncode", none), ("command", none)]
  | processTimeout => [("timeout_seconds", none), ("command", none)]
  | emptyTag => [("image", none)]
  | _ => []

/-- Whether the code of an error of the kind can be chosen. -/
def hasFreeCode : ErrorKind → Bool
  | notFound | emptyTag | processStart | processExit | processTimeout => false
  | _ => true

/-- Whether an error of the kind takes further details. -/
def takesDetails : ErrorKind → Bool
  | emptyTag | processExit | processTimeout => false
  | _ => true

end ErrorKind

/-- Why the file system or the system refused something. -/
inductive Errno where
  | noEntry
  | tooLong
  | denied
  | notDirectory
  | isDirectory
  | nameTooLong
  | badFormat
  | tooManyLinks
  deriving DecidableEq, Repr, Inhabited

namespace Errno

/-- The number of a refusal. -/
def number : Errno → Nat
  | noEntry => 2
  | tooLong => 7
  | badFormat => 8
  | denied => 13
  | notDirectory => 20
  | isDirectory => 21
  | nameTooLong => 36
  | tooManyLinks => 40

/-- The words for a refusal. -/
def words : Errno → String
  | noEntry => "No such file or directory"
  | tooLong => "Argument list too long"
  | badFormat => "Exec format error"
  | denied => "Permission denied"
  | notDirectory => "Not a directory"
  | isDirectory => "Is a directory"
  | nameTooLong => "File name too long"
  | tooManyLinks => "Too many levels of symbolic links"

end Errno

/-- A refusal by the system: one of its own about a path, or one that only says something. -/
inductive SystemError where
  | said (message : String)
  | about (reason : Errno) (path : String)
  deriving DecidableEq, Repr, Inhabited

namespace SystemError

/-- The text of a refusal. -/
def message : SystemError → String
  | said message => message
  | about reason path =>
    "[Errno " ++ toString reason.number ++ "] " ++ reason.words ++ ": " ++
      String.ofList (Text.literal path.toList)

end SystemError

/-- What an operator error was raised in answer to. -/
inductive Cause where
  | operator (kind : ErrorKind)
  | system (error : SystemError)
  | api
  | connection
  | clusterSettings
  | document
  deriving DecidableEq, Repr, Inhabited

/-- An error of the operator. -/
structure OperatorError where
  kind : ErrorKind
  message : String
  code : String
  details : Fields
  cause : Option Cause
  deriving Repr, Inhabited, BEq

namespace OperatorError

/-- An error with the code of its kind and no cause. -/
def plain (kind : ErrorKind) (message : String) (details : Fields) : OperatorError :=
  { kind, message, code := kind.code, details, cause := none }

/-- The error with a cause. -/
def causedBy (e : OperatorError) (cause : Cause) : OperatorError :=
  { e with cause := some cause }

/-- The error with a code of its own. -/
def withCode (e : OperatorError) (code : String) : OperatorError :=
  { e with code }

/-- A failed cluster call about an object. -/
def aboutObject (kind : ErrorKind) (message objectKind ns name : String) (details : Fields) :
    OperatorError :=
  plain kind message
    (((details.put "kind" (.text objectKind)).put "namespace" (.text ns)).put "name" (.text name))

/-- The error of an absent object. -/
def absent (objectKind ns name : String) : OperatorError :=
  aboutObject .notFound (objectKind ++ " " ++ ns ++ "/" ++ name ++ " not found") objectKind ns
    name []

/-- The error of a tag that names no version. -/
def ofEmptyTag (image : String) : OperatorError :=
  plain .emptyTag "failed to read existing image tag" [("image", .text image)]

end OperatorError

end ConsoleKeeper
