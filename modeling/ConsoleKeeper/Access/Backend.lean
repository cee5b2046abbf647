import ConsoleKeeper.Access.Pod
import ConsoleKeeper.Text.Case
import ConsoleKeeper.Yaml.Document

/-!
# `ConsoleKeeper.Access.Backend`: which cluster, and whether it can be reached

The settings say whether the operator works with a running cluster or with one in memory. For a
running cluster it needs to know how to reach it: as a pod from its own credentials, or else from a
file in the home directory that names the cluster to use.
-/

set_option autoImplicit false

namespace ConsoleKeeper.Access

/-- The error of a word that names no backend. -/
def unknownBackend (word : String) : OperatorError :=
  (OperatorError.plain .configuration
    ("Unknown cluster backend: '" ++ word ++ "'. Available: 'kubernetes', 'memory'.")
    [("backend", .text word)]).withCode "UNKNOWN_CLUSTER_BACKEND"

/-- The backend that a word names, in any case of its letters. -/
def backendOf (word : String) : Except Failure Backend :=
  let small := String.ofList (Text.lower word.toList)
  match Backend.ofName? small with
  | some backend => .ok backend
  | none => .error (.operator (unknownBackend small))

/-- Why the file in the home directory is of no use. -/
inductive HomeFault where
  | absent
  | empty (path : String)
  | undecided (path : String)
  deriving DecidableEq, Repr, Inhabited

/-- The words for a fault. -/
def HomeFault.message : HomeFault → String
  | absent => "Invalid kube-config file. No configuration found."
  | empty path => "Invalid kube-config. " ++ path ++ " file is empty"
  | undecided path => "Invalid kube-config file. Expected key current-context in " ++ path

/-- The error where neither the pod nor the home directory tells how to reach a cluster. -/
def unreachable (fault : HomeFault) : OperatorError :=
  ((OperatorError.plain .configuration "No in-cluster config and no usable kubeconfig"
    [("error", .text fault.message)]).withCode "KUBE_CONFIG_MISSING").causedBy .clusterSettings

/-- The path of the file in the home directory. -/
def homeFile (environment : Variables) : String :=
  let home := (environment.value? "HOME").getD ""
  String.ofList (Text.trimRight (· = '/') home.toList) ++ "/.kube/config"

/-- Checks the file in the home directory: it has to say which cluster is the present one. -/
def checkHome (environment : Variables) (files : Tree) : Except Failure Unit := do
  let path := homeFile environment
  if !files.has path then .error (.operator (unreachable .absent))
  else
    let text ← files.readText path
    match Yaml.Document.read text.toList with
    -- A file with nothing in it is no mapping, but has an error of its own.
    | .ok ⟨.null, _⟩ => .error (.operator (unreachable (.empty path)))
    | .ok ⟨.object fields, _⟩ =>
      if Data.field fields "current-context" == .null then
        .error (.operator (unreachable (.undecided path)))
      else .ok ()
    | .ok _ => .error .wrongKind
    | .error .broken => .error (.unexpected path)
    | .error (.failed failure) => .error failure

/-- Checks that a running cluster can be reached. -/
def checkReach (environment : Variables) (files : Tree) : Except Failure Unit :=
  let usual : ClusterSettings := {}
  match readPod usual.tokenPath usual.caPath environment files with
  | .granted _ => .ok ()
  | .wanting _ => checkHome environment files
  | .broken failure => .error failure

/-- Checks that a backend can be used. A cluster in memory always can. -/
def check (backend : Backend) (environment : Variables) (files : Tree) : Except Failure Unit :=
  match backend with
  | .memory => .ok ()
  | .kubernetes => checkReach environment files

end ConsoleKeeper.Access
