import ConsoleKeeper.Resource.Records
import ConsoleKeeper.Settings.Layers
import ConsoleKeeper.World

/-!
# `ConsoleKeeper.Access.Pod`: the credentials of the pod

A pod finds the cluster's address in two environment variables and its token and the authority's
certificate in two files. `podCredentials` reads all four, checks them one after the other, and
names the first that is wanting.

The token may carry a word in front that says what kind of token it is; `bearerToken` takes it off.
-/

set_option autoImplicit false

namespace ConsoleKeeper.Access

/-- What may stand in front of a token. -/
def tokenMark : List Char := "bearer ".toList

/-- A token without the mark in front of it; letters count in either form. -/
def dropTokenMark (token : String) : String :=
  let start := (token.toList.take tokenMark.length).map Char.toLower
  if start = tokenMark then String.ofList (token.toList.drop tokenMark.length) else token

/-- The token among the keys for an interface, under its newer name or its older one. No token is an
empty one. -/
def bearerToken (keys : Fields) : Except Failure String :=
  let named (key : String) : Option Data := (keys.get? key).filter (!·.isFalsy)
  match (named "BearerToken").or (named "authorization") with
  | none => .ok ""
  | some (.text token) => .ok (dropTokenMark token)
  | some _ => .error .noMember

/-- Why a pod's credentials cannot be used. -/
inductive PodFault where
  | addressUnset
  | addressEmpty
  | tokenAbsent
  | tokenEmpty
  | certificateAbsent
  | certificateEmpty
  deriving DecidableEq, Repr, Inhabited

/-- The words for a fault. -/
def PodFault.message : PodFault → String
  | addressUnset => "Service host/port is not set."
  | addressEmpty => "Service host/port is set but empty."
  | tokenAbsent => "Service token file does not exist."
  | tokenEmpty => "Token file exists but empty."
  | certificateAbsent => "Service certification file does not exist."
  | certificateEmpty => "Cert file exists but empty."

/-- The outcome of reading a pod's credentials: them, what is wanting, or a failure of another
kind. -/
inductive PodAccess where
  | granted (credentials : Credentials)
  | wanting (fault : PodFault)
  | broken (failure : Failure)
  deriving Repr, Inhabited

/-- The address of the cluster. A host with a colon or a percent sign stands in brackets. -/
def hostAddress (host port : String) : String :=
  if host.contains ':' || host.contains '%' then "https://[" ++ host ++ "]:" ++ port
  else "https://" ++ host ++ ":" ++ port

/-- The text of a file that has to be there and must not be empty. -/
def neededText (files : Tree) (path : String) (absent empty : PodFault)
    (use : String → PodAccess) : PodAccess :=
  if !files.hasFile path then .wanting absent
  else
    match files.readText path with
    | .error failure => .broken failure
    | .ok text => if text.isEmpty then .wanting empty else use text

/-- Reads the credentials of the pod: its address from the environment, its token and the
authority's certificate from files. -/
def readPod (tokenPath caPath : String) (environment : Variables) (files : Tree) : PodAccess :=
  match environment.value? "KUBERNETES_SERVICE_HOST",
    environment.value? "KUBERNETES_SERVICE_PORT" with
  | some host, some port =>
    if host.isEmpty || port.isEmpty then .wanting .addressEmpty
    else
      neededText files tokenPath .tokenAbsent .tokenEmpty fun token =>
        neededText files caPath .certificateAbsent .certificateEmpty fun _ =>
          .granted
            -- The mark is put in front and taken away again: a token that begins with it keeps it.
            { host := hostAddress host port
              caFile := caPath
              token := dropTokenMark (String.ofList tokenMark ++ token) }
  | _, _ => .wanting .addressUnset

/-- The error of credentials that cannot be used. -/
def podError (fault : PodFault) : OperatorError :=
  ((OperatorError.plain .configuration "Failed to get in-cluster config"
    [("error", .text fault.message)]).withCode "IN_CLUSTER_CONFIG_MISSING").causedBy
    .clusterSettings

variable {κ ρ : Type}

/-- The credentials of the pod. -/
def podCredentials (settings : ClusterSettings) (environment : Variables) :
    Act κ ρ Credentials := do
  let world ← Act.look
  match readPod settings.tokenPath settings.caPath environment world.files with
  | .granted credentials => pure credentials
  | .wanting fault => Act.fail (.operator (podError fault))
  | .broken failure => Act.fail failure

end ConsoleKeeper.Access
