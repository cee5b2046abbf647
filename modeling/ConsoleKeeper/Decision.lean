import ConsoleKeeper.Version

/-!
# `ConsoleKeeper.Decision`: what to do about a deployed version

The vocabulary of a pass: the phases it reports, the actions it chooses between, and the two things
a playbook can be asked to do. `Action.choose` chooses the action from the requested version and the
deployed one.
-/

set_option autoImplicit false

namespace ConsoleKeeper

/-- What a resource's status says about the last pass. -/
inductive Phase where
  | provisionStarted
  | provisioned
  | provisionFailed
  | deprovisionStarted
  | deprovisioned
  | deprovisionFailed
  | otherError
  | notDeployed
  | ownerReferenceFailed
  deriving DecidableEq, Repr, Inhabited

namespace Phase

/-- The word for a phase in a resource's status. -/
def name : Phase → String
  | provisionStarted => "PROVISION_STARTED"
  | provisioned => "PROVISIONED"
  | provisionFailed => "PROVISION_FAILED"
  | deprovisionStarted => "DEPROVISION_STARTED"
  | deprovisioned => "DEPROVISIONED"
  | deprovisionFailed => "DEPROVISION_FAILED"
  | otherError => "OTHER_ERROR"
  | notDeployed => "NOT_DEPLOYED"
  | ownerReferenceFailed => "OWNER_REFERENCE_FAILED"

/-- All phases. -/
def all : List Phase :=
  [provisionStarted, provisioned, provisionFailed, deprovisionStarted, deprovisioned,
    deprovisionFailed, otherError, notDeployed, ownerReferenceFailed]

/-- The phase that a word stands for. -/
def ofName? (word : String) : Option Phase :=
  all.find? (·.name = word)

end Phase

/-- What a pass does to bring the deployed version to the requested one. -/
inductive Action where
  | noop
  | provision
  | deprovision
  | deprovisionThenProvision
  deriving DecidableEq, Repr, Inhabited

namespace Action

/-- The word for an action. -/
def name : Action → String
  | noop => "noop"
  | provision => "provision"
  | deprovision => "deprovision"
  | deprovisionThenProvision => "deprovision_then_provision"

/-- All actions. -/
def all : List Action := [noop, provision, deprovision, deprovisionThenProvision]

/-- The action that a word stands for. -/
def ofName? (word : String) : Option Action :=
  all.find? (·.name = word)

end Action

/-- What a playbook is asked to do. -/
inductive PlaybookAction where
  | provision
  | deprovision
  deriving DecidableEq, Repr, Inhabited

namespace PlaybookAction

/-- The word for a playbook's task. -/
def name : PlaybookAction → String
  | provision => "provision"
  | deprovision => "deprovision"

/-- The playbook's task that a word stands for. -/
def ofName? (word : String) : Option PlaybookAction :=
  [provision, deprovision].find? (·.name = word)

end PlaybookAction

/-- Chooses the action for a requested version and the deployed one, `none` where nothing is
deployed. An empty request asks for nothing to be deployed. -/
def Action.choose (desired : String) (actual : Option String) : Action :=
  match actual with
  | none => if desired.isEmpty then .noop else .provision
  | some actual =>
    -- An empty request is looked at only where the versions differ.
    if Version.same desired actual then .noop
    else if desired.isEmpty then .deprovision
    else .deprovisionThenProvision

end ConsoleKeeper
