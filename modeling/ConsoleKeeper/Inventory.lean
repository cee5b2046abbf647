import ConsoleKeeper.Decision
import ConsoleKeeper.Image
import ConsoleKeeper.Resource.WebUI
import ConsoleKeeper.Settings.Basic

/-!
# `ConsoleKeeper.Inventory`: the document that a playbook reads

An inventory has three sections: the groups, the variables of the run, and the one host. `render`
writes it from what a resource wants, and an empty value is replaced by its default.

`runVariables` reads the run's variables back: it keeps the lines that have one equals sign and no
blank. `wantedImage` puts together the image that they ask for.
-/

set_option autoImplicit false

namespace ConsoleKeeper.Inventory

/-- A value, or its default where it is empty. -/
def orDefault (value default : String) : String :=
  if value.isEmpty then default else value

/-- The variables of a run with their values, in the order in which they are written. -/
def assignments (spec : WebUI.Spec) (ns : String) (action : PlaybookAction)
    (defaults : InventoryDefaults) : List (String × String) :=
  [("platform", "openshift"),
    ("apb_action", action.name),
    ("registry_url", orDefault spec.registryUrl defaults.registryUrl),
    ("registry_namespace", orDefault spec.registryNamespace defaults.registryNamespace),
    ("docker_tag", orDefault spec.version defaults.version),
    ("kubevirt_web_ui_namespace", orDefault ns defaults.ns)] ++
  (if action = .deprovision then [("preserve_namespace", "true")] else []) ++
  (if spec.defaultSubdomain.isEmpty then []
    else [("openshift_master_default_subdomain", spec.defaultSubdomain)]) ++
  (if spec.masterHostname.isEmpty then []
    else [("public_master_hostname", spec.masterHostname)])

/-- The lines of an inventory. -/
def renderedLines (spec : WebUI.Spec) (ns : String) (action : PlaybookAction)
    (defaults : InventoryDefaults) : List String :=
  ["[OSEv3:children]", "masters", "", "[OSEv3:vars]"] ++
  (assignments spec ns action defaults).map (fun (key, value) => key ++ "=" ++ value) ++
  ["", "[masters]", "127.0.0.1 ansible_connection=local"]

/-- The text of an inventory; every line ends with a newline. -/
def render (spec : WebUI.Spec) (ns : String) (action : PlaybookAction)
    (defaults : InventoryDefaults) : String :=
  String.join ((renderedLines spec ns action defaults).map (· ++ "\n"))

/-- The assignment on a line that has one equals sign and no blank. -/
def assignment? (line : List Char) : Option (String × String) :=
  if line.count '=' = 1 && !line.contains ' ' then
    match Text.cutFirst '=' line with
    | (key, some value) => some (String.ofList key, String.ofList value)
    | (_, none) => none
  else none

/-- Reads the assignments of a document. -/
def runVariables (document : String) : List (String × String) :=
  (Text.lines document.toList).filterMap assignment?

/-- The value that the last assignment to a key gives. -/
def valueOf? (assignments : List (String × String)) (key : String) : Option String :=
  (assignments.reverse.find? (·.1 = key)).map (·.2)

/-- The value of a key that has to have one. -/
def need (assignments : List (String × String)) (key : String) : Except Failure String :=
  match valueOf? assignments key with
  | some value => .ok value
  | none => .error .noKey

/-- The image that the assignments ask for. -/
def wantedImage (assignments : List (String × String)) : Except Failure String := do
  let registry ← need assignments "registry_url"
  let path ← need assignments "registry_namespace"
  let tag ← need assignments "docker_tag"
  .ok (Image.write (registry ++ "/" ++ path ++ "/kubevirt-web-ui") (some tag) none)

/-- Reads the assignments of a document in the freer way, where a value may hold further equals
signs. -/
def looseVariables (document : String) : List (String × String) :=
  (Text.lines document.toList).filterMap fun line =>
    if line.contains ' ' then none
    else
      match Text.cutFirst '=' line with
      | (key, some value) => some (String.ofList key, String.ofList value)
      | (_, none) => none

end ConsoleKeeper.Inventory
