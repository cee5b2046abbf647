import ConsoleKeeper.DryRun
import ConsoleKeeper.Proofs.Cluster.Store
import ConsoleKeeper.Proofs.Command.Recorder
import ConsoleKeeper.Proofs.Image
import ConsoleKeeper.Proofs.Inventory
import ConsoleKeeper.Proofs.Text.Utf8

/-!
# `ConsoleKeeper.Proofs.DryRun`: the playbook's part

`simulate` reads the inventory that it is given and does what it says. `simulate_render` puts that
together with the writing of inventories: for an inventory that was rendered and written to a file,
it deploys the wanted version, or takes the deployment away.
-/

set_option autoImplicit false

namespace ConsoleKeeper.DryRun

open Inventory (Fits)

variable {spec : WebUI.Spec} {target path : String} {task : PlaybookAction}
  {defaults : InventoryDefaults} {w : World Store (Recorder Unit)} {command : Command}

/-- Commands other than the playbook do nothing. -/
theorem simulate_other (h : command.program.endsWith "ansible-playbook" = false) :
    (simulate command).runOn w = (.ok (), w) := by
  simp [simulate, h]

/-! ### The inventory in its file -/

/-- An inventory whose values fit has no carriage return. -/
theorem return_not_mem_render
    (h : ∀ pair ∈ Inventory.assignments spec target task defaults, Fits pair.2) :
    '\r' ∉ (Inventory.render spec target task defaults).toList := by
  rw [Inventory.toList_render]
  intro hmem
  obtain ⟨line, hline, hc⟩ := List.mem_flatMap.mp hmem
  -- A line is unbroken, and what ends it is a newline.
  obtain hc | hc := List.mem_append.mp hc
  · have hbreak := Inventory.unbroken_renderedLines h line hline '\r' hc
    cases hbreak
  · cases List.mem_singleton.mp hc

/-- The text of a file that an inventory was written to. -/
theorem readText_render {files files' : Tree} {mode : Nat}
    (h : ∀ pair ∈ Inventory.assignments spec target task defaults, Fits pair.2)
    (hw : files.write path
      (Text.Utf8.encode (Inventory.render spec target task defaults).toList) mode = .ok files') :
    files'.readText path = .ok (Inventory.render spec target task defaults) := by
  obtain ⟨mode', hfind⟩ := Tree.find_of_write hw
  simp only [Tree.readText, Tree.read, Tree.textOf, hfind, Text.Utf8.decode?_encode,
    Text.unifyNewlines_eq_self (return_not_mem_render h), String.ofList_toList]

/-- The assignments in such a file. -/
theorem inventoryAt_render
    (h : ∀ pair ∈ Inventory.assignments spec target task defaults, Fits pair.2)
    (htext : w.files.readText path = .ok (Inventory.render spec target task defaults)) :
    (inventoryAt path).runOn w =
      (.ok (Inventory.assignments spec target task defaults), w) := by
  rw [inventoryAt, Act.runOn_bind_ok _ (Act.runOn_look w), htext,
    Act.runOn_bind_ok _ (Act.runOn_lift _ w), Inventory.runVariables_render h]
  rfl

/-! ### What is deployed -/

/-- The image that a run asks for. -/
def imageFor (spec : WebUI.Spec) (defaults : InventoryDefaults) : String :=
  Image.write (Inventory.orDefault spec.registryUrl defaults.registryUrl ++ "/" ++
    Inventory.orDefault spec.registryNamespace defaults.registryNamespace ++ "/kubevirt-web-ui")
    (some (Inventory.orDefault spec.version defaults.version)) none

/-- A variable that is assigned is there. -/
theorem need_eq {key value : String}
    (h : (key, value) ∈ Inventory.assignments spec target task defaults) :
    Inventory.need (Inventory.assignments spec target task defaults) key = .ok value := by
  rw [Inventory.need, Inventory.valueOf?_assignments h]

/-- The image is put together from the variables of the run. -/
theorem wantedImage_eq :
    Inventory.wantedImage (Inventory.assignments spec target task defaults) =
      .ok (imageFor spec defaults) := by
  have hurl : ("registry_url", Inventory.orDefault spec.registryUrl defaults.registryUrl) ∈
      Inventory.assignments spec target task defaults := by simp [Inventory.assignments]
  have hns : ("registry_namespace",
      Inventory.orDefault spec.registryNamespace defaults.registryNamespace) ∈
        Inventory.assignments spec target task defaults := by simp [Inventory.assignments]
  have htag : ("docker_tag", Inventory.orDefault spec.version defaults.version) ∈
      Inventory.assignments spec target task defaults := by simp [Inventory.assignments]
  simp only [Inventory.wantedImage, need_eq hurl, need_eq hns, need_eq htag]
  rfl

/-- The deployment of an image, with a new uid. -/
def deploymentOf (store : Store) (image : String) : Deployment :=
  (store.newDeployment ns image consoleName consoleName).1

/-- The store after the playbook's part was played. -/
def played (store : Store) (task : PlaybookAction) (image : String) : Store :=
  match task with
  | .provision =>
    (store.newDeployment ns image consoleName consoleName).2.putDeployment
      (deploymentOf store image)
  | .deprovision => store.removeDeployment ns consoleName

/-- The playbook with an inventory that was rendered for a task does that task. -/
theorem simulate_render (hprogram : command.program.endsWith "ansible-playbook" = true)
    (hpath : command.arguments[1]? = some path)
    (h : ∀ pair ∈ Inventory.assignments spec target task defaults, Fits pair.2)
    (htext : w.files.readText path = .ok (Inventory.render spec target task defaults)) :
    (simulate command).runOn w =
      (.ok (), { w with cluster := played w.cluster task (imageFor spec defaults) }) := by
  have htask : ("apb_action", task.name) ∈
      Inventory.assignments spec target task defaults := by simp [Inventory.assignments]
  rw [simulate, if_pos hprogram, hpath]
  dsimp only
  rw [Act.runOn_bind_ok _ (Act.runOn_lift _ w), Act.runOn_bind_ok _ (inventoryAt_render h htext),
    need_eq htask, Act.runOn_bind_ok _ (Act.runOn_lift _ w)]
  -- Only a provision reads its image back from the inventory.
  cases task with
  | provision =>
    rw [if_pos rfl, wantedImage_eq, Act.runOn_bind_ok _ (Act.runOn_lift _ w)]
    rfl
  | deprovision =>
    rw [if_neg (by decide)]
    rfl

end ConsoleKeeper.DryRun
