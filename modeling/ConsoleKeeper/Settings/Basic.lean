import ConsoleKeeper.Validation.Scalar

/-!
# `ConsoleKeeper.Settings.Basic`: what can be configured

The settings have a few values of their own and four sections, one for each part of the operator
that needs some. Each section has a reading from a document, a default for every value, and a
`fields` form.
-/

set_option autoImplicit false

namespace ConsoleKeeper

/-- What the inventory says where a resource leaves a value empty. -/
structure InventoryDefaults where
  registryUrl : String := "quay.io"
  registryNamespace : String := "kubevirt"
  version : String := "v1.4"
  ns : String := "kubevirt-web-ui"
  deriving DecidableEq, Repr, Inhabited

namespace InventoryDefaults

/-- Reads the section. -/
def read : Reading InventoryDefaults :=
  Reading.record fun fields =>
    let d : InventoryDefaults := {}
    InventoryDefaults.mk <$> Reading.optional fields "registry_url" d.registryUrl Reading.text
      <*> Reading.optional fields "registry_namespace" d.registryNamespace Reading.text
      <*> Reading.optional fields "version" d.version Reading.text
      <*> Reading.optional fields "namespace" d.ns Reading.text

/-- The section as a record. -/
def fields (s : InventoryDefaults) : Fields :=
  [("registry_url", .text s.registryUrl), ("registry_namespace", .text s.registryNamespace),
    ("version", .text s.version), ("namespace", .text s.ns)]

end InventoryDefaults

/-- The external commands and how long one may take. -/
structure CommandSettings where
  clientBinary : String := "oc"
  playbookBinary : String := "ansible-playbook"
  playbookPath : String := "/kubevirt-web-ui-ansible/playbooks/kubevirt-web-ui/config.yml"
  verbosityFlag : String := "-vvv"
  kubeconfigVariable : String := "KUBECONFIG"
  timeoutSeconds : Option Binary64 := none
  deriving DecidableEq, Repr, Inhabited

namespace CommandSettings

/-- Reads the section. -/
def read : Reading CommandSettings :=
  Reading.record fun fields =>
    let d : CommandSettings := {}
    CommandSettings.mk <$> Reading.optional fields "oc_binary" d.clientBinary Reading.text
      <*> Reading.optional fields "ansible_playbook_binary" d.playbookBinary Reading.text
      <*> Reading.optional fields "playbook_path" d.playbookPath Reading.text
      <*> Reading.optional fields "verbosity_flag" d.verbosityFlag Reading.text
      <*> Reading.optional fields "kubeconfig_env" d.kubeconfigVariable Reading.text
      <*> Reading.optional fields "timeout_seconds" none (Reading.nullable Reading.positiveFloat)

/-- The section as a record. -/
def fields (s : CommandSettings) : Fields :=
  [("oc_binary", .text s.clientBinary), ("ansible_playbook_binary", .text s.playbookBinary),
    ("playbook_path", .text s.playbookPath), ("verbosity_flag", .text s.verbosityFlag),
    ("kubeconfig_env", .text s.kubeconfigVariable),
    ("timeout_seconds", (s.timeoutSeconds.map Data.float).getD .null)]

end CommandSettings

/-- Where the files of a run go and what they are called. -/
structure ArtifactSettings where
  tempDir : String := "/tmp"
  credentialsPrefix : String := "config"
  inventoryPrefix : String := "inventory"
  inventoryExtension : String := ".ini"
  suffixBytes : Int := 5
  fallbackSuffix : String := "abcde"
  allowFallback : Bool := true
  deriving DecidableEq, Repr, Inhabited

namespace ArtifactSettings

/-- Reads the section. -/
def read : Reading ArtifactSettings :=
  Reading.record fun fields =>
    let d : ArtifactSettings := {}
    ArtifactSettings.mk <$> Reading.optional fields "temp_dir" d.tempDir Reading.text
      <*> Reading.optional fields "credentials_prefix" d.credentialsPrefix Reading.text
      <*> Reading.optional fields "inventory_prefix" d.inventoryPrefix Reading.text
      <*> Reading.optional fields "inventory_extension" d.inventoryExtension Reading.text
      <*> Reading.optional fields "suffix_bytes" d.suffixBytes (Reading.intBetween 1 32)
      <*> Reading.optional fields "fallback_suffix" d.fallbackSuffix Reading.text
      <*> Reading.optional fields "allow_insecure_fallback" d.allowFallback Reading.bool

/-- The section as a record. -/
def fields (s : ArtifactSettings) : Fields :=
  [("temp_dir", .text s.tempDir), ("credentials_prefix", .text s.credentialsPrefix),
    ("inventory_prefix", .text s.inventoryPrefix),
    ("inventory_extension", .text s.inventoryExtension), ("suffix_bytes", .int s.suffixBytes),
    ("fallback_suffix", .text s.fallbackSuffix), ("allow_insecure_fallback", .bool s.allowFallback)]

end ArtifactSettings

/-- What stands behind the cluster's interface. -/
inductive Backend where
  /-- A running cluster. -/
  | kubernetes
  /-- A cluster that lives as long as the process. -/
  | memory
  deriving DecidableEq, Repr, Inhabited

namespace Backend

/-- The word for a backend. -/
def name : Backend → String
  | kubernetes => "kubernetes"
  | memory => "memory"

/-- The backend that a word stands for. -/
def ofName? (word : String) : Option Backend :=
  [kubernetes, memory].find? (·.name = word)

end Backend

/-- What the managed resources and the deployment are called in the cluster. -/
structure ClusterSettings where
  backend : Backend := .kubernetes
  group : String := "kubevirt.io"
  version : String := "v1alpha1"
  plural : String := "kwebuis"
  kind : String := "KWebUI"
  deploymentName : String := "console"
  containerName : String := "console"
  tokenPath : String := "/var/run/secrets/kubernetes.io/serviceaccount/token"
  caPath : String := "/var/run/secrets/kubernetes.io/serviceaccount/ca.crt"
  deriving DecidableEq, Repr, Inhabited

namespace ClusterSettings

/-- Reads the section. -/
def read : Reading ClusterSettings :=
  Reading.record fun fields =>
    let d : ClusterSettings := {}
    let text (key default : String) := Reading.optional fields key default Reading.text
    ClusterSettings.mk
      <$> Reading.optional fields "backend" d.backend (Reading.wordIn Backend.ofName? .notAChoice)
      <*> text "group" d.group <*> text "version" d.version <*> text "plural" d.plural
      <*> text "kind" d.kind <*> text "deployment_name" d.deploymentName
      <*> text "container_name" d.containerName <*> text "token_path" d.tokenPath
      <*> text "ca_path" d.caPath

/-- The section as a record. -/
def fields (s : ClusterSettings) : Fields :=
  [("backend", .text s.backend.name), ("group", .text s.group), ("version", .text s.version),
    ("plural", .text s.plural), ("kind", .text s.kind), ("deployment_name", .text s.deploymentName),
    ("container_name", .text s.containerName), ("token_path", .text s.tokenPath),
    ("ca_path", .text s.caPath)]

/-- Group and version as an owner reference names them. -/
def apiVersion (s : ClusterSettings) : String :=
  s.group ++ "/" ++ s.version

end ClusterSettings

/-- Where the operator runs; for information only. -/
inductive Stage where
  | dev
  | staging
  | prod
  deriving DecidableEq, Repr, Inhabited

namespace Stage

/-- The word for a stage. -/
def name : Stage → String
  | dev => "dev"
  | staging => "staging"
  | prod => "prod"

/-- The stage that a word stands for. -/
def ofName? (word : String) : Option Stage :=
  [dev, staging, prod].find? (·.name = word)

end Stage

/-- How log records are written. -/
inductive LogFormat where
  | console
  | json
  deriving DecidableEq, Repr, Inhabited

namespace LogFormat

/-- The word for a format. -/
def name : LogFormat → String
  | console => "console"
  | json => "json"

/-- The format that a word stands for. -/
def ofName? (word : String) : Option LogFormat :=
  [console, json].find? (·.name = word)

end LogFormat

/-- Everything that can be configured. -/
structure Settings where
  stage : Stage := .prod
  logLevel : String := "INFO"
  logFormat : LogFormat := .console
  retryDelay : Binary64 := .ofInt 30
  inventory : InventoryDefaults := {}
  commands : CommandSettings := {}
  artifacts : ArtifactSettings := {}
  cluster : ClusterSettings := {}
  deriving DecidableEq, Repr, Inhabited

namespace Settings

/-- The names of the values, those of the sections last. -/
def keys : List String :=
  ["environment", "log_level", "log_format", "retry_delay_seconds", "inventory", "commands",
    "artifacts", "cluster"]

/-- The names of the values in each section. -/
def sections : List (String × List String) :=
  [("inventory", InventoryDefaults.fields {} |>.map (·.1)),
    ("commands", CommandSettings.fields {} |>.map (·.1)),
    ("artifacts", ArtifactSettings.fields {} |>.map (·.1)),
    ("cluster", ClusterSettings.fields {} |>.map (·.1))]

/-- Reports every name that is none of the settings'. -/
def refuseOthers (fields : Fields) : Checked Unit :=
  match fields.filter fun field => !keys.contains field.1 with
  | [] => .ok ()
  | others => .faulty (others.map fun field => ⟨[.key field.1], .extra⟩)

/-- Reads the settings. Here an unknown name is a fault. -/
def read : Reading Settings :=
  Reading.record fun fields =>
    let d : Settings := {}
    (fun settings _ => settings)
      <$> (Settings.mk
        <$> Reading.optional fields "environment" d.stage (Reading.wordIn Stage.ofName? .notAChoice)
        <*> Reading.optional fields "log_level" d.logLevel Reading.text
        <*> Reading.optional fields "log_format" d.logFormat
          (Reading.wordIn LogFormat.ofName? .notAChoice)
        <*> Reading.optional fields "retry_delay_seconds" d.retryDelay Reading.positiveFloat
        <*> Reading.optional fields "inventory" d.inventory InventoryDefaults.read
        <*> Reading.optional fields "commands" d.commands CommandSettings.read
        <*> Reading.optional fields "artifacts" d.artifacts ArtifactSettings.read
        <*> Reading.optional fields "cluster" d.cluster ClusterSettings.read)
      <*> refuseOthers fields

/-- The settings as a record. -/
def fields (s : Settings) : Fields :=
  [("environment", .text s.stage.name), ("log_level", .text s.logLevel),
    ("log_format", .text s.logFormat.name), ("retry_delay_seconds", .float s.retryDelay),
    ("inventory", .object s.inventory.fields), ("commands", .object s.commands.fields),
    ("artifacts", .object s.artifacts.fields), ("cluster", .object s.cluster.fields)]

end Settings

end ConsoleKeeper
