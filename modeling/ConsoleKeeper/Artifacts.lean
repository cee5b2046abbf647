import ConsoleKeeper.World

/-!
# `ConsoleKeeper.Artifacts`: files that live as long as a run

A run needs a credentials file and an inventory file. `withCredentialsFile` and `withInventoryFile`
make the file, run an action that may use it, and take the file away again, however the action
ended. A file that cannot be taken away is reported and changes nothing else.

The names have a random suffix. Where the source of random bytes fails, a fixed suffix stands in if
that is allowed.
-/

set_option autoImplicit false

namespace ConsoleKeeper.Artifacts

variable {κ ρ α : Type}

/-- A byte as two capital hexadecimal digits. -/
def hexOf (b : UInt8) : List Char :=
  (Text.hexDigits 2 b.toNat).map Char.toUpper

/-- The error where no random bytes are to be had. -/
def randomError (said : String) : OperatorError :=
  { kind := .artifact
    message := "Secure random source unavailable"
    code := "RANDOM_SOURCE_FAILED"
    details := [("error", .text said), ("path", .text "")]
    cause := some (.system (.said said)) }

/-- A suffix for a new file. -/
def uniqueSuffix (settings : ArtifactSettings) : Act κ ρ String := do
  match ← Act.draw settings.suffixBytes.toNat with
  | .ok bytes => pure (String.ofList (bytes.flatMap hexOf))
  | .error said =>
    if settings.allowFallback then
      Act.report (.randomFailed said settings.fallbackSuffix)
      pure settings.fallbackSuffix
    else Act.fail (.operator (randomError said))

/-- The path of a file with a name in the directory for such files. -/
def pathOf (settings : ArtifactSettings) (name : String) : String :=
  ((Path.ofText settings.tempDir).join (Path.ofText name)).text

/-- The path of the credentials file with a suffix. -/
def credentialsNamed (settings : ArtifactSettings) (suffix : String) : String :=
  pathOf settings (settings.credentialsPrefix ++ "_" ++ suffix)

/-- The path of the inventory file with a suffix. -/
def inventoryNamed (settings : ArtifactSettings) (suffix : String) : String :=
  pathOf settings (settings.inventoryPrefix ++ "_" ++ suffix ++ settings.inventoryExtension)

/-- A path for a new credentials file. -/
def credentialsPath (settings : ArtifactSettings) : Act κ ρ String := do
  let suffix ← uniqueSuffix settings
  pure (credentialsNamed settings suffix)

/-- A path for a new inventory file. -/
def inventoryPath (settings : ArtifactSettings) : Act κ ρ String := do
  let suffix ← uniqueSuffix settings
  pure (inventoryNamed settings suffix)

/-- Refuses a path that no system takes. -/
def refuseNul (path : String) : Act κ ρ Unit :=
  if path.contains '\x00' then Act.fail .badArgument else pure ()

/-- Takes a file away. Nothing being there is as good. The answer says whether nothing is left. -/
def remove (path : String) : Act κ ρ Bool := do
  refuseNul path
  let world ← Act.look
  match world.files.unlink path with
  | .ok files =>
    Act.change fun world => { world with files }
    Act.report (.artifactRemoved path)
    pure true
  | .error .noEntry =>
    Act.report (.artifactRemoved path)
    pure true
  | .error reason =>
    Act.report (.artifactKept path (SystemError.about reason path).message)
    pure false

/-- The error where a file of a run cannot be made. -/
def makingError (start code path : String) (e : SystemError) : OperatorError :=
  { kind := .artifact
    message := start ++ e.message
    code
    details := [("path", .text path)]
    cause := some (.system e) }

/-- The permissions of a credentials file: its owner alone may read and write it. -/
def privateMode : Nat := 0o600

/-- The permissions of an ordinary file. -/
def commonMode : Nat := 0o644

/-- Makes an empty credentials file. -/
def makeCredentials (path : String) : Act κ ρ Unit := do
  refuseNul path
  Act.rescuing Failure.system? (Act.changeFiles path fun files => files.write path [] privateMode)
    fun e => Act.fail (.operator
      (makingError "Failed to create credentials file: " "CREDENTIALS_FILE_FAILED" path e))

/-- Writes an inventory file; if that fails, nothing is left of it. -/
def makeInventory (path content : String) : Act κ ρ Unit := do
  refuseNul path
  let bytes := Text.Utf8.encode content.toList
  Act.rescuing Failure.system? (Act.changeFiles path fun files => files.write path bytes commonMode)
    fun e => do
      let _ ← remove path
      Act.fail (.operator
        (makingError "Failed to write inventory file: " "INVENTORY_WRITE_FAILED" path e))

/-- Makes a new credentials file and gives its path. -/
def openCredentials (settings : ArtifactSettings) : Act κ ρ String := do
  let path ← credentialsPath settings
  makeCredentials path
  Act.report (.artifactMade .credentials path)
  pure path

/-- Makes a new inventory file and gives its path. -/
def openInventory (settings : ArtifactSettings) (content : String) : Act κ ρ String := do
  let path ← inventoryPath settings
  makeInventory path content
  Act.report (.artifactMade .inventory path)
  pure path

/-- Runs an action and takes a file away after it, however it ended. -/
def thenRemove (use : Act κ ρ α) (path : String) : Act κ ρ α :=
  Act.ensuring use (discard (remove path))

/-- Runs an action with a new credentials file. -/
def withCredentialsFile (settings : ArtifactSettings) (use : String → Act κ ρ α) : Act κ ρ α := do
  let path ← openCredentials settings
  thenRemove (use path) path

/-- Runs an action with a new inventory file. -/
def withInventoryFile (settings : ArtifactSettings) (content : String)
    (use : String → Act κ ρ α) : Act κ ρ α := do
  let path ← openInventory settings content
  thenRemove (use path) path

end ConsoleKeeper.Artifacts
