import ConsoleKeeper.Settings.Layers
import ConsoleKeeper.World
import ConsoleKeeper.Yaml.Document

/-!
# `ConsoleKeeper.Settings.File`: settings from a file

A settings file is a YAML mapping, whose values count as given ones. A file that was asked for has
to exist. Otherwise a file with the usual name in the working directory is read if it is there.

What is no mapping is as good as an empty file.
-/

set_option autoImplicit false

namespace ConsoleKeeper.Settings

variable {κ ρ : Type}

/-- The name of the file that is read if no other is asked for. -/
def usualFile : String := "webui-operator.yaml"

/-- The error of a file that is not in the form of a YAML text. -/
def fileError (path : String) : OperatorError :=
  { kind := .configuration
    message := "Invalid YAML in configuration file: " ++ path
    code := "INVALID_CONFIG_FILE"
    details := [("path", .text path)]
    cause := some .document }

/-- The values that the text of a file gives. The names of values are texts. -/
def givenIn (path : String) (text : List Char) : Except Failure Fields :=
  match Yaml.Document.read text with
  | .error .broken => .error (.operator (fileError path))
  | .error (.failed failure) => .error failure
  | .ok ⟨.object fields, named⟩ => if named then .ok fields else .error .wrongKind
  | .ok _ => .ok []

/-- The values that the file at a path gives. -/
def readFile (files : Tree) (path : String) : Except Failure Fields :=
  let place := (Path.ofText path).text
  match files.read place with
  | .ok bytes =>
    match Text.Utf8.decode? bytes with
    | some cs => givenIn path (Text.unifyNewlines cs)
    | none => .error .notUtf8
  | .error .noEntry | .error .notDirectory => .error (.noConfigFile path)
  | .error reason => .error (.system (.about reason place))

/-- The settings from a file and the environment. -/
def load (environment : Variables) (path : Option String) : Act κ ρ Settings := do
  let world ← Act.look
  let path := match path with
    | some path => some path
    | none => if world.files.has usualFile then some usualFile else none
  let given ← match path with
    | some path => Act.lift (readFile world.files path)
    | none => pure []
  Act.lift (Settings.build world.files environment given)

end ConsoleKeeper.Settings
