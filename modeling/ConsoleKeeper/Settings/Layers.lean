import ConsoleKeeper.Settings.Sources

/-!
# `ConsoleKeeper.Settings.Layers`: given values over the environment over defaults

Settings come in layers. A value that is given counts before one from the environment, that before
one from a file of variables or a secret, and these before the default. Sections are merged key by
key, so a layer hides only the keys that it has.

Among the given values there may be rules for the sources, under names that begin with an
underscore. One such name can never be given: it is that of the receiver of the values.
-/

set_option autoImplicit false

namespace ConsoleKeeper.Settings

/-- The names of the rules for sources. Those that begin with `_cli` matter for settings from a
command line, of which there are none here. -/
def ruleNames : List String :=
  ["_case_sensitive", "_nested_model_default_partial_update", "_env_prefix", "_env_prefix_target",
    "_env_file", "_env_file_encoding", "_env_ignore_empty", "_env_nested_delimiter",
    "_env_nested_max_split", "_env_parse_none_str", "_env_parse_enums", "_secrets_dir",
    "_cli_prog_name", "_cli_parse_args", "_cli_settings_source", "_cli_parse_none_str",
    "_cli_hide_none_type", "_cli_avoid_json", "_cli_enforce_required",
    "_cli_use_class_docs_for_groups", "_cli_exit_on_error", "_cli_prefix",
    "_cli_flag_prefix_char", "_cli_implicit_flags", "_cli_ignore_unknown_args",
    "_cli_kebab_case", "_cli_shortcuts"]

/-- The rule with a name, unless it is null. -/
def rule? (given : Fields) (name : String) : Option Data :=
  match given.get? name with
  | none | some .null => none
  | some value => some value

/-- Whether a rule is set to something. -/
def holds (given : Fields) (name : String) : Bool :=
  match given.get? name with
  | none => false
  | some value => !value.isFalsy

/-- How often a name is cut by a rule: one cut less than there are to be parts. -/
def cutsOf : Option Data → Except Failure (Option Nat)
  | none => .ok none
  | some (.int n) => .ok (if n ≤ 0 then none else some (n.toNat - 1))
  | some (.bool b) => .ok (if b then some 0 else none)
  | some value => if value.isFalsy then .ok none else .error .wrongKind

/-- What names begin with by a rule. A value that has no length is refused. -/
def startOf : Option Data → Except Failure (Option String)
  | none => .ok ({} : SourceRules).start
  | some (.text s) => .ok (some s)
  | some (.list _) | some (.object _) | some (.bytes _) => .ok none
  | some _ => .error .wrongKind

/-- The rules for sources among the given values. -/
def rulesIn (given : Fields) : Except Failure SourceRules := do
  let cuts ← cutsOf (rule? given "_env_nested_max_split")
  let start ← startOf (rule? given "_env_prefix")
  return {
    start, cuts
    exact := holds given "_case_sensitive"
    nesting := match rule? given "_env_nested_delimiter" with
      | none => ({} : SourceRules).nesting
      | some (.text s) => s.toList
      | some _ => []
    dropsEmpty := holds given "_env_ignore_empty"
    nullWord := (rule? given "_env_parse_none_str").bind Data.text?
    files := (rule? given "_env_file").toList
    encoding := Data.field given "_env_file_encoding"
    secretPlaces := rule? given "_secrets_dir" }

/-- The given values under their own names, whatever the case in which they are written. Of two
names that differ in nothing but case the first counts. -/
def givenLayer (given : Fields) : Fields :=
  let values := given.filter fun field => !ruleNames.contains field.1
  let known := keys.filterMap fun key =>
    (values.find? fun field => small field.1 = key).map fun field => (key, field.2)
  known ++ values.filter fun field => !keys.contains (small field.1)

/-- The settings from given values and from the layers below them. -/
def gather (files : Tree) (environment : Variables) (given : Fields) : Except Failure Settings := do
  let rules ← rulesIn given
  let fileSource ← fileSource rules files environment
  let fromEnvironment ← layerOf rules
    (rules.source (environment.map fun (name, value) => (name, some value)))
  let fromFiles ← layerOf rules fileSource
  let fromFiles := mergeInto fromFiles (strangers rules fileSource fromFiles)
  let fromSecrets ← secretLayer rules files environment
  -- Each layer counts more than those before it; the given values count most.
  let layers := [fromFiles, fromEnvironment, givenLayer given]
  (read (.object (layers.foldl mergeInto fromSecrets))).orFail

/-- The name of what receives the given values. -/
def receiver : String := "__pydantic_self__"

/-- The settings from given values, the environment, and files that the given values name. Nothing
can be given under the name of the receiver, which is found out before anything is read. -/
def build (files : Tree) (environment : Variables) (given : Fields) : Except Failure Settings :=
  if given.has receiver then .error .wrongKind else gather files environment given

end ConsoleKeeper.Settings
