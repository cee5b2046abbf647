import ConsoleKeeper.Data.Json
import ConsoleKeeper.Failure.Basic
import ConsoleKeeper.Files.Tree
import ConsoleKeeper.Settings.Basic
import ConsoleKeeper.Settings.EnvFile
import ConsoleKeeper.Text.Case

/-!
# `ConsoleKeeper.Settings.Sources`: where settings come from besides given values

Variables of the environment, variables in files, and files in a directory of secrets can all give
settings. `SourceRules` says how they are named and where they are looked for. The usual rules look
at the environment only: there a variable is named after a value, after a section, or after a
section and a value in it with two underscores between, and the case of its name does not matter.

A section's own variable holds a JSON document, and the variables of its values count before the
keys of that document.
-/

set_option autoImplicit false

namespace ConsoleKeeper.Settings

mutual

/-- A document with the keys of another put over it; where both hold mappings, these are merged. -/
def mergeData (below above : Data) : Data :=
  match below, above with
  | .object u, .object o => .object (mergeInto u o)
  | _, above => above

/-- A mapping with the keys of another put over it. -/
def mergeInto (under : List (String × Data)) : List (String × Data) → List (String × Data)
  | [] => under
  | (key, value) :: rest =>
    mergeInto
      (Table.put under key
        (match Table.get? under key with
          | some below => mergeData below value
          | none => value)) rest

end

/-- A name in small letters. -/
def small (name : String) : String :=
  String.ofList (Text.lower name.toList)

/-- How the sources of settings are named and where they are. -/
structure SourceRules where
  /-- What the names of the operator's own variables begin with; nothing can be looked up if it is
  no text. -/
  start : Option String := some "WEBUI_OPERATOR_"
  /-- Whether the case of a name matters. -/
  exact : Bool := false
  /-- What stands between the names of a section and of a value in it; nothing if sections have no
  variables of their values. -/
  nesting : List Char := ['_', '_']
  /-- How often a name behind a section's is cut at most. -/
  cuts : Option Nat := none
  /-- Whether empty variables count as unset. -/
  dropsEmpty : Bool := false
  /-- The value that means null. -/
  nullWord : Option String := none
  /-- The paths of files of variables. -/
  files : List Data := []
  /-- The form of the texts in those files. -/
  encoding : Data := .null
  /-- The paths of directories of secrets. -/
  secretPlaces : Option Data := none
  deriving Inhabited

/-- What a source says under a name. -/
inductive SourceValue where
  | text (value : String)
  /-- The word that means null. -/
  | nullWord (word : String)
  /-- A name without a value. -/
  | nothing
  deriving DecidableEq, Repr, Inhabited

/-- The values of one source under their names. -/
abbrev Source := Table String SourceValue

namespace SourceRules

/-- A name as it is compared. -/
def compared (rules : SourceRules) (name : String) : String :=
  if rules.exact then name else small name

/-- What a variable says. -/
def valueOf (rules : SourceRules) : Option String → SourceValue
  | none => .nothing
  | some value => if rules.nullWord = some value then .nullWord value else .text value

/-- The variables as a source. Of two that are compared alike the later counts. -/
def source (rules : SourceRules) (named : List (String × Option String)) : Source :=
  named.foldl
    (fun done (name, value) =>
      if rules.dropsEmpty && value = some "" then done
      else Table.put done (rules.compared name) (rules.valueOf value))
    []

end SourceRules

/-- Puts a value at the end of a path of names. Where the path meets a value that is no mapping,
nothing changes; one that only fills gaps replaces nothing but an empty mapping. -/
def plant (fills : Bool) (fields : Fields) (value : Data) : List String → Fields
  | [] => fields
  | [key] =>
    match fills, fields.get? key with
    | true, some (.object []) | true, none | false, _ => fields.put key value
    | true, some _ => fields
  | key :: more =>
    match fields.get? key with
    | some (.object inner) => fields.put key (.object (plant fills inner value more))
    | some _ => fields
    | none => fields.put key (.object (plant fills [] value more))

/-- The values that a source gives to a section one by one. -/
def nestedValues (rules : SourceRules) (source : Source) (name : String) : Fields :=
  if rules.nesting.isEmpty then []
  else
    source.foldl
      (fun fields (given, value) =>
        match List.isPrefixOf? (name.toList ++ rules.nesting) given.toList with
        | some rest =>
          let path := (Text.piecesBetween rules.nesting rules.cuts rest).map String.ofList
          match value with
          | .text s => plant false fields (.text s) path
          | .nullWord _ => plant true fields .null path
          | .nothing => plant false fields .null path
        | none => fields)
      []

/-- The section's values under their own names, whatever the case in which they are written. -/
def ownNames (names : List String) (fields : Fields) : Fields :=
  fields.foldl
    (fun done (key, value) =>
      match names.find? (· = small key) with
      | some name => Table.put done name value
      | none => Table.put done key value)
    []

/-- The document that a variable holds. -/
def documentIn (text : String) : Except Failure Data :=
  match Json.parse text with
  | .ok value => .ok value
  | .error .malformed => .error .badSetting
  | .error .tooDeep => .error .tooDeep

/-- What a source says about a section with the names `names` in it, if anything. -/
def sectionFrom (rules : SourceRules) (source : Source) (name : String) (names : List String) :
    Except Failure (Option Data) := do
  let nested := nestedValues rules source name
  let own (fields : Fields) : Data :=
    .object (if rules.exact then fields else ownNames names fields)
  match source.get? name with
  | none | some .nothing => return if nested.isEmpty then none else some (own nested)
  | some (.nullWord _) => return some .null
  | some (.text text) =>
    match ← documentIn text with
    | .object fields => return some (own (mergeInto fields nested))
    | .null => return none
    | value => return some value

/-- What a source says about a single value, if anything. -/
def singleFrom (source : Source) (name : String) : Option Data :=
  match source.get? name with
  | some (.text s) => some (.text s)
  | some (.nullWord _) => some .null
  | some .nothing | none => none

/-- The layer that a source of variables gives. -/
def layerOf (rules : SourceRules) (source : Source) : Except Failure Fields :=
  match rules.start with
  | none => .error .badSetting
  | some start =>
    keys.foldlM
      (fun layer key => do
        let name := rules.compared (start ++ key)
        let value ← match sections.lookup key with
          | some names => sectionFrom rules source name names
          | none => .ok (singleFrom source name)
        .ok (match value with
          | some value => layer.put key value
          | none => layer))
      []

/-- What a source says under names that are none of the settings'. -/
def strangers (rules : SourceRules) (source : Source) (layer : Fields) : Fields :=
  let start := rules.start.getD ""
  source.foldl
    (fun done (name, value) =>
      let said := match value with
        | .text s | .nullWord s => s
        | .nothing => ""
      let isOwn := keys.any fun key =>
        let own := rules.compared (start ++ key)
        name = own || ((sections.lookup key).isSome && own.toList.isPrefixOf name.toList)
      if said.isEmpty || Table.has layer name || (start ≠ "" && keys.contains name) || isOwn
      then done
      else Table.put done name (.text said))
    []

/-- A path with the home directory written out. -/
def homePath (environment : Variables) (path : String) : Except Failure String :=
  match (Path.ofText path).root, (Path.ofText path).names with
  | "", name :: rest =>
    if name.startsWith "~" then
      -- Of all the users that a name may stand for, only these are known here.
      let home? := match name with
        | "~" => environment.value? "HOME"
        | "~root" => some "/root"
        | _ => none
      match home? with
      | some home =>
        .ok ((Path.ofText home).join (Path.ofText (String.intercalate "/" rest))).text
      | none => .error (.unexpected "Could not determine home directory.")
    else .ok (Path.ofText path).text
  | _, _ => .ok (Path.ofText path).text

/-- The paths that a value names: one, or those in a list. -/
def pathsIn (environment : Variables) : Data → Except Failure (List String)
  | .text path => (homePath environment path).map fun path => [path]
  | .list items =>
    items.mapM fun item =>
      match item with
      | .text path => homePath environment path
      | _ => .error .wrongKind
  | .object fields => fields.mapM fun field => homePath environment field.1
  | _ => .error .wrongKind

/-- The names of the forms in which every byte is one character. -/
def byteEncodings : List String :=
  ["latin_1", "latin1", "latin", "l1", "iso_8859_1", "iso8859_1", "iso8859", "8859", "cp819"]

/-- The names of the form with the characters up to 127 only. -/
def narrowEncodings : List String := ["ascii", "us_ascii", "646"]

/-- The names of the usual form. -/
def wideEncodings : List String := ["utf8", "utf_8", "utf", "u8", "cp65001"]

/-- The text that bytes encode in a form that has a name. -/
def decoded (encoding : Data) (bytes : List UInt8) : Except Failure (List Char) :=
  let wide : Except Failure (List Char) := match Text.Utf8.decode? bytes with
    | some cs => .ok cs
    | none => .error .notUtf8
  match encoding with
  | .text name =>
    -- Names of forms are compared in small letters, with underscores for hyphens and blanks.
    let name := String.ofList
      ((small name).toList.map fun c => if c = '-' || c = ' ' then '_' else c)
    if name = "" || wideEncodings.contains name then wide
    else if name = "utf_8_sig" then
      wide.map fun cs => if cs.head? = some '\ufeff' then cs.drop 1 else cs
    else if byteEncodings.contains name then .ok (bytes.map fun b => Char.ofNat b.toNat)
    else if narrowEncodings.contains name then
      if bytes.all (· < 0x80) then wide else .error .notUtf8
    else .error .noEncoding
  | other => if other.isFalsy then wide else .error .wrongKind

/-- The source that files of variables make together, of which the later counts. -/
def fileSource (rules : SourceRules) (files : Tree) (environment : Variables) :
    Except Failure Source :=
  rules.files.foldlM
    (fun done file => do
      let paths ← pathsIn environment file
      paths.foldlM
        (fun done path =>
          match files.find path with
          | .ok (.file bytes _) => do
            let cs ← decoded rules.encoding bytes
            let found := EnvFile.defined environment (Text.unifyNewlines cs)
            return (rules.source found).foldl (fun done (k, v) => Table.put done k v) done
          | _ => .ok done)
        done)
    []

/-- The text of the file with a name in a directory. -/
def secretIn (rules : SourceRules) (files : Tree) (place : Place) (name : String) :
    Except Failure (Option String) :=
  let inside := files.nodes.filterMap fun (p, node) =>
    match List.isPrefixOf? place p, node with
    | some [own], .file content _ => if rules.compared own = name then some content else none
    | _, _ => none
  match inside with
  | [] => .ok none
  | content :: _ =>
    match Text.Utf8.decode? content with
    | some cs =>
      .ok (some (String.ofList (Text.trim Text.isSpace (Text.unifyNewlines cs))))
    | none => .error .badSetting

/-- The layer that directories of secrets give. A directory that is not there gives nothing. -/
def secretLayer (rules : SourceRules) (files : Tree) (environment : Variables) :
    Except Failure Fields := do
  let paths ← match rules.secretPlaces with
    | none => pure []
    | some value => pathsIn environment value
  let places ← (paths.filter files.has).mapM fun path =>
    match files.find path, files.locate path with
    | .ok .directory, .ok place => .ok place
    | _, _ => .error Failure.badSetting
  if places.isEmpty then return []
  match rules.start with
  | none => .error .badSetting
  | some start =>
    keys.foldlM
      (fun layer key => do
        let name := rules.compared (start ++ key)
        -- The last place that has the secret counts.
        let found ← places.reverse.foldlM
          (fun (found : Option String) place =>
            match found with
            | some text => .ok (some text)
            | none => secretIn rules files place name)
          none
        match found, sections.lookup key with
        | none, _ => return layer
        | some text, none => return layer.put key (.text text)
        | some text, some names =>
          match ← documentIn text with
          | .null => return layer
          | .object fields =>
            return layer.put key (.object (if rules.exact then fields else ownNames names fields))
          | value => return layer.put key value)
      []

end ConsoleKeeper.Settings
