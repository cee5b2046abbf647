import ConsoleKeeper.Yaml.Coded
import ConsoleKeeper.Yaml.Node

/-!
# `ConsoleKeeper.Yaml.Document`: the value of a YAML text

A text holds one document or none. `Document.read` gives its value. The parts of the document are
worked out in rounds: first the outermost part, then what it holds, then what those parts hold, and
so on. So of several parts without a value the one with the fewest collections around it counts.

A mapping may merge others in under the key `<<`; its own pairs count before those.
-/

set_option autoImplicit false

namespace ConsoleKeeper.Yaml

/-- What is known while the parts of a document are worked out. -/
structure Workshop where
  graph : Graph
  /-- The values of the scalars met so far, by their numbers. A collection has none of its own, and
  is null here. -/
  values : Array (Option Data)
  /-- The collections met in this round, the last one first. -/
  pending : List Nat := []

namespace Workshop

/-- Nothing of a document is worked out yet. -/
def ofGraph (graph : Graph) : Workshop :=
  { graph, values := Array.replicate graph.size none }

/-- The value of the scalar with a number. -/
def value (workshop : Workshop) (number : Nat) : Data :=
  (workshop.values[number]?.bind id).getD .null

/-- A step in working out the parts of a document. -/
abbrev Work (α : Type) := StateT Workshop Reading α

/-- The document is broken. -/
def refuse {α : Type} : Work α := fun _ => .broken

/-- The value of something read, if it could be read. -/
def lift {α : Type} (reading : Reading α) : Work α := fun workshop =>
  reading.map fun a => (a, workshop)

/-- The part with a number. -/
def partAt (number : Nat) : Work Node := do
  return ((← get).graph.get? number).getD default

/-- Whether the part with a number was met. -/
def isMet (number : Nat) : Work Bool := do
  return ((← get).values[number]?.bind id).isSome

/-- Meets the part with a number, which has a value. -/
def meet (number : Nat) (value : Data) : Work Unit :=
  modify fun workshop =>
    { workshop with values := workshop.values.setIfInBounds number (some value) }

/-- The tag of the part with a number. -/
def tagOf (number : Nat) : Work Tag := do
  return (← get).graph.tagOf number

/-- Gives the part with a number another tag. -/
def retag (number : Nat) (tag : Tag) : Work Unit := do
  let part ← partAt number
  modify fun workshop => { workshop with graph := workshop.graph.set number { part with tag } }

/-- The pairs of the mapping with a number; nothing if it is no mapping. -/
def pairsOf? (number : Nat) : Work (Option (List (Nat × Nat))) := do
  match (← partAt number).content with
  | .mapping pairs => pure (some pairs)
  | _ => pure none

/-- Gives the mapping with a number other pairs. -/
def setPairs (number : Nat) (pairs : List (Nat × Nat)) : Work Unit := do
  let part ← partAt number
  modify fun workshop =>
    { workshop with graph := workshop.graph.set number { part with content := .mapping pairs } }

/-! ### Scalars -/

/-- The text of a part that is to be a scalar. A mapping stands for its own value; it may not stand
for itself. -/
def scalarText (graph : Graph) : Nat → Nat → Reading ScalarText
  | 0, _ => .failed .tooDeep
  | fuel + 1, number =>
    match graph.contentOf number with
    | .scalar text => .ok text
    | .mapping pairs =>
      match pairs.find? fun pair => graph.tagOf pair.1 = .own with
      | some (_, value) => scalarText graph fuel value
      | none => .broken
    | .sequence _ => .broken

/-- The value of a text that is something. -/
def scalarValue (tag : Tag) (scalar : ScalarText) : Reading Data :=
  let cs := scalar.text
  match tag with
  | .null => .ok .null
  | .text => .ok scalar.value
  | .bool =>
    match boolWords.lookup (String.ofList (cs.map Char.toLower)) with
    | some b => .ok (.bool b)
    | none => .failed .noKey
  | .int => (wholeOf cs).map .int
  | .float => (binaryOf cs).map .float
  | .time => (checkTime cs).map fun _ => .foreign "time"
  | .binary =>
    match codedBytes? cs with
    | some bytes => .ok (.bytes bytes)
    | none => .broken
  | _ => .broken

/-- The value of the scalar with a number. A time has to be written as a scalar itself. -/
def scalarAt (number : Nat) (part : Node) : Work Data := do
  let graph := (← get).graph
  let text ← lift (scalarText graph (graph.size + 1) number)
  match part.tag, part.content with
  | .time, .mapping _ => lift (.failed .wrongKind)
  | tag, _ => lift (scalarValue tag text)

/-- Works a part out. A collection is left for the next round. -/
def visit (number : Nat) : Work Unit := do
  if ← isMet number then return
  let part ← partAt number
  if part.tag.isCollection then
    meet number .null
    modify fun workshop => { workshop with pending := number :: workshop.pending }
  else
    match part.tag with
    | .merge | .own | .unknown => refuse
    | _ => meet number (← scalarAt number part)

/-! ### Merging -/

/-- How many pairs of a mapping merge others in. -/
def mergeCount (graph : Graph) (pairs : List (Nat × Nat)) : Nat :=
  pairs.countP fun pair => graph.tagOf pair.1 = .merge

/-- How many pairs of all mappings merge others in. -/
def allMerges (graph : Graph) : Nat :=
  graph.nodes.foldl (fun n part =>
    match part.content with
    | .mapping pairs => n + mergeCount graph pairs
    | _ => n) 0

/-- Takes the first pair that merges others in out of a mapping, and gives its value. -/
def takeMerge (number : Nat) : Work (Option Nat) := do
  let graph := (← get).graph
  match ← pairsOf? number with
  | none => pure none
  | some pairs =>
    match pairs.findIdx? fun pair => graph.tagOf pair.1 = .merge with
    | none => pure none
    | some place =>
      setPairs number (pairs.eraseIdx place)
      pure ((pairs[place]?).map (·.2))

/-- Puts what a mapping merges in before its own pairs. The pairs of a mapping in a list of those
merged in come after the pairs of the mappings behind it, so that they count more. `fuel` bounds how
deep the merged mappings merge in others, and each takes one such pair out of the document.

The key of a mapping's own value is a plain text in a mapping that is read as such. -/
def flatten : Nat → Nat → Work Unit
  | 0, _ => refuse
  | fuel + 1, number => do
    match ← pairsOf? number with
    | none => pure ()
    | some pairs =>
      let count := mergeCount (← get).graph pairs
      let merged ← (List.range count).foldlM (fun merged _ => do
        match ← takeMerge number with
        | none => pure merged
        | some value =>
          match (← partAt value).content with
          | .mapping _ =>
            flatten fuel value
            pure (merged ++ ((← pairsOf? value).getD []))
          | .sequence items =>
            let lists ← items.mapM fun item => do
              match ← pairsOf? item with
              | some _ =>
                flatten fuel item
                return (← pairsOf? item).getD []
              | none => refuse
            -- Of these mappings the first counts most, so its pairs come last.
            pure (merged ++ lists.reverse.flatten)
          | .scalar _ => refuse) []
      -- The mapping's own pairs stand behind the merged ones, and so count more.
      let own := (← pairsOf? number).getD []
      own.forM fun pair => do
        if (← tagOf pair.1) = .own then retag pair.1 .text
      setPairs number (merged ++ own)

/-! ### Collections -/

/-- Works out what a mapping holds. Its keys are no collections. -/
def visitPairs (number : Nat) : Work Unit := do
  flatten (allMerges (← get).graph + 1) number
  match ← pairsOf? number with
  | none => refuse
  | some pairs =>
    pairs.forM fun (key, value) => do
      visit key
      if (← tagOf key).isCollection then refuse
      visit value

/-- Works out what a list holds. -/
def visitItems (number : Nat) : Work Unit := do
  match (← partAt number).content with
  | .sequence items => items.forM visit
  | _ => refuse

/-- Works out what a list of mappings with one pair each holds. -/
def visitSingles (number : Nat) : Work Unit := do
  match (← partAt number).content with
  | .sequence items =>
    items.forM fun item => do
      match ← pairsOf? item with
      | some [(key, value)] => do
        visit key
        visit value
      | _ => refuse
  | _ => refuse

/-- Works out what a collection holds. -/
def visitWithin (number : Nat) : Work Unit := do
  match ← tagOf number with
  | .list => visitItems number
  | .mapping | .set => visitPairs number
  | .pairs => visitSingles number
  | _ => refuse

/-- Works out what the collections of the last round hold, then what those hold that they hold, and
so on. Each round meets a collection at least that was not met before, so `fuel` bounds the rounds.
-/
def rounds : Nat → Work Unit
  | 0 => pure ()
  | fuel + 1 => do
    let pending := (← get).pending.reverse
    if pending.isEmpty then pure ()
    else
      modify fun workshop => { workshop with pending := [] }
      pending.forM visitWithin
      rounds fuel

/-- Works out a whole document from its outermost part. -/
def all (root : Nat) : Work Unit := do
  visit root
  rounds ((← get).graph.size + 1)

/-! ### Values -/

/-- The pairs with texts as keys, of which later ones replace earlier ones. -/
def textPairs (pairs : List (Data × Data)) : Fields :=
  Fields.ofPairs (pairs.filterMap fun (key, value) => key.text?.map fun name => (name, value))

/-- The value of the part with a number. Collections deeper than `fuel` are left empty, since a
collection may hold itself. -/
def valueAt (workshop : Workshop) : Nat → Nat → Data
  | 0, number =>
    match workshop.graph.tagOf number with
    | .list | .pairs => .list []
    | .mapping => .object []
    | .set => .foreign "set"
    | _ => workshop.value number
  | fuel + 1, number =>
    match workshop.graph.tagOf number, workshop.graph.contentOf number with
    | .list, .sequence items => .list (items.map (valueAt workshop fuel))
    | .pairs, .sequence items => .list (items.map (valueAt workshop fuel))
    | .mapping, .mapping pairs =>
      .object (textPairs (pairs.map fun (key, value) =>
        (valueAt workshop fuel key, valueAt workshop fuel value)))
    | .set, _ => .foreign "set"
    | _, _ => workshop.value number

/-- How deep a document is looked into. Settings stand in a section of the document, and none of
them is a collection. -/
def valueDepth : Nat := 4

/-- Whether all keys of the mapping with a number are texts. -/
def isNamed (workshop : Workshop) (number : Nat) : Bool :=
  match workshop.graph.contentOf number with
  | .mapping pairs => pairs.all fun pair => workshop.graph.tagOf pair.1 = .text
  | _ => true

end Workshop

/-- What a text holds. -/
structure Document where
  /-- The value of the text, null if there is none. -/
  value : Data
  /-- Whether the keys of the outermost mapping are texts. Pairs with other keys are left out of the
  value. -/
  named : Bool

/-- What a text holds, or why it has no value. -/
def Document.read (text : List Char) : Reading Document := do
  let (graph, root) ← Graph.ofTokens (Token.ofText text)
  match root with
  | none => .ok ⟨.null, true⟩
  | some root =>
    let (_, workshop) ← (Workshop.all root).run (Workshop.ofGraph graph)
    .ok ⟨workshop.valueAt Workshop.valueDepth root, workshop.isNamed root⟩

end ConsoleKeeper.Yaml
