import ConsoleKeeper.Yaml.Tag
import ConsoleKeeper.Yaml.Token

/-!
# `ConsoleKeeper.Yaml.Node`: the parts of a document and how they hang together

`Graph.ofTokens` finds the parts of a text that holds one document. A part is known by its number,
and a collection holds the numbers of its items. An alias stands for the part with its anchor, so
two collections may share a part, and a collection may even hold itself.

Each part has a tag, which says what it is. A written tag is a handle and a rest, and the handle
stands for a text that the document declares. A plain scalar without a tag is what its text looks
like.
-/

set_option autoImplicit false

namespace ConsoleKeeper.Yaml

/-- What a part of a document holds; other parts are given by their numbers. -/
inductive Content where
  | scalar (text : ScalarText)
  | sequence (items : List Nat)
  | mapping (pairs : List (Nat × Nat))
  deriving Repr, Inhabited

/-- A part of a document. -/
structure Node where
  tag : Tag
  content : Content
  deriving Repr, Inhabited

/-- The parts of a document by their numbers. -/
structure Graph where
  nodes : Array Node := #[]
  deriving Repr, Inhabited

namespace Graph

/-- The part with a number. -/
def get? (graph : Graph) (number : Nat) : Option Node :=
  graph.nodes[number]?

/-- The tag of the part with a number. -/
def tagOf (graph : Graph) (number : Nat) : Tag :=
  ((graph.get? number).map (·.tag)).getD .unknown

/-- What the part with a number holds. -/
def contentOf (graph : Graph) (number : Nat) : Content :=
  ((graph.get? number).map (·.content)).getD (.sequence [])

/-- How many parts there are, which is the number of the next one. -/
def size (graph : Graph) : Nat :=
  graph.nodes.size

/-- Adds a part. -/
def add (graph : Graph) (node : Node) : Graph :=
  ⟨graph.nodes.push node⟩

/-- Changes the part with a number. -/
def set (graph : Graph) (number : Nat) (node : Node) : Graph :=
  ⟨graph.nodes.setIfInBounds number node⟩

end Graph

/-- What is known while the parts of a document are found. -/
structure Builder where
  tokens : List Token
  graph : Graph := {}
  /-- The numbers of the parts with anchors. -/
  anchors : List (String × Nat) := []
  /-- What the handles of tags stand for. -/
  handles : List (String × String) := []

namespace Builder

/-- A step in finding the parts of a document; there may be none. -/
abbrev Building (α : Type) := StateT Builder Reading α

/-- There is no document. -/
def refuse {α : Type} : Building α := fun _ => .broken

/-- What something may be; there is no document without it. -/
def require {α : Type} (found : Option α) : Building α := fun builder =>
  (Reading.ofOption found).map fun a => (a, builder)

/-- The next token; a text without one is at its end. Nothing can be read behind a flaw. -/
def peek : Building Token := fun builder =>
  match builder.tokens.head? with
  | some (.flaw trouble) => .error trouble
  | some token => .ok (token, builder)
  | none => .ok (.ending, builder)

/-- Leaves the next token behind. -/
def skip : Building Unit := fun builder =>
  .ok ((), { builder with tokens := builder.tokens.drop 1 })

/-- Leaves the next token behind, which has to be the given one. -/
def expect (token : Token) : Building Unit := do
  if (← peek) == token then skip else refuse

/-- What handles stand for unless a document says something else. -/
def usualHandles : List (String × String) := [("!", "!"), ("!!", "tag:yaml.org,2002:")]

/-- What stands in front of a part. -/
structure Properties where
  anchor : Option String := none
  tag : Option String := none

/-- The name of the tag that a handle and a rest mean. -/
def tagName (handle : Option String) (suffix : String) : Building String := do
  match handle with
  | none => pure suffix
  | some handle =>
    let start ← require ((← get).handles.lookup handle)
    pure (start ++ suffix)

/-- Reads an anchor and a tag in either order. -/
def properties : Building Properties := do
  match ← peek with
  | .anchor name =>
    skip
    match ← peek with
    | .tag handle suffix =>
      skip
      pure { anchor := some name, tag := some (← tagName handle suffix) }
    | _ => pure { anchor := some name }
  | .tag handle suffix =>
    skip
    match ← peek with
    | .anchor name =>
      skip
      pure { anchor := some name, tag := some (← tagName handle suffix) }
    | _ => pure { tag := some (← tagName handle suffix) }
  | _ => pure {}

/-- Adds a part, with its anchor if it has one, and gives its number. No anchor stands twice. -/
def add (anchor : Option String) (node : Node) : Building Nat := do
  let builder ← get
  match anchor with
  | none => pure ()
  | some name =>
    if builder.anchors.any (·.1 = name) then refuse
    else modify fun builder =>
      { builder with anchors := (name, builder.graph.size) :: builder.anchors }
  modify fun builder => { builder with graph := builder.graph.add node }
  pure builder.graph.size

/-- Gives a collection what it holds. -/
def fill (number : Nat) (tag : Tag) (content : Content) : Building Unit :=
  modify fun builder => { builder with graph := builder.graph.set number ⟨tag, content⟩ }

/-- The tag that is written in front of a part, unless it says nothing. -/
def ownTag (tag : Option String) : Option Tag :=
  (tag.filter (· ≠ "!")).map Tag.ofName

/-- The tag of a scalar. A tag that says nothing leaves it to the text, as if it were plain. -/
def scalarTag (tag : Option String) (plain : Bool) (text : ScalarText) : Tag :=
  (ownTag tag).getD (if plain || tag.isSome then Tag.ofPlain text.text else .text)

/-- Adds a scalar that is not written at all. -/
def absent : Building Nat :=
  add none ⟨.null, .scalar {}⟩

/-- Whether the next token is one of some. -/
def nextIs (tokens : List Token) : Building Bool := do
  return tokens.contains (← peek)

/-- The kinds of collections. -/
inductive Shape where
  | blockSequence
  /-- A block sequence as a mapping's value, indented no deeper than the mapping. -/
  | flatSequence
  | blockMapping
  | flowSequence
  | flowMapping
  deriving DecidableEq, Repr

/-- Whether a collection is a mapping. -/
def Shape.isMapping : Shape → Bool
  | blockMapping | flowMapping => true
  | _ => false

/-- The collection that the next token opens, if it opens one. -/
def shape? (inBlock flat : Bool) : Building (Option Shape) := do
  match ← peek with
  | .entry => pure (if flat then some .flatSequence else none)
  | .sequenceOpen => pure (some .flowSequence)
  | .mappingOpen => pure (some .flowMapping)
  | .blockSequenceStart => pure (if inBlock then some .blockSequence else none)
  | .blockMappingStart => pure (if inBlock then some .blockMapping else none)
  | _ => pure none

/-- How deep collections may stand inside one another. -/
def depthLimit : Nat := 488

/-- One collection more around what comes, unless it is one too many. -/
def deepen (depth : Nat) : Building Nat := fun builder =>
  if depthLimit ≤ depth then .failed .tooDeep else .ok (depth + 1, builder)

mutual

/-- Reads a part. `inBlock` says whether block collections may stand here, `flat` whether a flat
sequence may; `depth` counts the collections around it. -/
def node : Nat → Nat → Bool → Bool → Building Nat
  | 0, _, _, _ => refuse
  | fuel + 1, depth, inBlock, flat => do
    match ← peek with
    | .alias name =>
      skip
      require ((← get).anchors.lookup name)
    | _ =>
      let props ← properties
      match ← shape? inBlock flat with
      | some shape => collection fuel depth shape props
      | none =>
        match ← peek with
        | .scalar text plain =>
          skip
          add props.anchor ⟨scalarTag props.tag plain text, .scalar text⟩
        | _ =>
          -- An anchor or a tag with nothing behind it is a node without content.
          if props.anchor.isNone && props.tag.isNone then refuse
          else add props.anchor ⟨scalarTag props.tag true {}, .scalar {}⟩

/-- Reads a collection. -/
def collection : Nat → Nat → Shape → Properties → Building Nat
  | 0, _, _, _ => refuse
  | fuel + 1, depth, shape, props => do
    let depth ← deepen depth
    if shape.isMapping then
      let tag := (ownTag props.tag).getD .mapping
      -- The node is there before its pairs are, so that one of them may name it.
      let number ← add props.anchor ⟨tag, .mapping []⟩
      skip
      let pairs ←
        if shape = .blockMapping then blockPairs fuel depth [] else flowPairs fuel depth true []
      fill number tag (.mapping pairs)
      pure number
    else
      let tag := (ownTag props.tag).getD .list
      let number ← add props.anchor ⟨tag, .sequence []⟩
      let items ← match shape with
        | .flatSequence => flatItems fuel depth []
        | .blockSequence => do
          skip
          blockItems fuel depth []
        | _ => do
          skip
          flowItems fuel depth true []
      fill number tag (.sequence items)
      pure number

/-- Reads a part, or takes it as absent if one of some tokens comes next. -/
def nodeUnless : Nat → Nat → Bool → Bool → List Token → Building Nat
  | 0, _, _, _, _ => refuse
  | fuel + 1, depth, inBlock, flat, stops => do
    if ← nextIs stops then absent else node fuel depth inBlock flat

/-- Reads the items of a block sequence. -/
def blockItems : Nat → Nat → List Nat → Building (List Nat)
  | 0, _, _ => refuse
  | fuel + 1, depth, done => do
    match ← peek with
    | .entry =>
      skip
      let item ← nodeUnless fuel depth true false [.entry, .blockEnd]
      blockItems fuel depth (item :: done)
    | .blockEnd =>
      skip
      pure done.reverse
    | _ => refuse

/-- Reads the items of a flat sequence. -/
def flatItems : Nat → Nat → List Nat → Building (List Nat)
  | 0, _, _ => refuse
  | fuel + 1, depth, done => do
    match ← peek with
    | .entry =>
      skip
      let item ← nodeUnless fuel depth true false [.entry, .key, .value, .blockEnd]
      flatItems fuel depth (item :: done)
    | _ => pure done.reverse

/-- Reads the pairs of a block mapping. -/
def blockPairs : Nat → Nat → List (Nat × Nat) → Building (List (Nat × Nat))
  | 0, _, _ => refuse
  | fuel + 1, depth, done => do
    match ← peek with
    | .key =>
      skip
      let key ← nodeUnless fuel depth true true [.key, .value, .blockEnd]
      let value ← blockValue fuel depth
      blockPairs fuel depth ((key, value) :: done)
    | .blockEnd =>
      skip
      pure done.reverse
    | _ => refuse

/-- Reads the value of a block mapping's pair, which may be absent. -/
def blockValue : Nat → Nat → Building Nat
  | 0, _ => refuse
  | fuel + 1, depth => do
    match ← peek with
    | .value =>
      skip
      nodeUnless fuel depth true true [.key, .value, .blockEnd]
    | _ => absent

/-- Reads the items of a sequence in brackets. A pair with a key mark or a colon is a mapping. -/
def flowItems : Nat → Nat → Bool → List Nat → Building (List Nat)
  | 0, _, _, _ => refuse
  | fuel + 1, depth, first, done => do
    match ← peek with
    | .sequenceClose =>
      skip
      pure done.reverse
    | _ =>
      if !first then expect .comma
      match ← peek with
      -- A comma may stand behind the last item.
      | .sequenceClose =>
        skip
        pure done.reverse
      | .key =>
        -- A pair among the items is a mapping of its own.
        let inner ← deepen depth
        let number ← add none ⟨.mapping, .mapping []⟩
        skip
        let key ← nodeUnless fuel inner false false [.value, .comma, .sequenceClose]
        let value ← flowValue fuel inner .sequenceClose
        fill number .mapping (.mapping [(key, value)])
        flowItems fuel depth false (number :: done)
      | _ =>
        let item ← node fuel depth false false
        flowItems fuel depth false (item :: done)

/-- Reads the value of a pair in brackets, which may be absent. -/
def flowValue : Nat → Nat → Token → Building Nat
  | 0, _, _ => refuse
  | fuel + 1, depth, close => do
    match ← peek with
    | .value =>
      skip
      nodeUnless fuel depth false false [.comma, close]
    | _ => absent

/-- Reads the pairs of a mapping in brackets. -/
def flowPairs : Nat → Nat → Bool → List (Nat × Nat) → Building (List (Nat × Nat))
  | 0, _, _, _ => refuse
  | fuel + 1, depth, first, done => do
    match ← peek with
    | .mappingClose =>
      skip
      pure done.reverse
    | _ =>
      if !first then expect .comma
      match ← peek with
      | .mappingClose =>
        skip
        pure done.reverse
      | .key =>
        skip
        let key ← nodeUnless fuel depth false false [.value, .comma, .mappingClose]
        let value ← flowValue fuel depth .mappingClose
        flowPairs fuel depth false ((key, value) :: done)
      | _ =>
        let key ← node fuel depth false false
        let value ← absent
        flowPairs fuel depth false ((key, value) :: done)

end

/-- Reads the directives in front of a document; `versioned` says whether one named a version. -/
def directives : Nat → Bool → Building Unit
  | 0, _ => refuse
  | fuel + 1, versioned => do
    match ← peek with
    | .version major _ =>
      if versioned || major ≠ 1 then refuse
      else
        skip
        directives fuel true
    | .tagHandle handle start =>
      let builder ← get
      if builder.handles.any (·.1 = handle) then refuse
      else
        skip
        modify fun builder => { builder with handles := (handle, start) :: builder.handles }
        directives fuel versioned
    | .reserved =>
      skip
      directives fuel versioned
    | _ => pure ()

/-- Leaves the marks behind that end a document. -/
def skipEnds : Nat → Building Unit
  | 0 => refuse
  | fuel + 1 => do
    if (← peek) == .documentEnd then
      skip
      skipEnds fuel

/-- A bound on the number of steps that a row of tokens takes. -/
def fuelOf (tokens : List Token) : Nat := 4 * tokens.length + 8

/-- Whether a token belongs in front of a document. -/
def opensDocument : Token → Bool
  | .version _ _ | .tagHandle _ _ | .reserved | .documentStart => true
  | _ => false

/-- Whether a token shows that a document has no parts. -/
def closesDocument (token : Token) : Bool :=
  opensDocument token || token == .documentEnd || token == .ending

/-- Reads the only document of a text, which may hold none, and gives the number of its outermost
part. -/
def document (fuel : Nat) : Building (Option Nat) := do
  match ← peek with
  | .ending => pure none
  | token =>
    let root ←
      if opensDocument token then do
        directives fuel false
        -- The document's own handles stand before the usual ones, and so count more.
        modify fun builder => { builder with handles := builder.handles ++ usualHandles }
        expect .documentStart
        if closesDocument (← peek) then absent else node fuel 0 true false
      else do
        modify fun builder => { builder with handles := usualHandles }
        node fuel 0 true false
    skipEnds fuel
    expect .ending
    pure (some root)

end Builder

/-- The parts of the document in a row of tokens, and the number of the outermost one, if the row
holds a document. It may not hold more than one. -/
def Graph.ofTokens (tokens : List Token) : Reading (Graph × Option Nat) :=
  ((Builder.document (Builder.fuelOf tokens)).run { tokens }).map fun (root, builder) =>
    (builder.graph, root)

end ConsoleKeeper.Yaml
