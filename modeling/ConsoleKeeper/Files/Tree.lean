import ConsoleKeeper.Data.Table
import ConsoleKeeper.Failure.Basic
import ConsoleKeeper.Files.Path

/-!
# `ConsoleKeeper.Files.Tree`: files and directories

A tree is a table that says what stands at each place: a directory, or a file with content and
permissions. A place is the list of names that lead to it from the root.

`Tree.locate` finds the place that a path means. Every name on the way has to be a directory; the
last one need not exist. `write`, `read`, `unlink` and the others work on paths and say why the
system refuses, if it does. `readText` reads a file as a text.
-/

set_option autoImplicit false

namespace ConsoleKeeper

/-- The names that lead from the root to a place. -/
abbrev Place := List String

/-- What stands at a place. -/
inductive Node where
  | directory
  | file (content : List UInt8) (mode : Nat)
  deriving DecidableEq, Repr, Inhabited

/-- A file system with a working directory. -/
structure Tree where
  nodes : Table Place Node
  workplace : Place
  deriving DecidableEq, Repr, Inhabited

namespace Tree

/-- What stands at a place. The root is always a directory. -/
def at? (tree : Tree) (place : Place) : Option Node :=
  if place.isEmpty then some .directory else tree.nodes.get? place

/-- The tree with something at a place. -/
def put (tree : Tree) (place : Place) (node : Node) : Tree :=
  { tree with nodes := tree.nodes.put place node }

/-- The tree with nothing at a place. -/
def drop (tree : Tree) (place : Place) : Tree :=
  { tree with nodes := tree.nodes.erase place }

/-- The most bytes that a name may have. -/
def nameLimit : Nat := 255

/-- The most bytes that a whole path may have. -/
def pathLimit : Nat := 4095

/-- The bytes of a text. -/
def bytesIn (text : String) : Nat :=
  (Text.Utf8.encode text.toList).length

/-- Goes from a place along the names of a path. -/
def walk (tree : Tree) (place : Place) : List String → Except Errno Place
  | [] => .ok place
  | name :: rest =>
    match tree.at? place with
    | none => .error .noEntry
    | some (.file _ _) => .error .notDirectory
    | some .directory =>
      if name = "" || name = "." then walk tree place rest
      else if name = ".." then walk tree place.dropLast rest
      else if nameLimit < bytesIn name then .error .nameTooLong
      else walk tree (place ++ [name]) rest

/-- The place that a path means. A slash at the end asks for a directory. -/
def locate (tree : Tree) (path : String) : Except Errno Place :=
  let parts := (Text.splitOn '/' path.toList).map String.ofList
  if path = "" then .error .noEntry
  else if pathLimit < bytesIn path then .error .nameTooLong
  -- A slash at the end leaves an empty name, which `walk` takes from a directory only.
  else walk tree (if path.startsWith "/" then [] else tree.workplace) parts

/-- What stands where a path leads. -/
def find (tree : Tree) (path : String) : Except Errno Node :=
  match tree.locate path with
  | .error e => .error e
  | .ok place =>
    match tree.at? place with
    | some node => .ok node
    | none => .error .noEntry

/-- Whether something stands where a path leads. -/
def has (tree : Tree) (path : String) : Bool :=
  match tree.find path with
  | .ok _ => true
  | .error _ => false

/-- Whether a file stands where a path leads. -/
def hasFile (tree : Tree) (path : String) : Bool :=
  match tree.find path with
  | .ok (.file _ _) => true
  | _ => false

/-- Whether a directory stands where a path leads. -/
def hasDirectory (tree : Tree) (path : String) : Bool :=
  match tree.find path with
  | .ok .directory => true
  | _ => false

/-- Whether a path ends with a slash or in a name that stays or goes up. -/
def namesDirectory (path : String) : Bool :=
  match ((Text.splitOn '/' path.toList).getLast?).map String.ofList with
  | some name => name = "" || name = "." || name = ".."
  | none => true

/-- Puts content into the file where a path leads: over the old content, or behind it. A file that
is not there is made with the given permissions; one that is there keeps its own. -/
def store (tree : Tree) (path : String) (content : List UInt8) (behind : Bool) (mode : Nat) :
    Except Errno Tree :=
  match tree.locate path with
  | .error e => .error e
  | .ok place =>
    match tree.at? place with
    | some .directory => .error .isDirectory
    | some (.file old oldMode) =>
      .ok (tree.put place (.file (if behind then old ++ content else content) oldMode))
    | none =>
      if namesDirectory path then .error .isDirectory
      else
        match tree.at? place.dropLast with
        | some .directory => .ok (tree.put place (.file content mode))
        | some (.file _ _) => .error .notDirectory
        | none => .error .noEntry

/-- Puts content into a file in place of the old content. -/
def write (tree : Tree) (path : String) (content : List UInt8) (mode : Nat) : Except Errno Tree :=
  tree.store path content false mode

/-- The content of the file where a path leads. -/
def read (tree : Tree) (path : String) : Except Errno (List UInt8) :=
  match tree.find path with
  | .ok (.file content _) => .ok content
  | .ok .directory => .error .isDirectory
  | .error e => .error e

/-- The text that the bytes of a file are read as. Whatever ends a line is read as a newline. -/
def textOf (bytes : List UInt8) : Except Failure String :=
  match Text.Utf8.decode? bytes with
  | some cs => .ok (String.ofList (Text.unifyNewlines cs))
  | none => .error .notUtf8

/-- The text of the file where a path leads. -/
def readText (tree : Tree) (path : String) : Except Failure String :=
  match tree.read path with
  | .ok bytes => textOf bytes
  | .error reason => .error (.system (.about reason path))

/-- Takes the file away where a path leads. -/
def unlink (tree : Tree) (path : String) : Except Errno Tree :=
  match tree.locate path with
  | .error e => .error e
  | .ok place =>
    match tree.at? place with
    | some (.file _ _) => .ok (tree.drop place)
    | some .directory => .error .isDirectory
    | none => .error .noEntry

/-- The place of a path, made into a directory together with the places above it. -/
def withDirectories (tree : Tree) (place : Place) : Tree :=
  (List.range place.length).foldl
    (fun tree n =>
      let above := place.take (n + 1)
      match tree.at? above with
      | some _ => tree
      | none => tree.put above .directory)
    tree

/-- Takes away a directory with everything in it. -/
def prune (tree : Tree) (place : Place) : Tree :=
  { tree with nodes := tree.nodes.filter fun node => !place.isPrefixOf node.1 }

/-- The order of places by the text of their paths. -/
def pathBefore (a b : String) : Bool :=
  decide (a < b) || a = b

/-- The files below a place, with their paths from there on, in order. -/
def listing (tree : Tree) (place : Place) : List (String × List UInt8 × Nat) :=
  (tree.nodes.filterMap fun (p, node) =>
    match List.isPrefixOf? place p, node with
    | some (name :: rest), .file content mode =>
      some (String.intercalate "/" (name :: rest), content, mode)
    | _, _ => none).mergeSort fun a b => pathBefore a.1 b.1

end Tree

end ConsoleKeeper
