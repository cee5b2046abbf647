import ConsoleKeeper.Text.Split
import ConsoleKeeper.Text.Utf8

/-!
# `ConsoleKeeper.Files.Path`: names of files

A path is a root and the names on the way from it. `ofText` leaves out empty names and names that
stay where they are; a name that goes up stays, because what lies above depends on the file system.
-/

set_option autoImplicit false

namespace ConsoleKeeper

/-- A path: an empty root for one that starts at the working directory, and the names after it. -/
structure Path where
  root : String
  names : List String
  deriving DecidableEq, Repr, Inhabited

namespace Path

/-- The root that a text starts with. Two slashes are a root of their own, more are one. -/
def rootOf : List Char → String
  | '/' :: '/' :: '/' :: _ => "/"
  | '/' :: '/' :: _ => "//"
  | '/' :: _ => "/"
  | _ => ""

/-- The path that a text means. -/
def ofText (text : String) : Path :=
  let parts := (Text.splitOn '/' text.toList).map String.ofList
  ⟨rootOf text.toList, parts.filter fun part => part ≠ "" && part ≠ "."⟩

/-- The text of a path; one without root and names is the working directory. -/
def text (path : Path) : String :=
  if path.root = "" && path.names.isEmpty then "."
  else path.root ++ String.intercalate "/" path.names

/-- A path that starts where another ends, unless it has a root of its own. -/
def join (base more : Path) : Path :=
  if more.root = "" then ⟨base.root, base.names ++ more.names⟩ else more

end Path

end ConsoleKeeper
