/-!
# `ConsoleKeeper.Image`: references to container images

A reference is a repository path, an optional tag after a colon, and an optional digest after an at
sign. `write` puts one together and `tag?` reads the tag back. A colon in an earlier segment of the
path belongs to the port of a registry and separates no tag.
-/

set_option autoImplicit false

namespace ConsoleKeeper.Image

/-- What stands after the last occurrence of `sep`, all if there is none. -/
def afterLast (sep : Char) (s : List Char) : List Char :=
  (s.reverse.takeWhile (· ≠ sep)).reverse

/-- The tag of a reference given as characters. -/
def tagOf? (reference : List Char) : Option (List Char) :=
  -- The digest goes first, since it may hold slashes and colons of its own.
  let segment := afterLast '/' (reference.takeWhile (· ≠ '@'))
  if segment.contains ':' then some (afterLast ':' segment) else none

/-- The tag of a reference, if it has one. -/
def tag? (image : String) : Option String :=
  (tagOf? image.toList).map String.ofList

/-- A reference to an image of the repository, with a tag and a digest where they are given. -/
def write (repository : String) (tag digest : Option String) : String :=
  let tagged := match tag with
    | some tag => repository ++ ":" ++ tag
    | none => repository
  match digest with
  | some digest => tagged ++ "@" ++ digest
  | none => tagged

end ConsoleKeeper.Image
