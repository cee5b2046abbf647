import ConsoleKeeper.Shell.Tools.Basic

/-!
# `ConsoleKeeper.Shell.Tools.File`: tools for files and directories

Files and directories are made, taken away, copied, moved and listed, and paths are taken apart.
-/

set_option autoImplicit false

namespace ConsoleKeeper.Shell.Tools

open ConsoleKeeper.Shell.Run

/-- Takes files away, and directories if it is told to. -/
def rm : Tool := fun arguments => do
  let (letters, paths) := options arguments
  let deep := letters.contains 'r' || letters.contains 'R'
  forEach paths fun path => do
    let session ← get
    match session.files.find path with
    | .error reason =>
      if letters.contains 'f' then pure 0
      else
        tell ("rm: cannot remove '" ++ path ++ "': " ++ reason.words)
        pure 1
    | .ok (.file _ _) => change "rm" path fun files => files.unlink path
    | .ok .directory =>
      if deep then change "rm" path fun files => (files.locate path).map files.prune
      else
        tell ("rm: cannot remove '" ++ path ++ "': " ++ Errno.isDirectory.words)
        pure 1

/-- Makes directories. -/
def mkdir : Tool := fun arguments => do
  let (letters, paths) := options arguments
  forEach paths fun path => do
    let session ← get
    match session.files.locate (String.ofList (Text.trimRight (· = '/') path.toList)) with
    | .ok place =>
      if (session.files.at? place).isSome then
        if letters.contains 'p' then pure 0
        else
          tell ("mkdir: cannot create directory '" ++ path ++ "': File exists")
          pure 1
      else change "mkdir" path fun files => .ok (files.put place .directory)
    | .error reason =>
      if letters.contains 'p' then
        let names := (Path.ofText path).names
        let place := if path.startsWith "/" then names else session.files.workplace ++ names
        change "mkdir" path fun files => .ok (files.withDirectories place)
      else
        tell ("mkdir: cannot create directory '" ++ path ++ "': " ++ reason.words)
        pure 1

/-- Takes empty directories away. -/
def rmdir : Tool := fun arguments =>
  forEach (options arguments).2 fun path => do
    let session ← get
    match (session.files.find path).bind fun _ => session.files.locate path with
    | .error reason =>
      tell ("rmdir: failed to remove '" ++ path ++ "': " ++ reason.words)
      pure 1
    | .ok place =>
      if (namesIn session.files place).isEmpty then
        change "rmdir" path fun files => .ok (files.drop place)
      else
        tell ("rmdir: failed to remove '" ++ path ++ "': Directory not empty")
        pure 1

/-- Makes files that are not there. -/
def touch : Tool := fun arguments =>
  forEach (options arguments).2 fun path => do
    let session ← get
    if session.files.has path then pure 0
    else change "touch" path fun files => files.store path [] true newFileMode

/-- A path without the slashes at its end. -/
def withoutSlashes (path : String) : String :=
  let trimmed := String.ofList (Text.trimRight (· = '/') path.toList)
  if trimmed.isEmpty && !path.isEmpty then "/" else trimmed

/-- The last name of a path. -/
def lastName (path : String) : String :=
  let trimmed := withoutSlashes path
  if trimmed = "/" then "/"
  else String.ofList (((Text.splitOn '/' trimmed.toList).getLast?).getD [])

/-- Writes the last name of a path, without an ending if one is given. -/
def basename : Tool := fun arguments =>
  match arguments with
  | path :: rest =>
    let name := lastName path
    let ending := rest.headD ""
    let short := match List.isPrefixOf? ending.toList.reverse name.toList.reverse with
      | some (c :: front) => String.ofList (c :: front).reverse
      | _ => name
    finish (withEnds [Text.Utf8.encode short.toList]) 0
  | [] => do
    tell "basename: missing operand"
    pure 1

/-- Writes a path without its last name. -/
def dirname : Tool := fun arguments =>
  finish (withEnds (arguments.map fun path =>
    let segments := Text.splitOn '/' (withoutSlashes path).toList
    let above := List.intercalate ['/'] segments.dropLast
    let shown := Text.trimRight (· = '/') above
    let shown := if shown.isEmpty then (if path.startsWith "/" then ['/'] else ['.']) else shown
    Text.Utf8.encode shown)) 0

/-- Writes the names in directories. -/
def ls : Tool := fun arguments => do
  let (letters, paths) := options arguments
  let session ← get
  let visible (names : List String) : List String :=
    if letters.contains 'a' then [".", ".."] ++ names
    else if letters.contains 'A' then names
    else names.filter (!·.startsWith ".")
  forEach (if paths.isEmpty then ["."] else paths) fun path => do
    match session.files.locate path, session.files.find path with
    | .ok place, .ok .directory =>
      finish (withEnds ((visible (namesIn session.files place)).map fun n =>
        Text.Utf8.encode n.toList)) 0
    | .ok _, .ok (.file _ _) => finish (withEnds [Text.Utf8.encode path.toList]) 0
    | .error reason, _ | _, .error reason =>
      tell ("ls: cannot access '" ++ path ++ "': " ++ reason.words)
      pure 2

/-- The path of a copy: a name inside a directory if the target is one. -/
def targetOf (files : Tree) (source target : String) : String :=
  if files.hasDirectory target then withoutSlashes target ++ "/" ++ lastName source else target

/-- Copies files, and takes the first ones away if it moves them. -/
def copy (tool : String) (moves : Bool) : Tool := fun arguments => do
  let (_, paths) := options arguments
  match paths.reverse with
  | target :: sources =>
    forEach sources.reverse fun path => do
      let session ← get
      match session.files.find path with
      | .ok (.file content mode) =>
        let goal := targetOf session.files path target
        let status ← change tool goal fun files => files.write goal content mode
        if moves && status = 0 then change tool path fun files => files.unlink path else pure status
      | .ok .directory =>
        tell (tool ++ ": -r not specified; omitting directory '" ++ path ++ "'")
        pure 1
      | .error reason =>
        tell (tool ++ ": cannot stat '" ++ path ++ "': " ++ reason.words)
        pure 1
  | [] =>
    tell (tool ++ ": missing file operand")
    pure 1

/-- The permissions that a text asks for. -/
def modeOf (text : List Char) (before : Nat) : Nat :=
  match text with
  | '+' :: 'x' :: _ | 'a' :: '+' :: 'x' :: _ => before ||| 0o111
  | 'u' :: '+' :: 'x' :: _ => before ||| 0o100
  | '-' :: 'x' :: _ | 'a' :: '-' :: 'x' :: _ => before - (before &&& 0o111)
  | '+' :: 'w' :: _ | 'u' :: '+' :: 'w' :: _ => before ||| 0o200
  | '-' :: 'w' :: _ | 'a' :: '-' :: 'w' :: _ => before - (before &&& 0o222)
  | '-' :: 'r' :: _ | 'a' :: '-' :: 'r' :: _ => before - (before &&& 0o444)
  | digits => (Arithmetic.natural? 8 digits).getD before

/-- Changes the permissions of files. -/
def chmod : Tool := fun arguments => do
  match arguments with
  | mode :: paths =>
    forEach paths fun path => do
      let session ← get
      match session.files.locate path, session.files.find path with
      | .ok place, .ok (.file content old) =>
        change "chmod" path fun files =>
          .ok (files.put place (.file content (modeOf mode.toList old)))
      | .ok _, .ok .directory => pure 0
      | .error reason, _ | _, .error reason =>
        tell ("chmod: cannot access '" ++ path ++ "': " ++ reason.words)
        pure 1
  | [] =>
    tell "chmod: missing operand"
    pure 1

end ConsoleKeeper.Shell.Tools
