import ConsoleKeeper.Shell.Expansion

/-!
# `ConsoleKeeper.Shell.Tools.Basic`: what tools have in common

A tool takes arguments, reads its input or files, writes, and ends with a status. Tools tell people
about paths that they cannot use, and go on with the others.
-/

set_option autoImplicit false

namespace ConsoleKeeper.Shell

/-- A tool or a command of the language: what it does with arguments, and its status. -/
abbrev Tool := List String → Run Nat

end ConsoleKeeper.Shell

namespace ConsoleKeeper.Shell.Tools

open ConsoleKeeper.Shell.Run

/-- Tells that a tool could not use a path. -/
def refusePath (tool path : String) (reason : Errno) : Run Unit :=
  tell (tool ++ ": " ++ path ++ ": " ++ reason.words)

/-- The contents of files one after the other, or of the input if none are named, and the status. -/
def contents (tool : String) (paths : List String) : Run (List UInt8 × Nat) := do
  let paths := if paths.isEmpty then ["-"] else paths
  paths.foldlM
    (fun (before, status) path => do
      match ← content path with
      | .ok bytes => pure (before ++ bytes, status)
      | .error reason =>
        refusePath tool path reason
        pure (before, 1))
    ([], 0)

/-- Arguments without the options that take no value: the letters of the options, and the rest. -/
def options : List String → List Char × List String
  | [] => ([], [])
  | "--" :: rest => ([], rest)
  | argument :: rest =>
    match argument.toList with
    | '-' :: c :: letters =>
      if c = '-' then
        let (found, rest) := options rest
        (found, argument :: rest)
      else
        let (found, rest) := options rest
        (c :: letters ++ found, rest)
    | _ =>
      let (found, rest) := options rest
      (found, argument :: rest)

/-- Writes bytes and gives a status. -/
def finish (bytes : List UInt8) (status : Nat) : Run Nat := do
  if ← write 1 bytes then pure status else pure 1

/-- Lines with their ends. -/
def withEnds (lines : List (List UInt8)) : List UInt8 :=
  lines.flatMap (· ++ [10])

/-- Changes the files, and tells if that was refused. -/
def change (tool path : String) (f : Tree → Except Errno Tree) : Run Nat := do
  let session ← get
  match f session.files with
  | .ok files =>
    set { session with files }
    pure 0
  | .error reason =>
    refusePath tool path reason
    pure 1

/-- Does something for each path; the status is that of the worst. -/
def forEach (paths : List String) (action : String → Run Nat) : Run Nat :=
  paths.foldlM (fun status path => return max status (← action path)) 0

end ConsoleKeeper.Shell.Tools
