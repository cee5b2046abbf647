import ConsoleKeeper.Shell.Opening

/-!
# `ConsoleKeeper.Shell.Program`: what can be started

A program is a tool of the system or a file that names the tool that reads it. A name with a slash
is a path; another is looked up in the directories of a search path, and the first that can be
started is taken.
-/

set_option autoImplicit false

namespace ConsoleKeeper.Shell

/-- The tools of the system. -/
def toolNames : List String :=
  ["[", "basename", "cat", "chmod", "cp", "cut", "dash", "dirname", "echo", "env", "false", "grep",
    "head", "kill", "ls", "mkdir", "mv", "printenv", "printf", "pwd", "rm", "rmdir", "seq", "sh",
    "sleep", "sort", "tail", "tee", "test", "touch", "tr", "true", "uniq", "wc", "yes"]

/-- What can be started. -/
inductive Program where
  | tool (name : String)
  /-- A file that the tool with the given words in front reads. -/
  | file (reader : String) (words : List String)
  deriving DecidableEq, Repr, Inhabited

namespace Program

/-- The tool that a path leads to. -/
def toolAt? (files : Tree) (path : String) : Option String :=
  match (withSystem files).locate path with
  | .ok place =>
    match place.getLast? with
    | some name =>
      if programDirectories.contains place.dropLast && toolNames.contains name then some name
      else none
    | none => none
  | .error _ => none

/-- The line by which a file names what reads it, in words. -/
def readerLine? (content : List UInt8) : Option (List String) :=
  match Text.Utf8.decodeLossy (content.takeWhile (· ≠ 10)) with
  | '#' :: '!' :: rest =>
    let isBlank (c : Char) : Bool := c = ' ' || c = '\t'
    let line := Text.trim isBlank rest
    let reader := line.takeWhile (!isBlank ·)
    let argument := (line.dropWhile (!isBlank ·)).dropWhile isBlank
    some (([reader, argument].filter (!·.isEmpty)).map String.ofList)
  | _ => none

/-- Whether a path goes on behind a tool, which is no directory. -/
def passesTool (files : Tree) (path : String) : Bool :=
  let segments := Text.splitOn '/' path.toList
  (List.range segments.length).any fun n =>
    0 < n && (toolAt? files (String.ofList (List.intercalate ['/'] (segments.take n)))).isSome

/-- What a path leads to that can be started. `depth` bounds how often a file is read by another. -/
def at_ (files : Tree) : Nat → String → Except Errno Program
  | 0, _ => .error .tooManyLinks
  | depth + 1, path =>
    match toolAt? files path with
    | some name => .ok (.tool name)
    | none =>
      match nodeAt files path with
      | .error reason => .error (if passesTool files path then .notDirectory else reason)
      | .ok .directory => .error .denied
      | .ok (.file content mode) =>
        if mode &&& 0o111 = 0 then .error .denied
        else
          match readerLine? content with
          | none | some [] => .error .badFormat
          | some (reader :: words) =>
            match at_ files depth reader with
            | .ok (.tool name) => .ok (.file name (words ++ [path]))
            | .ok (.file name before) => .ok (.file name (before ++ words ++ [path]))
            | .error reason => .error reason

/-- How often a file may be read by another. -/
def readerDepth : Nat := 6

/-- The paths that a name may mean. -/
def candidates (search name : String) : List String :=
  if name.contains '/' then [name]
  else
    (Text.splitOn ':' search.toList).map fun directory =>
      match directory.getLast? with
      | none => name
      | some '/' => String.ofList directory ++ name
      | some _ => String.ofList directory ++ "/" ++ name

/-- Whether a refusal only says that nothing is there. -/
def isAbsence (reason : Errno) : Bool :=
  reason = .noEntry || reason = .notDirectory

/-- The first of some paths that can be started. Where none can, the refusal that says more counts.
-/
def firstOf (files : Tree) : Errno → List String → Except Errno (String × Program)
  | reason, [] => .error reason
  | reason, path :: rest =>
    match at_ files readerDepth path with
    | .ok program => .ok (path, program)
    | .error other => firstOf files (if isAbsence reason then other else reason) rest

/-- What a name means. -/
def find (files : Tree) (search name : String) : Except Errno (String × Program) :=
  firstOf files .noEntry (candidates search name)

/-- The search path where none is given. -/
def usualSearch : String := "/bin:/usr/bin"

end Program

end ConsoleKeeper.Shell
