import ConsoleKeeper.Shell.Session

/-!
# `ConsoleKeeper.Shell.Opening`: where paths lead

A path leads to a file of the session or to one of the devices that every system has. Some
directories belong to the system itself: a session neither lists nor changes them, but they are
there.
-/

set_option autoImplicit false

namespace ConsoleKeeper.Shell

/-- The directories that hold the programs of the system. -/
def programDirectories : List Place :=
  [["bin"], ["usr", "bin"]]

/-- The directories of the system. -/
def systemDirectories : List Place :=
  [["bin"], ["boot"], ["dev"], ["etc"], ["home"], ["lib"], ["media"], ["mnt"], ["opt"], ["proc"],
    ["root"], ["run"], ["sbin"], ["srv"], ["sys"], ["tmp"], ["usr"], ["usr", "bin"], ["usr", "lib"],
    ["usr", "local"], ["usr", "local", "bin"], ["usr", "local", "lib"], ["usr", "local", "sbin"],
    ["usr", "sbin"], ["usr", "share"], ["var"], ["var", "tmp"]]

/-- Files of the system that are no programs. -/
def systemFiles : List Place :=
  [["etc", "passwd"], ["etc", "group"], ["etc", "hosts"], ["etc", "hostname"],
    ["etc", "resolv.conf"], ["dev", "null"], ["dev", "zero"]]

/-- The tree together with the directories of the system. -/
def withSystem (files : Tree) : Tree :=
  systemDirectories.foldl
    (fun files place =>
      match files.at? place with
      | some _ => files
      | none => files.put place .directory)
    files

/-- What stands where a path leads, the system's own directories and files included. -/
def nodeAt (files : Tree) (path : String) : Except Errno Node :=
  match (withSystem files).locate path with
  | .error reason => .error reason
  | .ok place =>
    match (withSystem files).at? place with
    | some node => .ok node
    | none => if systemFiles.contains place then .ok (.file [] 0o644) else .error .noEntry

namespace Run

/-- Opens a path to read from it. -/
def openForReading (path : String) : Run (Except Errno Channel) := do
  let session ← get
  match path with
  | "/dev/null" => pure (.ok .nothing)
  | "/dev/zero" => return .ok (← openSource .zeros)
  | "/dev/stdin" => pure (.ok ((session.channels.lookup 0).getD .nothing))
  | _ =>
    match session.files.read path with
    | .ok bytes => return .ok (← openSource (.bytes bytes))
    | .error reason => pure (.error reason)

/-- The permissions of a file that a command makes. -/
def newFileMode : Nat := 0o644

/-- Opens a path to write to it. -/
def openForWriting (path : String) (behind : Bool) : Run (Except Errno Channel) := do
  let session ← get
  let channelOf (n : Nat) : Except Errno Channel :=
    .ok ((session.channels.lookup n).getD .nothing)
  match path with
  | "/dev/null" => pure (.ok .nothing)
  | "/dev/stdout" => pure (channelOf 1)
  | "/dev/stderr" => pure (channelOf 2)
  | _ =>
    match session.files.store path [] behind newFileMode, session.files.locate path with
    | .ok files, .ok place =>
      set { session with files }
      pure (.ok (.file place))
    | .error reason, _ => pure (.error reason)
    | _, .error reason => pure (.error reason)

/-- The bytes of the file where a path leads, or all that the input gives if the path is a minus
sign. -/
def content (path : String) : Run (Except Errno (List UInt8)) := do
  if path = "-" || path = "/dev/stdin" then return .ok (← read 0 none)
  else if path = "/dev/null" then pure (.ok [])
  else
    let session ← get
    pure (session.files.read path)

end Run

end ConsoleKeeper.Shell
