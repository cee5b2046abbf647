import ConsoleKeeper.Files.Tree
import ConsoleKeeper.Journal

/-!
# `ConsoleKeeper.Command.Host`: where programs run

A host starts programs. What a program does is seen from outside: what it writes and when, when it
ends and how, and what it leaves in the file system. A host that refuses to start a program says
why.

Nothing is assumed of a host here. What the operator does with a program that runs is defined for
every host.
-/

set_option autoImplicit false

namespace ConsoleKeeper

/-- A length of time in nanoseconds. Moments are counted from the start of a program. -/
abbrev Moment := Nat

/-- Bytes that a program writes to one of its outputs. -/
structure Utterance where
  moment : Moment
  stream : OutputStream
  bytes : List UInt8
  deriving DecidableEq, Repr, Inhabited

/-- How a program ends: the moment at which both outputs are closed, and the exit status, or the
number of a signal with a minus sign. -/
structure Ending where
  moment : Moment
  status : Int
  deriving DecidableEq, Repr, Inhabited

/-- What a program does as far as it is watched. It has no ending if it is still running then. -/
structure Conduct where
  utterances : List Utterance
  ending : Option Ending
  files : Tree
  deriving Inhabited

/-- What a host is asked to start: words, the program first, with environment variables. -/
structure Launch where
  words : List String
  environment : List (String × String)
  deriving DecidableEq, Repr, Inhabited

/-- A host: what a program does when it is watched until a moment, or to its end if there is none.
-/
abbrev Host := Tree → Launch → Option Moment → Except Errno Conduct

namespace Conduct

/-- What a program writes to one output, moment by moment. -/
def said (conduct : Conduct) (stream : OutputStream) : List (Moment × List UInt8) :=
  (conduct.utterances.filter (·.stream = stream)).map fun u => (u.moment, u.bytes)

end Conduct

end ConsoleKeeper
