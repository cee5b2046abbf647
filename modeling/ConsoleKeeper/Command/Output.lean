import ConsoleKeeper.Command.Basic

/-!
# `ConsoleKeeper.Command.Output`: what a command writes, line by line

Output comes in stretches of bytes that need not end where lines end. `drain` cuts it into pieces: a
piece for each line, and for a line that gets too long several pieces of bounded length. A long line
is not cut inside a secret, since the parts of a secret would not be masked.

`cut` says where a long line is cut. `wholeLines` is what the pieces are when no line is too long:
the lines of the whole output.
-/

set_option autoImplicit false

namespace ConsoleKeeper.Output

/-- A piece of output. -/
inductive Piece where
  /-- Up to a newline, which the piece leaves out. -/
  | line (bytes : List UInt8)
  /-- A part of a line that goes on, or what stands after the last newline. -/
  | part (bytes : List UInt8)
  deriving DecidableEq, Repr, Inhabited

/-- The bytes of a piece. -/
def Piece.bytes : Piece → List UInt8
  | line bytes => bytes
  | part bytes => bytes

/-- The output that a piece stands for. -/
def Piece.source : Piece → List UInt8
  | line bytes => bytes ++ [10]
  | part bytes => bytes

/-- Moves a cut so that it does not go through the next occurrence of a secret: before the
occurrence, or behind it where it is the first thing there is. -/
def cutAround (pending : List UInt8) (cut : Nat) (secret : List UInt8) : Nat :=
  -- An occurrence that begins earlier than this ends before the cut. Where the secret is longer
  -- than that, the difference is zero and the search begins at the front.
  match Text.findFrom secret pending (cut + 1 - secret.length) with
  | none => cut
  | some 0 => max cut secret.length
  | some start => if start < cut then start else cut

/-- Where a line that is too long is cut. -/
def cut (limit : Nat) (secrets : List (List UInt8)) (pending : List UInt8) : Nat :=
  secrets.foldl (cutAround pending) limit

/-- The length of the longest secret. -/
def longest (secrets : List (List UInt8)) : Nat :=
  (secrets.map List.length).foldl max 0

/-- Cuts parts off a line as long as it is too long. `fuel` bounds the number of parts. -/
def capFrom (limit : Nat) (secrets : List (List UInt8)) :
    Nat → List UInt8 → List Piece × List UInt8
  | 0, pending => ([], pending)
  | fuel + 1, pending =>
    -- Up to this length a secret that reaches over the limit may still be coming in, so the line
    -- waits.
    if pending.length < limit + longest secrets then ([], pending)
    else
      let n := cut limit secrets pending
      let (pieces, rest) := capFrom limit secrets fuel (pending.drop n)
      (.part (pending.take n) :: pieces, rest)

/-- Cuts parts off a line as long as it is too long, and keeps the rest. Each part takes a byte at
least. -/
def cap (limit : Nat) (secrets : List (List UInt8)) (pending : List UInt8) :
    List Piece × List UInt8 :=
  capFrom limit secrets pending.length pending

/-- Splits at newlines: the finished lines, and what stands after the last newline. -/
def finishedLines (bytes : List UInt8) : List (List UInt8) × List UInt8 :=
  let parts := Text.splitOn 10 bytes
  (parts.dropLast, parts.getLast?.getD [])

/-- Takes in a stretch of output: the pieces that are finished, and what has to wait. -/
def feed (limit : Nat) (secrets : List (List UInt8)) (pending stretch : List UInt8) :
    List Piece × List UInt8 :=
  let (lines, open_) := finishedLines (pending ++ stretch)
  let (parts, rest) := cap limit secrets open_
  (lines.map .line ++ parts, rest)

/-- What one look at an output brings: bytes, none of them at its end, or a refusal by the system.
-/
inductive Delivery where
  | bytes (bytes : List UInt8)
  | refused (message : String)
  deriving DecidableEq, Repr, Inhabited

/-- What draining reports: a piece, or that the output cannot be read further. -/
inductive Emission where
  | piece (piece : Piece)
  | unread (message : String)
  deriving DecidableEq, Repr, Inhabited

/-- What is left at the end, if anything. -/
def leftover (pending : List UInt8) : List Emission :=
  if pending.isEmpty then [] else [.piece (.part pending)]

/-- Reads an output to its end or to the first refusal. -/
def drainFrom (limit : Nat) (secrets : List (List UInt8)) (pending : List UInt8) :
    List Delivery → List Emission
  | [] => leftover pending
  | .refused message :: _ => .unread message :: leftover pending
  | .bytes stretch :: rest =>
    -- A look that brings nothing is the end of the output.
    if stretch.isEmpty then leftover pending
    else
      let (pieces, pending) := feed limit secrets pending stretch
      pieces.map .piece ++ drainFrom limit secrets pending rest

/-- Reads an output from its start. -/
def drain (limit : Nat) (secrets : List (List UInt8)) (deliveries : List Delivery) :
    List Emission :=
  drainFrom limit secrets [] deliveries

/-- The lines of a whole output; nothing after the last newline is no line. -/
def wholeLines (bytes : List UInt8) : List (List UInt8) :=
  let (lines, rest) := finishedLines bytes
  if rest.isEmpty then lines else lines ++ [rest]

/-- The secrets of a command as they occur in its output. -/
def secretBytes (secrets : List String) : List (List UInt8) :=
  (secrets.filter (!·.isEmpty)).map fun secret => Text.Utf8.encode secret.toList

/-- A piece as it is shown: read as text, without carriage returns at its end, secrets masked. -/
def shown (secrets : List String) (bytes : List UInt8) : String :=
  String.ofList
    (Command.masked secrets (Text.trimRight (· = '\r') (Text.Utf8.decodeLossy bytes)))

/-- The event that reports something about an output of a command. -/
def eventOf (command : Command) (stream : OutputStream) : Emission → Event
  | .piece piece => .outputLine stream command.program (shown command.secrets piece.bytes)
  | .unread message => .outputUnread stream command.program message

/-- The events of an output of a command. -/
def events (limit : Nat) (command : Command) (stream : OutputStream) (deliveries : List Delivery) :
    List Event :=
  (drain limit (secretBytes command.secrets) deliveries).map (eventOf command stream)

/-- The most bytes that one look at an output brings. -/
def stretchLimit : Nat := 1024

/-- The length from which a line is cut, unless another is asked for. -/
def defaultLimit : Nat := 64 * 1024

/-- Bytes in stretches that one look brings; `fuel` bounds their number. -/
def stretchesFrom : Nat → List UInt8 → List Delivery
  | 0, _ => []
  | fuel + 1, bytes =>
    if bytes.isEmpty then []
    else .bytes (bytes.take stretchLimit) :: stretchesFrom fuel (bytes.drop stretchLimit)

/-- Bytes in stretches that one look brings. -/
def stretches (bytes : List UInt8) : List Delivery :=
  stretchesFrom bytes.length bytes

end ConsoleKeeper.Output
