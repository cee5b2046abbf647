/-!
# `ConsoleKeeper.Yaml.Coded`: bytes written as characters

Four characters with six bits each stand for three bytes. Padding fills up the last group. What is
no part of the code is passed over, and so is padding that comes too early.
-/

set_option autoImplicit false

namespace ConsoleKeeper.Yaml

/-- The six bits of a character of coded bytes. -/
def sixBits? (c : Char) : Option Nat :=
  let n := c.toNat
  if c.isUpper then some (n - 65)
  else if c.isLower then some (n - 71)
  else if c.isDigit then some (n + 4)
  else if c = '+' then some 62
  else if c = '/' then some 63
  else none

/-- What is known while coded bytes are read. -/
structure CodedGroup where
  /-- How many characters of the present group were read. -/
  place : Nat := 0
  /-- The bits that are left over from the last character. -/
  left : Nat := 0
  /-- How many padding characters stand behind the last character. -/
  padding : Nat := 0
  /-- The bytes read so far, the last one first. -/
  bytes : List UInt8 := []

namespace CodedGroup

/-- Adds a character's bits. -/
def add (group : CodedGroup) (bits : Nat) : CodedGroup :=
  match group.place with
  | 0 => { group with place := 1, left := bits, padding := 0 }
  | 1 =>
    { place := 2
      left := bits % 16
      bytes := UInt8.ofNat (group.left * 4 + bits / 16) :: group.bytes }
  | 2 =>
    { place := 3
      left := bits % 4
      bytes := UInt8.ofNat (group.left * 16 + bits / 4) :: group.bytes }
  | _ => { bytes := UInt8.ofNat (group.left * 64 + bits) :: group.bytes }

/-- Reads characters up to the padding that fills the last group, or to the end. Then no group may
be open. -/
def finish (group : CodedGroup) : List Char → Option (List UInt8)
  | [] => if group.place = 0 then some group.bytes.reverse else none
  | '=' :: rest =>
    if group.place < 2 then group.finish rest
    else if 4 ≤ group.place + group.padding + 1 then some group.bytes.reverse
    else { group with padding := group.padding + 1 }.finish rest
  | c :: rest =>
    match sixBits? c with
    | some bits => (group.add bits).finish rest
    | none => group.finish rest

end CodedGroup

/-- The bytes of a coded text, which is in ASCII. -/
def codedBytes? (cs : List Char) : Option (List UInt8) :=
  if cs.any fun c => 0x80 ≤ c.toNat then none else CodedGroup.finish {} cs

end ConsoleKeeper.Yaml
