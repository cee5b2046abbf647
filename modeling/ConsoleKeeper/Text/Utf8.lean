/-!
# `ConsoleKeeper.Text.Utf8`: text and bytes

`encode` writes characters as bytes. There are two readers.

* `decode?` refuses bytes that are not the form of any text.
* `decodeLossy` reads all bytes. Each longest start of a form that cannot be continued becomes one
  replacement character, and reading goes on after it.
-/

set_option autoImplicit false

namespace ConsoleKeeper.Text.Utf8

/-- The byte with the given value, which is below 256 wherever this is used. -/
def byte (n : Nat) : UInt8 := UInt8.ofNat n

/-- The bytes of one character: one byte below 128, else a lead byte and up to three more that
carry six bits each. -/
def encodeChar (c : Char) : List UInt8 :=
  let n := c.toNat
  if n < 0x80 then [byte n]
  else if n < 0x800 then [byte (0xc0 + n / 64), byte (0x80 + n % 64)]
  else if n < 0x10000 then
    [byte (0xe0 + n / 4096), byte (0x80 + n / 64 % 64), byte (0x80 + n % 64)]
  else
    [byte (0xf0 + n / 262144), byte (0x80 + n / 4096 % 64), byte (0x80 + n / 64 % 64),
      byte (0x80 + n % 64)]

/-- The bytes of a text. -/
def encode (s : List Char) : List UInt8 :=
  s.flatMap encodeChar

/-- Whether a byte carries six further bits. -/
def isContinuation (b : UInt8) : Bool :=
  0x80 ≤ b.toNat && b.toNat < 0xc0

/-- The six bits of a continuation byte. -/
def low (b : UInt8) : Nat := b.toNat % 64

/-- The least value of a second byte after the given lead byte: higher than usual where a smaller
value would be a longer form than needed. -/
def secondMin (lead : UInt8) : Nat :=
  if lead.toNat = 0xe0 then 0xa0 else if lead.toNat = 0xf0 then 0x90 else 0x80

/-- The greatest value of a second byte after the given lead byte: lower than usual where a greater
value would be no character. -/
def secondMax (lead : UInt8) : Nat :=
  if lead.toNat = 0xed then 0x9f else if lead.toNat = 0xf4 then 0x8f else 0xbf

/-- Whether `b` may follow the lead byte directly. -/
def isSecond (lead b : UInt8) : Bool :=
  secondMin lead ≤ b.toNat && b.toNat ≤ secondMax lead

/-- Reads bytes, with `none` for each stretch that is no character's form. -/
def scan : List UInt8 → List (Option Char)
  | [] => []
  | b0 :: rest0 =>
    let n := b0.toNat
    if n < 0x80 then some (Char.ofNat n) :: scan rest0
    -- No form of a character begins with these: continuing bytes, forms longer than need be, and
    -- what lies beyond the last character.
    else if n < 0xc2 || 0xf4 < n then none :: scan rest0
    else if n < 0xe0 then
      match rest0 with
      | [] => [none]
      | b1 :: rest1 =>
        if isContinuation b1 then some (Char.ofNat ((n - 0xc0) * 64 + low b1)) :: scan rest1
        -- The byte that does not go on is looked at again, since it may begin a character.
        else none :: scan (b1 :: rest1)
    else if n < 0xf0 then
      match rest0 with
      | [] => [none]
      | b1 :: rest1 =>
        if isSecond b0 b1 then
          match rest1 with
          | [] => [none]
          | b2 :: rest2 =>
            if isContinuation b2 then
              some (Char.ofNat ((n - 0xe0) * 4096 + low b1 * 64 + low b2)) :: scan rest2
            else none :: scan (b2 :: rest2)
        else none :: scan (b1 :: rest1)
    else
      match rest0 with
      | [] => [none]
      | b1 :: rest1 =>
        if isSecond b0 b1 then
          match rest1 with
          | [] => [none]
          | b2 :: rest2 =>
            if isContinuation b2 then
              match rest2 with
              | [] => [none]
              | b3 :: rest3 =>
                if isContinuation b3 then
                  some (Char.ofNat ((n - 0xf0) * 262144 + low b1 * 4096 + low b2 * 64 + low b3))
                    :: scan rest3
                else none :: scan (b3 :: rest3)
            else none :: scan (b2 :: rest2)
        else none :: scan (b1 :: rest1)

/-- The text of the bytes, if they are the form of one. -/
def decode? (bytes : List UInt8) : Option (List Char) :=
  (scan bytes).mapM id

/-- The text of the bytes, with a replacement character for each stretch that has no meaning. -/
def decodeLossy (bytes : List UInt8) : List Char :=
  (scan bytes).map (fun c => c.getD '\ufffd')

end ConsoleKeeper.Text.Utf8
