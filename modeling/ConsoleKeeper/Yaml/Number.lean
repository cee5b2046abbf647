import ConsoleKeeper.Data.Json
import ConsoleKeeper.Text.Digits
import ConsoleKeeper.Yaml.Trouble

/-!
# `ConsoleKeeper.Yaml.Number`: the values of numbers

What is said to be a number is read more freely than numbers are recognised. Underscores mean
nothing anywhere, the digits of all scripts count, and blanks may stand around each number.

`wholeOf` reads whole numbers in bases two, eight, ten and sixteen, `binaryOf` numbers with a point.
Both also read parts of sixty with colons between them, each of which is a number with a sign of its
own.
-/

set_option autoImplicit false

namespace ConsoleKeeper.Yaml

/-- A number without the underscores in it. -/
def dropMarks (cs : List Char) : List Char :=
  cs.filter (· ≠ '_')

/-- A number without blanks around it, in the digits of ASCII. -/
def plainNumber (cs : List Char) : List Char :=
  (Text.trim Text.isBlank cs).map Text.latinDigit

/-- The value of digits in a base, if there are some and each is one of the base's. -/
def inBase? (base : Nat) (cs : List Char) : Option Nat :=
  if cs.isEmpty then none
  else
    cs.foldlM
      (fun n c => (Json.hexValue? c).bind fun d => if d < base then some (n * base + d) else none) 0

/-- The letter behind a zero that says which base follows. -/
def baseLetter? (base : Nat) : Option Char :=
  [(2, 'b'), (8, 'o'), (16, 'x')].lookup base

/-- The digits behind the mark of a base, if there is one. -/
def dropBase (base : Nat) : List Char → List Char
  | '0' :: c :: rest => if baseLetter? base = some c.toLower then rest else '0' :: c :: rest
  | cs => cs

/-- How many decimal digits a whole number may have. -/
def wholeLimit : Nat := 4300

/-- A whole number in a base, with an optional sign, and the base's mark in front of the digits. -/
def wholeIn? (base : Nat) (cs : List Char) : Option Int :=
  let (negative, body) := takeSign (plainNumber cs)
  let digits := dropBase base body
  if base = 10 && wholeLimit < digits.length then none
  else (inBase? base digits).map fun (n : Nat) => if negative then -(n : Int) else n

/-- The size of a whole number, whose sign is left out: how it starts says which base it has. -/
def sizeOf? : List Char → Option Int
  | ['0'] => some 0
  | '0' :: 'b' :: ds => wholeIn? 2 ds
  | '0' :: 'x' :: ds => wholeIn? 16 ds
  | '0' :: ds => wholeIn? 8 ('0' :: ds)
  | ds => (Text.splitOn ':' ds).foldlM (fun n part => (wholeIn? 10 part).map (n * 60 + ·)) 0

/-- Whether a number has a minus in front. -/
def isNegative (cs : List Char) : Bool :=
  cs.head? = some '-'

/-- The value of a whole number. A sign alone has no first digit, and neither has nothing. -/
def wholeOf (text : List Char) : Reading Int := do
  let cs := dropMarks text
  let body := (takeSign cs).2
  if body.isEmpty then .failed .noItem
  else
    let size ← Reading.ofArgument (sizeOf? body)
    .ok (if isNegative cs then -size else size)

/-- The sum of parts of sixty. The last part counts once, and each other one sixty times the part
behind it. -/
def sixtieths : List Binary64 → Nat → Binary64 → Reading Binary64
  | [], _, sum => .ok sum
  | x :: before, base, sum =>
    match Binary64.ofInt base with
    | .infinite _ => .failed .tooLarge
    | _ => sixtieths before (base * 60) (sum.add (x.scale base))

/-- The size of a number with a point, whose sign is left out. -/
def binarySize (body : List Char) : Reading Binary64 := do
  if body = ".inf".toList then .ok (.infinite false)
  else if body = ".nan".toList then .ok .nan
  else
    let parts ← (Text.splitOn ':' body).mapM fun part =>
      Reading.ofArgument (readDecimal? (plainNumber part))
    match parts with
    | [x] => .ok x
    | _ => sixtieths parts.reverse 1 (Binary64.ofInt 0)

/-- The value of a number with a point. -/
def binaryOf (text : List Char) : Reading Binary64 := do
  let cs := (dropMarks text).map Char.toLower
  if cs.isEmpty then .failed .noItem
  else
    let size ← binarySize (takeSign cs).2
    .ok (if isNegative cs then size.negate else size)

end ConsoleKeeper.Yaml
