import ConsoleKeeper.Number.Binary64
import ConsoleKeeper.Text.Split

/-!
# `ConsoleKeeper.Number.Decimal`: numbers written in tens

`Binary64.shortest` finds the fewest decimal digits that read back as the number, and of those the
ones nearest to it. `Binary64.text` writes them: with a point for sizes from 10^-4 to 10^16, else
with an exponent of at least two digits.

`readWhole?` and `readDecimal?` read the plain decimal forms of whole numbers and fractions.
-/

set_option autoImplicit false

namespace ConsoleKeeper

/-- The decimal digits of a number. -/
def digitsOf (n : Nat) : List Char :=
  (toString n).toList

/-- The text of a whole number. -/
def wholeText (n : Int) : List Char :=
  (if n < 0 then ['-'] else []) ++ digitsOf n.natAbs

/-- The value of a digit. -/
def digitValue (c : Char) : Nat := c.toNat - 48

/-- The value of a row of decimal digits. -/
def digitsValue (cs : List Char) : Nat :=
  cs.foldl (fun n c => n * 10 + digitValue c) 0

namespace Binary64

/-- Whether `a / b` lies below `c / d`. -/
def ratioLt (a b c d : Nat) : Bool := a * d < c * b

/-- The distance of two fractions, over the product of their denominators. -/
def gap (a b c d : Nat) : Nat := max (a * d) (c * b) - min (a * d) (c * b)

/-- The fraction `d · 10^e`. -/
def powTen (d : Nat) (e : Int) : Nat × Nat :=
  if 0 ≤ e then (d * Nat.pow 10 e.toNat, 1) else (d, Nat.pow 10 (-e).toNat)

/-- The least `p` at or above `p` with `num / den < 10^p`, looking at most `fuel` steps further. -/
def placesFrom (num den : Nat) : Nat → Int → Int
  | 0, p => p
  | fuel + 1, p =>
    let (n, d) := powTen 1 p
    if ratioLt num den n d then p else placesFrom num den fuel (p + 1)

/-- How many places a positive fraction has before its point: the `p` with
`10^(p-1) ≤ num / den < 10^p`. -/
def places (num den : Nat) : Int :=
  let bits : Int := (num.log2 : Int) - den.log2
  placesFrom num den 8 (bits * 30103 / 100000 - 2)

/-- The fractions halfway to the neighbours of `m · 2^e`, and whether they read back as it: a tie
goes to the even mantissa. -/
structure Reach where
  low : Nat × Nat
  high : Nat × Nat
  closed : Bool

/-- The reach of a positive finite number. Below a power of two the lower neighbour is nearer. -/
def reach (m : Nat) (e : Int) : Reach :=
  let part (k : Nat) (e : Int) : Nat × Nat :=
    if 0 ≤ e then (k * Nat.pow 2 e.toNat, 1) else (k, Nat.pow 2 (-e).toNat)
  let narrow := m = Nat.pow 2 52 && -1074 < e
  { low := if narrow then part (4 * m - 1) (e - 2) else part (2 * m - 1) (e - 1)
    high := part (2 * m + 1) (e - 1)
    closed := m % 2 = 0 }

/-- Whether a fraction is in reach. -/
def Reach.has (r : Reach) (x : Nat × Nat) : Bool :=
  let above := ratioLt r.low.1 r.low.2 x.1 x.2
  let below := ratioLt x.1 x.2 r.high.1 r.high.2
  let onLow := r.low.1 * x.2 = x.1 * r.low.2
  let onHigh := r.high.1 * x.2 = x.1 * r.high.2
  (above || (r.closed && onLow)) && (below || (r.closed && onHigh))

/-- The better of the value's two neighbours among the numbers with their last digit at `10^q`, if
one of them is in reach. -/
def onGrid (num den : Nat) (r : Reach) (q : Int) : Option Nat :=
  let (un, ud) := powTen 1 (-q)
  let down := num * un / (den * ud)
  let up := down + 1
  let has (k : Nat) : Bool := 0 < k && r.has (powTen k q)
  let far (k : Nat) : Nat := gap num den (powTen k q).1 (powTen k q).2
  -- Of two candidates the nearer one counts, and the even one if they are equally near.
  match has down, has up with
  | true, true =>
    if far down < far up then some down
    else if far up < far down then some up
    else if down % 2 = 0 then some down else some up
  | true, false => some down
  | false, true => some up
  | false, false => none

/-- Tries `count` digits, then one more, as long as `fuel` lasts. -/
def shortestFrom (num den : Nat) (r : Reach) (p : Int) : Nat → Nat → Nat × Int
  | 0, count => (num / den, p - count)
  | fuel + 1, count =>
    match onGrid num den r (p - count) with
    | some k => (k, p - count)
    | none => shortestFrom num den r p fuel (count + 1)

/-- The fewest digits `k` and the exponent `q` for which `k · 10^q` reads back as the positive
number `m · 2^e`. -/
def shortest (m : Nat) (e : Int) : Nat × Int :=
  let (num, den) := if 0 ≤ e then (m * Nat.pow 2 e.toNat, 1) else (m, Nat.pow 2 (-e).toNat)
  shortestFrom num den (reach m e) (places num den) 18 1

/-- How decimal digits become a text. -/
structure DecimalForm where
  /-- The least power of ten of the first digit that is written with a point alone. -/
  pointFrom : Int
  /-- The first power of ten of the first digit that is written with an exponent again. -/
  pointTo : Int
  /-- The least number of digits in an exponent. -/
  exponentWidth : Nat
  infinity : List Char
  notANumber : List Char

/-- The usual writing: whole numbers keep a zero after the point, very small and very large ones
have an exponent. -/
def plain : DecimalForm where
  pointFrom := -4
  pointTo := 16
  exponentWidth := 2
  infinity := ['i', 'n', 'f']
  notANumber := ['n', 'a', 'n']

/-- Writes the digits `ds`, the first of which counts `10^first`. -/
def DecimalForm.write (form : DecimalForm) (ds : List Char) (first : Int) : List Char :=
  if form.pointFrom ≤ first && first < form.pointTo then
    if first < 0 then
      ['0', '.'] ++ List.replicate (-first - 1).toNat '0' ++ ds
    else
      let whole := first.toNat + 1
      if ds.length ≤ whole then
        ds ++ List.replicate (whole - ds.length) '0' ++ ['.', '0']
      else ds.take whole ++ ['.'] ++ ds.drop whole
  else
    let power := digitsOf first.natAbs
    let padded := List.replicate (form.exponentWidth - power.length) '0' ++ power
    let tail := match ds.drop 1 with
      | [] => []
      | more => ['.'] ++ more
    ds.take 1 ++ tail ++ ['e', if first < 0 then '-' else '+'] ++ padded

/-- The digits of a number without zeros at the end, and how many were left out. -/
def trimZeros (k : Nat) : List Char :=
  Text.trimRight (· = '0') (digitsOf k)

/-- The text of a number. -/
def text : Binary64 → List Char
  | finite negative 0 _ => (if negative then ['-'] else []) ++ ['0', '.', '0']
  | finite negative m e =>
    let (k, q) := shortest m e
    let first := q + (digitsOf k).length - 1
    (if negative then ['-'] else []) ++ plain.write (trimZeros k) first
  | infinite negative => (if negative then ['-'] else []) ++ plain.infinity
  | nan => plain.notANumber

end Binary64

/-- Whether all characters are decimal digits and there is one at least. -/
def isDigits (cs : List Char) : Bool :=
  !cs.isEmpty && cs.all Char.isDigit

/-- A leading sign, and the rest. -/
def takeSign : List Char → Bool × List Char
  | '-' :: rest => (true, rest)
  | '+' :: rest => (false, rest)
  | cs => (false, cs)

/-- Reads a whole number: an optional sign and digits. -/
def readWhole? (cs : List Char) : Option Int :=
  let (negative, ds) := takeSign cs
  if isDigits ds then
    let n : Int := digitsValue ds
    some (if negative then -n else n)
  else none

/-- Reads the part of a decimal number after its sign: digits with an optional point among or beside
them, and an optional exponent. -/
def readMagnitude? (cs : List Char) : Option (Nat × Int) :=
  let (body, power) := match Text.cutFirst 'e' (cs.map Char.toLower) with
    | (body, none) => (body, some 0)
    | (body, some power) => (body, readWhole? power)
  match power with
  | none => none
  | some power =>
    let (whole, part) := match Text.cutFirst '.' body with
      | (whole, none) => (whole, [])
      | (whole, some part) => (whole, part)
    if (whole ++ part).isEmpty || !(whole ++ part).all Char.isDigit then none
    else some (digitsValue (whole ++ part), power - part.length)

/-- Reads a decimal number, or a word for infinity or for what is no number, with an optional
sign. -/
def readDecimal? (cs : List Char) : Option Binary64 :=
  let (negative, rest) := takeSign cs
  let word := String.ofList (rest.map Char.toLower)
  if word = "inf" || word = "infinity" then some (.infinite negative)
  else if word = "nan" then some .nan
  else (readMagnitude? rest).map fun (digits, power) => .ofDecimal negative digits power

end ConsoleKeeper
