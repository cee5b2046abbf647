/-!
# `ConsoleKeeper.Number.Binary64`: binary numbers of double width

A finite number is a sign, a mantissa below 2^53 and a power of two. `ofRatio` rounds a fraction to
the nearest such number, and to the one with the even mantissa when two are equally near. All other
ways to make a number go through it, so each result is rounded exactly once.
-/

set_option autoImplicit false

namespace ConsoleKeeper

/-- A binary number of double width. Zero has mantissa 0 and exponent 0. -/
inductive Binary64 where
  | finite (negative : Bool) (mantissa : Nat) (exponent : Int)
  | infinite (negative : Bool)
  | nan
  deriving DecidableEq, Repr, Inhabited

namespace Binary64

/-- The whole number nearest to `num / den`, the even one of two. -/
def nearestWhole (num den : Nat) : Nat :=
  let q := num / den
  let r := num % den
  if 2 * r < den then q
  else if den < 2 * r then q + 1
  else if q % 2 = 0 then q else q + 1

/-- The fraction `num / den · 2^(-exponent)` as a numerator and a denominator. -/
def scaled (num den : Nat) (exponent : Int) : Nat × Nat :=
  if 0 ≤ exponent then (num, den * Nat.pow 2 exponent.toNat)
  else (num * Nat.pow 2 (-exponent).toNat, den)

/-- The exponent with which `num / den` has a mantissa of 53 bits, or the least exponent there is.
-/
def exponentOf (num den : Nat) : Int :=
  let guess : Int := (num.log2 : Int) - den.log2 - 52
  let (n, d) := scaled num den guess
  max (-1074) (if n / d < Nat.pow 2 52 then guess - 1 else guess)

/-- The number nearest to the fraction `num / den`, whose denominator is not zero. -/
def ofRatio (negative : Bool) (num den : Nat) : Binary64 :=
  if num = 0 then finite negative 0 0
  else
    let e := exponentOf num den
    let (n, d) := scaled num den e
    let m := nearestWhole n d
    let (m, e) := if m = Nat.pow 2 53 then (Nat.pow 2 52, e + 1) else (m, e)
    if m = 0 then finite negative 0 0
    else if 971 < e then infinite negative
    else finite negative m e

/-- The number nearest to a whole number. -/
def ofInt (n : Int) : Binary64 :=
  ofRatio (n < 0) n.natAbs 1

/-- The number nearest to `digits · 10^exponent`. Far outside the range the power itself is not
computed. -/
def ofDecimal (negative : Bool) (digits : Nat) (exponent : Int) : Binary64 :=
  if digits = 0 then finite negative 0 0
  else
    let size : Int := ((Nat.log2 digits * 30103) / 100000 : Nat) + exponent
    if 400 < size then infinite negative
    else if size < -400 then finite negative 0 0
    else if 0 ≤ exponent then ofRatio negative (digits * Nat.pow 10 exponent.toNat) 1
    else ofRatio negative digits (Nat.pow 10 (-exponent).toNat)

/-- A finite number as a signed numerator and a denominator. -/
def toRatio? : Binary64 → Option (Int × Nat)
  | finite negative m e =>
    let sign : Int := if negative then -1 else 1
    if 0 ≤ e then some (sign * (m * Nat.pow 2 e.toNat : Nat), 1)
    else some (sign * (m : Nat), Nat.pow 2 (-e).toNat)
  | _ => none

/-- Whether a number is above zero; the one that is no number is not. -/
def isPositive : Binary64 → Bool
  | finite negative m _ => !negative && m != 0
  | infinite negative => !negative
  | nan => false

/-- Whether a number is zero, of either sign. -/
def isZero : Binary64 → Bool
  | finite _ m _ => m = 0
  | _ => false

/-- The whole number that a number is, if it is one. -/
def toInt? (x : Binary64) : Option Int :=
  match x.toRatio? with
  | some (n, d) => if n % (d : Int) = 0 then some (n / (d : Int)) else none
  | none => none

/-- The rounded sum. Opposite infinities have none. -/
def add (x y : Binary64) : Binary64 :=
  match x.toRatio?, y.toRatio? with
  | some (n, d), some (k, l) =>
    let s : Int := n * l + k * d
    ofRatio (s < 0) s.natAbs (d * l)
  | some _, none => y
  | none, some _ => x
  | none, none => if x = y then x else nan

/-- The rounded product with the number nearest to a positive whole number; what is not finite stays
as it is. -/
def scale (x : Binary64) (k : Nat) : Binary64 :=
  match x.toRatio?, (ofInt k).toRatio? with
  | some (n, d), some (m, e) => ofRatio (n < 0) (n.natAbs * m.natAbs) (d * e)
  | _, _ => x

/-- The number with the other sign. -/
def negate : Binary64 → Binary64
  | finite negative m e => finite (!negative) m e
  | infinite negative => infinite (!negative)
  | nan => nan

end Binary64

end ConsoleKeeper
