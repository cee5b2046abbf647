/-!
# `ConsoleKeeper.Text.Ranges`: sets of code points as tables

A property of characters is a table of inclusive ranges in increasing order. `Ranges.has` looks a
code point up by halving the table.
-/

set_option autoImplicit false

namespace ConsoleKeeper.Text

/-- Inclusive ranges of code points in increasing order. -/
abbrev Ranges := Array (Nat × Nat)

namespace Ranges

/-- Whether `n` lies in one of the ranges from the place `lo` up to the place `hi`. The search
halves the stretch as long as `fuel` lasts. -/
def hasBetween (table : Ranges) (n : Nat) : Nat → Nat → Nat → Bool
  | 0, _, _ => false
  | fuel + 1, lo, hi =>
    if hi ≤ lo then false
    else
      let mid := (lo + hi) / 2
      match table[mid]? with
      | none => false
      | some (first, last) =>
        if n < first then hasBetween table n fuel lo mid
        else if last < n then hasBetween table n fuel (mid + 1) hi
        else true

/-- Whether `n` lies in one of the ranges. -/
def has (table : Ranges) (n : Nat) : Bool :=
  hasBetween table n table.size 0 table.size

end Ranges

end ConsoleKeeper.Text
