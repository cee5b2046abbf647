/-!
# `ConsoleKeeper.Data.Table`: values under keys

A table is a list of keys with their values, in the order in which the keys first came. A key is
looked up from the front, and `put` leaves at most one entry for it where there was at most one.
-/

set_option autoImplicit false

namespace ConsoleKeeper

/-- Values under keys, in the order in which the keys first came. -/
abbrev Table (κ ν : Type) := List (κ × ν)

namespace Table

variable {κ ν : Type} [DecidableEq κ]

/-- The value under a key. -/
def get? : Table κ ν → κ → Option ν
  | [], _ => none
  | (k, v) :: rest, key => if k = key then some v else get? rest key

/-- Whether a key has a value. -/
def has (table : Table κ ν) (key : κ) : Bool :=
  (table.get? key).isSome

/-- Puts a value under a key: in its place if the key is there, else at the end. -/
def put : Table κ ν → κ → ν → Table κ ν
  | [], key, value => [(key, value)]
  | (k, v) :: rest, key, value =>
    if k = key then (key, value) :: rest else (k, v) :: put rest key value

/-- The table without a key. -/
def erase (table : Table κ ν) (key : κ) : Table κ ν :=
  table.filter (·.1 ≠ key)

/-- The values. -/
def values (table : Table κ ν) : List ν :=
  table.map (·.2)

end Table

end ConsoleKeeper
