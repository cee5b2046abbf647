/-!
# `ConsoleKeeper.Version`: version labels

A version label may carry a leading `v` that means nothing. `normalize` takes one away, and only
one: `v1.4` and `1.4` have the same normal form, `vv1.4` has another.
-/

set_option autoImplicit false

namespace ConsoleKeeper.Version

/-- A label without one leading `v`. -/
def dropMark : List Char → List Char
  | 'v' :: rest => rest
  | label => label

/-- The normal form of a version label. -/
def normalize (version : String) : String :=
  String.ofList (dropMark version.toList)

/-- Whether two labels name the same version. -/
def same (a b : String) : Bool :=
  normalize a = normalize b

end ConsoleKeeper.Version
