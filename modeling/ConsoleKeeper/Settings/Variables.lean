import ConsoleKeeper.Text.Split

/-!
# `ConsoleKeeper.Settings.Variables`: environment variables

The variables of an environment are a row of names and values, in the order in which they were set.
A file of variables gives more of them; `Settings.EnvFile` reads such a file.
-/

set_option autoImplicit false

namespace ConsoleKeeper

/-- Environment variables in the order in which they were set. -/
abbrev Variables := List (String × String)

namespace Variables

/-- The value of the last variable with a name. -/
def value? (environment : Variables) (name : String) : Option String :=
  (environment.reverse.find? (·.1 = name)).map (·.2)

/-- Gives a variable a value: in its place if it is there, else at the end. -/
def put : Variables → String → String → Variables
  | [], name, value => [(name, value)]
  | (k, v) :: rest, name, value =>
    if k = name then (k, value) :: rest else (k, v) :: put rest name value

end Variables

end ConsoleKeeper
