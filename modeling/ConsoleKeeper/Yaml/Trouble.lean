import ConsoleKeeper.Failure.Basic

/-!
# `ConsoleKeeper.Yaml.Trouble`: why a YAML text has no value

A text can be broken, and then it has no value. Apart from that an escape can name a character that
does not exist, collections can stand inside one another too deep, and a scalar can fail to be what
its tag says. These are failures of their own.
-/

set_option autoImplicit false

namespace ConsoleKeeper.Yaml

/-- Why a text has no value. -/
inductive Trouble where
  /-- The text is broken. -/
  | broken
  | failed (failure : Failure)
  deriving Repr, Inhabited, BEq

/-- What was read, or why nothing was. -/
abbrev Reading (α : Type) := Except Trouble α

namespace Reading

/-- There is nothing since the text is broken. -/
def broken {α : Type} : Reading α := .error .broken

/-- There is nothing since something failed. -/
def failed {α : Type} (failure : Failure) : Reading α := .error (.failed failure)

/-- What was read; a text without it is broken. -/
def ofOption {α : Type} : Option α → Reading α
  | some a => .ok a
  | none => broken

/-- What was read; without it the argument has no meaning. -/
def ofArgument {α : Type} : Option α → Reading α
  | some a => .ok a
  | none => failed .badArgument

end Reading

end ConsoleKeeper.Yaml
