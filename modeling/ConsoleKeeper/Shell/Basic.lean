/-!
# `ConsoleKeeper.Shell.Basic`: phrases of the command language

Scripts of a command language say which programs to run, with which words, and where their inputs
and outputs lead. A word has parts: text, the values of parameters, the output of other scripts, and
numbers to be worked out. A clause is a command, or it joins clauses.

Scripts inside words stay text until the word is used.

The modules below `Shell` are about the programs that commands start, which run beside the operator
as processes of their own. They are no part of the operator, and no theorem of this library rests on
them. The operator sees of a program what a `Host` shows, and all that is ever assumed of a host is
that it tells what a program writes in the order of time. These modules give one host in full,
`Machine.host`, so that a supervised command can be followed from its launch to its last line.
-/

set_option autoImplicit false

namespace ConsoleKeeper.Shell

/-- What is taken from the value of a parameter. With `ifEmpty`, an empty value counts as none. -/
inductive Alteration where
  /-- The value itself. -/
  | value
  /-- The length of the value. -/
  | length
  /-- The value, or the argument where there is none. -/
  | otherwise (ifEmpty : Bool)
  /-- The same, and the argument becomes the value. -/
  | assign (ifEmpty : Bool)
  /-- The value; where there is none, the script ends with the argument as message. -/
  | require (ifEmpty : Bool)
  /-- The argument where there is a value, and nothing otherwise. -/
  | replacement (ifEmpty : Bool)
  /-- The value without what the pattern fits at its front. -/
  | trimFront (longest : Bool)
  /-- The value without what the pattern fits at its back. -/
  | trimBack (longest : Bool)
  deriving DecidableEq, Repr, Inhabited

/-- A part of a word. What is quoted is taken as it is. -/
inductive Part where
  | text (chars : List Char) (quoted : Bool)
  | parameter (name : String) (alteration : Alteration) (argument : List Char) (quoted : Bool)
  | output (script : List Char) (quoted : Bool)
  | number (expression : List Char) (quoted : Bool)
  deriving DecidableEq, Repr, Inhabited

/-- A word. -/
abbrev Word := List Part

/-- How a channel is led somewhere else. -/
inductive Route where
  /-- Reads from a file. -/
  | source
  /-- Writes a file anew. -/
  | fresh
  /-- Writes behind what a file holds. -/
  | behind
  /-- Leads where another channel leads. -/
  | same
  /-- Reads a text given in the script. -/
  | given
  deriving DecidableEq, Repr, Inhabited

/-- A channel led somewhere else. -/
structure Redirection where
  channel : Nat
  route : Route
  target : Word
  deriving DecidableEq, Repr, Inhabited

/-- What a script says to do. -/
inductive Clause where
  | nothing
  | simple (line : Nat) (assignments : List (String × Word)) (words : List Word)
      (redirections : List Redirection)
  | redirected (body : Clause) (redirections : List Redirection)
  | pipe (left right : Clause)
  | negated (body : Clause)
  | andThen (left right : Clause)
  | orElse (left right : Clause)
  | sequence (first second : Clause)
  | background (body : Clause)
  | subshell (body : Clause)
  | choice (condition accepted refused : Clause)
  | loop (goOn : Bool) (condition body : Clause)
  | each (name : String) (items : Option (List Word)) (body : Clause)
  | cases (subject : Word) (branches : List (List Word × Clause))
  | define (name : String) (body : Clause)
  deriving Repr, Inhabited

/-- Why a text is no script. -/
inductive Fault where
  /-- Something, or the end of the script, stands where it cannot stand; there may be only one thing
  that could. -/
  | unexpected (what wanted : Option String)
  | openQuote
  | openBrace
  | openNumber
  | openScript
  | badParameter
  | badLoopName
  | badFunctionName
  deriving DecidableEq, Repr, Inhabited

namespace Fault

/-- The fault of a script that ends too early. -/
def unexpectedEnd : Fault :=
  .unexpected none none

/-- A fault, together with what had to stand in its place. -/
def wanting (fault : Fault) (wanted : String) : Fault :=
  match fault with
  | unexpected what _ => .unexpected what (some wanted)
  | fault => fault

/-- The words for a fault. -/
def message : Fault → String
  | unexpected what wanted =>
    let reason := match wanted with
      | some wanted => " (expecting " ++ wanted ++ ")"
      | none => ""
    "Syntax error: " ++ what.getD "end of file" ++ " unexpected" ++ reason
  | openQuote => "Syntax error: Unterminated quoted string"
  | openBrace => "Syntax error: Missing '\x7d'"
  | openNumber => "Syntax error: Missing '))'"
  | openScript => "Syntax error: EOF in backquote substitution"
  | badParameter => "Bad substitution"
  | badLoopName => "Syntax error: Bad for loop variable"
  | badFunctionName => "Syntax error: Bad function name"

end Fault

/-- The commands whose assignments stay, and whose names no function can have. -/
def specialCommands : List String :=
  [":", ".", "break", "continue", "eval", "exec", "exit", "export", "readonly", "return", "set",
    "shift", "times", "trap", "unset"]

/-- Whether a name can begin with a character. -/
def isNameStart (c : Char) : Bool :=
  c.isAlpha || c = '_'

/-- Whether a name can hold a character. -/
def isNameChar (c : Char) : Bool :=
  c.isAlphanum || c = '_'

/-- Whether characters are a name. -/
def isName : List Char → Bool
  | [] => false
  | c :: rest => isNameStart c && rest.all isNameChar

end ConsoleKeeper.Shell
