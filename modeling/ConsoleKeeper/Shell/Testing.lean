import ConsoleKeeper.Shell.Arithmetic
import ConsoleKeeper.Shell.Opening

/-!
# `ConsoleKeeper.Shell.Testing`: tests of texts, numbers and files

A test compares two texts or two numbers, or asks something about one text or about the file where a
path leads. Tests can be joined, and put in brackets.
-/

set_option autoImplicit false

namespace ConsoleKeeper.Shell.Testing

/-- Why a test has no answer. -/
inductive Misuse where
  | noNumber (text : String)
  | unexpected (text : String)
  | wanting (operator : String)
  | open_
  deriving DecidableEq, Repr, Inhabited

/-- The words for a misuse. -/
def Misuse.message : Misuse → String
  | noNumber text => "Illegal number: " ++ text
  | unexpected "" => "unexpected operator"
  | unexpected text => text ++ ": unexpected operator"
  | wanting operator => operator ++ ": argument expected"
  | open_ => "closing paren expected"

/-- The questions about a file, by what stands there. -/
def aboutNode? (operator : String) : Option (Node → Bool) :=
  match operator with
  | "-e" | "-r" | "-w" | "-O" | "-G" => some fun _ => true
  | "-f" => some fun node =>
    match node with
    | .file _ _ => true
    | .directory => false
  | "-d" => some fun node => node = .directory
  | "-s" => some fun node =>
    match node with
    | .file content _ => !content.isEmpty
    | .directory => true
  | "-x" => some fun node =>
    match node with
    | .file _ mode => mode &&& 0o111 ≠ 0
    | .directory => true
  | "-L" | "-h" | "-p" | "-S" | "-b" | "-c" | "-u" | "-g" | "-k" => some fun _ => false
  | _ => none

/-- The comparisons of numbers. -/
def comparison? (operator : String) : Option (Int → Int → Bool) :=
  match operator with
  | "-eq" => some fun a b => a = b
  | "-ne" => some fun a b => a ≠ b
  | "-lt" => some fun a b => a < b
  | "-le" => some fun a b => a ≤ b
  | "-gt" => some fun a b => b < a
  | "-ge" => some fun a b => b ≤ a
  | _ => none

/-- The comparisons of texts. -/
def likeness? (operator : String) : Option (String → String → Bool) :=
  match operator with
  | "=" => some fun a b => a = b
  | "!=" => some fun a b => a ≠ b
  | "<" => some fun a b => a < b
  | ">" => some fun a b => b < a
  | _ => none

/-- The comparisons of files. -/
def kinship? (files : Tree) (operator : String) : Option (String → String → Bool) :=
  match operator with
  | "-ef" => some fun a b =>
    match files.locate a, files.locate b with
    | .ok first, .ok second => first = second && (files.at? first).isSome
    | _, _ => false
  | "-nt" | "-ot" => some fun _ _ => false
  | _ => none

/-- Whether an operator stands between two texts. -/
def isBinary (operator : String) : Bool :=
  (comparison? operator).isSome || (likeness? operator).isSome ||
    ["-ef", "-nt", "-ot"].contains operator

/-- Whether an operator asks about one text. -/
def isUnary (operator : String) : Bool :=
  ["-n", "-z", "-t"].contains operator || (aboutNode? operator).isSome

/-- The largest number that a test can compare. -/
def numberLimit : Nat := 0x7fffffffffffffff

/-- The number that a text is. -/
def numberIn (text : String) : Except Misuse Int :=
  let inside := Text.trim (fun c => c = ' ' || c = '\t' || c = '\n') text.toList
  let (negative, digits) := match inside with
    | '-' :: rest => (true, rest)
    | '+' :: rest => (false, rest)
    | rest => (false, rest)
  match Arithmetic.natural? 10 digits with
  | some n =>
    if n ≤ numberLimit then .ok (if negative then -(n : Int) else n) else .error (.noNumber text)
  | none => .error (.noNumber text)

/-- The answer to a question about one text. -/
def unary (files : Tree) (operator text : String) : Except Misuse Bool :=
  match operator with
  | "-n" => .ok (!text.isEmpty)
  | "-z" => .ok text.isEmpty
  | "-t" => (numberIn text).map fun _ => false
  | _ =>
    match aboutNode? operator, nodeAt files text with
    | some holds, .ok node => .ok (holds node)
    | _, _ => .ok false

/-- The answer to a comparison. -/
def binary (files : Tree) (operator a b : String) : Except Misuse Bool :=
  match likeness? operator, comparison? operator, kinship? files operator with
  | some holds, _, _ | none, none, some holds => .ok (holds a b)
  | none, some holds, _ => do
    let m ← numberIn a
    let n ← numberIn b
    .ok (holds m n)
  | none, none, none => .error (.unexpected operator)

/-- What the first of some words is taken for. -/
inductive Role where
  | nothing
  | operand
  | unary
  | binary
  | negation
  | both
  | either
  | opening
  | closing
  deriving DecidableEq, Repr, Inhabited

/-- What the first of some words is taken for. An operator without anything to ask about is an
operand itself. -/
def roleOf : List String → Role
  | [] => .nothing
  | word :: rest =>
    if isUnary word then
      match rest with
      | [] => .operand
      | [_] => .unary
      | next :: _ => if isBinary next then .operand else .unary
    else if isBinary word then .binary
    else
      match word with
      | "!" => .negation
      | "-a" => .both
      | "-o" => .either
      | "(" => if rest.isEmpty then .operand else .opening
      | ")" => .closing
      | _ => .operand

mutual

/-- Tests of which one has to hold, and the words behind them. `role` is what the first word is
taken for. -/
def either (files : Tree) : Nat → Role → List String → Except Misuse (Bool × List String)
  | 0, _, words => .ok (false, words)
  | fuel + 1, role, words => do
    let (left, rest) ← both files fuel role words
    if roleOf rest = .either then
      let (right, rest) ← either files fuel (roleOf rest.tail) rest.tail
      .ok (left || right, rest)
    else .ok (left, rest)

/-- Tests that all have to hold, and the words behind them. -/
def both (files : Tree) : Nat → Role → List String → Except Misuse (Bool × List String)
  | 0, _, words => .ok (false, words)
  | fuel + 1, role, words => do
    let (left, rest) ← negated files fuel role words
    if roleOf rest = .both then
      let (right, rest) ← both files fuel (roleOf rest.tail) rest.tail
      .ok (left && right, rest)
    else .ok (left, rest)

/-- A test that may be turned round, and the words behind it. -/
def negated (files : Tree) : Nat → Role → List String → Except Misuse (Bool × List String)
  | 0, _, words => .ok (false, words)
  | fuel + 1, role, words =>
    if role = .negation then do
      let (answer, rest) ← negated files fuel (roleOf words.tail) words.tail
      .ok (!answer, rest)
    else single files fuel role words

/-- A single test, and the words behind it. -/
def single (files : Tree) : Nat → Role → List String → Except Misuse (Bool × List String)
  | 0, _, words => .ok (false, words)
  | fuel + 1, role, words =>
    match role, words with
    | .nothing, _ | _, [] => .ok (false, words)
    | .opening, _ :: inside =>
      if roleOf inside = .closing then .ok (false, inside.tail)
      else do
        let (answer, rest) ← either files fuel (roleOf inside) inside
        if roleOf rest = .closing then .ok (answer, rest.tail) else .error .open_
    | .unary, operator :: text :: rest =>
      (unary files operator text).map fun answer => (answer, rest)
    | .unary, [operator] => .error (.wanting operator)
    | _, word :: rest =>
      match rest with
      | operator :: others =>
        if roleOf rest = .binary then
          match others with
          | [] => .error (.wanting operator)
          | other :: rest =>
            (binary files operator word other).map fun answer => (answer, rest)
        else .ok (!word.isEmpty, rest)
      | [] => .ok (!word.isEmpty, [])

end

/-- The answer to a test whose first word is taken for something; nothing may stand behind it. -/
def answerFrom (files : Tree) (role : Role) (words : List String) : Except Misuse Bool := do
  let (answer, rest) ← either files (4 * words.length + 4) role words
  match rest with
  | [] => .ok answer
  | _ :: _ =>
    .error (.unexpected ((words[words.length - rest.length - 1]?).getD ""))

/-- The answer to a whole test. No words at all are a test that fails. Where the number of words
leaves only one meaning, the test has that. -/
def answer (files : Tree) : List String → Except Misuse Bool
  | [] => .ok false
  | words@(first :: rest) =>
    let counted := words.length = 3 || words.length = 4
    if words.length = 3 && isBinary (rest.headD "") then answerFrom files .operand words
    else if counted && first = "(" && words.getLast? = some ")" then
      answerFrom files (roleOf rest.dropLast) rest.dropLast
    else if counted && first = "!" then (answer files rest).map (!·)
    else answerFrom files (roleOf words) words

end ConsoleKeeper.Shell.Testing
