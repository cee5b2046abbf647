import ConsoleKeeper.Shell.Basic
import ConsoleKeeper.Text.Split

/-!
# `ConsoleKeeper.Shell.Arithmetic`: numbers worked out in scripts

An expression joins whole numbers and variables with the usual operators; a test has the value one
or zero. Numbers have 64 bits and a sign. An assignment inside an expression is part of the outcome.
-/

set_option autoImplicit false

namespace ConsoleKeeper.Shell.Arithmetic

/-- Why an expression has no value. -/
inductive Flaw where
  | malformed
  /-- Something stands behind a whole expression. -/
  | trailing
  | divisionByZero
  | noNumber (text : String)
  deriving DecidableEq, Repr, Inhabited

/-- A piece of an expression. -/
inductive Piece where
  | number (n : Int)
  | name (name : String)
  | operator (sign : String)
  deriving DecidableEq, Repr, Inhabited

/-- The value of a digit up to base sixteen. -/
def digit? (base : Nat) (c : Char) : Option Nat :=
  let n := c.toNat
  let value :=
    if c.isDigit then n - 48
    else if 'a' ≤ c && c ≤ 'f' then n - 87
    else if 'A' ≤ c && c ≤ 'F' then n - 55
    else 99
  if value < base then some value else none

/-- The number that digits stand for. -/
def natural? (base : Nat) (digits : List Char) : Option Nat :=
  if digits.isEmpty then none
  else digits.foldlM (fun n c => (digit? base c).map fun d => n * base + d) 0

/-- The number that a text stands for: with sixteen as its base behind `0x`, with eight behind `0`.
-/
def constant? (text : List Char) : Option Nat :=
  match text with
  | '0' :: 'x' :: rest | '0' :: 'X' :: rest => natural? 16 rest
  | '0' :: rest => if rest.isEmpty then some 0 else natural? 8 rest
  | digits => natural? 10 digits

/-- A number in 64 bits. -/
def wrapped (n : Int) : Int :=
  Int.bmod n 0x10000000000000000

/-- The number that a text stands for, which may have a sign and blanks around it. -/
def integer? (text : List Char) : Option Int :=
  let inside := Text.trim (fun c => c = ' ' || c = '\t' || c = '\n') text
  match inside with
  | '-' :: rest => (constant? rest).map fun n => -(n : Int)
  | '+' :: rest => (constant? rest).map fun n => (n : Int)
  | rest => (constant? rest).map fun n => (n : Int)

/-- The operators, the longer ones first. -/
def signs : List String :=
  ["<<=", ">>=", "&&", "||", "<=", ">=", "==", "!=", "<<", ">>", "+=", "-=", "*=", "/=", "%=", "&=",
    "|=", "^=", "+", "-", "*", "/", "%", "(", ")", "<", ">", "!", "~", "&", "|", "^", "?", ":", "=",
    ","]

/-- The pieces of an expression. `fuel` bounds their number. -/
def piecesFrom : Nat → List Char → Except Flaw (List Piece)
  | 0, _ => .ok []
  | fuel + 1, input =>
    match input with
    | [] => .ok []
    | c :: rest =>
      if c = ' ' || c = '\t' || c = '\n' then piecesFrom fuel rest
      else if c.isDigit then
        -- Letters belong to the constant, which may be hexadecimal; what is no constant then is an
        -- error.
        let run := input.takeWhile isNameChar
        match constant? run with
        | none => .error .trailing
        | some n => do
          let others ← piecesFrom fuel (input.dropWhile isNameChar)
          .ok (.number n :: others)
      else if isNameStart c then do
        let others ← piecesFrom fuel (input.dropWhile isNameChar)
        .ok (.name (String.ofList (input.takeWhile isNameChar)) :: others)
      else
        match signs.findSome? fun sign =>
          (List.isPrefixOf? sign.toList input).map fun rest => (sign, rest) with
        | none => .error .malformed
        | some (sign, rest) => do
          let others ← piecesFrom fuel rest
          .ok (.operator sign :: others)

/-- How tightly an operator between two operands binds. -/
def rank? (sign : String) : Option Nat :=
  [("||", 1), ("&&", 2), ("|", 3), ("^", 4), ("&", 5), ("==", 6), ("!=", 6), ("<", 7), (">", 7),
    ("<=", 7), (">=", 7), ("<<", 8), (">>", 8), ("+", 9), ("-", 9), ("*", 10), ("/", 10),
    ("%", 10)].lookup sign

/-- The number for a truth value. -/
def ofBool (b : Bool) : Int := if b then 1 else 0

/-- An operation on the bits of two numbers. -/
def bitwise (f : BitVec 64 → BitVec 64 → BitVec 64) (a b : Int) : Int :=
  (f (BitVec.ofInt 64 a) (BitVec.ofInt 64 b)).toInt

/-- The value of an operator between two operands. -/
def operate (sign : String) (a b : Int) : Except Flaw Int :=
  match sign with
  | "||" => .ok (ofBool (a ≠ 0 || b ≠ 0))
  | "&&" => .ok (ofBool (a ≠ 0 && b ≠ 0))
  | "|" => .ok (bitwise (· ||| ·) a b)
  | "^" => .ok (bitwise (· ^^^ ·) a b)
  | "&" => .ok (bitwise (· &&& ·) a b)
  | "==" => .ok (ofBool (a = b))
  | "!=" => .ok (ofBool (a ≠ b))
  | "<" => .ok (ofBool (a < b))
  | ">" => .ok (ofBool (a > b))
  | "<=" => .ok (ofBool (a ≤ b))
  | ">=" => .ok (ofBool (a ≥ b))
  | "<<" => .ok (wrapped (a * (Nat.pow 2 (b.toNat % 64) : Nat)))
  | ">>" => .ok (a >>> (b.toNat % 64))
  | "+" => .ok (wrapped (a + b))
  | "-" => .ok (wrapped (a - b))
  | "*" => .ok (wrapped (a * b))
  | "/" => if b = 0 then .error .divisionByZero else .ok (wrapped (Int.tdiv a b))
  | "%" => if b = 0 then .error .divisionByZero else .ok (Int.tmod a b)
  | _ => .error .malformed

/-- Variables with their values. -/
abbrev Values := List (String × String)

/-- The state of a calculation: what is left of the expression, and the variables. -/
structure Desk where
  pieces : List Piece
  values : Values
  /-- The variables that were assigned, the latest first. -/
  assigned : List (String × Int) := []

/-- A step of a calculation. -/
abbrev Calculation (α : Type) := StateT Desk (Except Flaw) α

/-- Ends a calculation without a value. -/
def flawed {α : Type} (flaw : Flaw) : Calculation α :=
  fun _ => .error flaw

/-- The value of a variable; one that is not there is zero. -/
def variable_ (name : String) : Calculation Int := do
  let desk ← get
  match desk.assigned.lookup name with
  | some n => pure n
  | none =>
    let text := (desk.values.lookup name).getD ""
    if text.isEmpty then pure 0
    else
      match integer? text.toList with
      | some n => pure (wrapped n)
      | none => flawed (.noNumber text)

/-- Gives a variable a value. -/
def assign (name : String) (n : Int) : Calculation Int := do
  modify fun desk => { desk with assigned := (name, n) :: desk.assigned }
  pure n

/-- Passes a piece. -/
def pass : Calculation Unit :=
  modify fun desk => { desk with pieces := desk.pieces.tail }

/-- The operator that comes next, which stays. -/
def next? : Calculation (Option String) := do
  match (← get).pieces with
  | .operator sign :: _ => pure (some sign)
  | _ => pure none

/-- Passes an operator, which has to come. -/
def expect (sign : String) : Calculation Unit := do
  if (← next?) = some sign then pass else flawed .malformed

/-- The name and the operation of an assignment, if one begins here. -/
def assignment? (desk : Desk) : Option (String × String) :=
  match desk.pieces with
  | .name name :: .operator "=" :: _ => some (name, "")
  | .name name :: .operator sign :: _ =>
    match List.isPrefixOf? ['='] sign.toList.reverse with
    | some operation =>
      let operation := String.ofList operation.reverse
      if ["<<", ">>", "+", "-", "*", "/", "%", "&", "|", "^"].contains operation then
        some (name, operation)
      else none
    | none => none
  | _ => none

mutual

/-- An expression with assignments and choices. -/
def whole : Nat → Calculation Int
  | 0 => flawed .malformed
  | fuel + 1 => do
    match assignment? (← get) with
    | some (name, operation) =>
      pass
      pass
      let n ← whole fuel
      if operation.isEmpty then assign name n
      else
        let before ← variable_ name
        match operate operation before n with
        | .error flaw => flawed flaw
        | .ok n => assign name n
    | none =>
      let condition ← joined fuel 1
      if (← next?) = some "?" then
        pass
        let accepted ← whole fuel
        expect ":"
        let refused ← whole fuel
        pure (if condition ≠ 0 then accepted else refused)
      else pure condition

/-- Operands joined by operators that bind at least so tightly. -/
def joined : Nat → Nat → Calculation Int
  | 0, _ => flawed .malformed
  | fuel + 1, least => do
    let first ← operand fuel
    joinedAfter fuel least first

/-- What is joined to an operand. -/
def joinedAfter : Nat → Nat → Int → Calculation Int
  | 0, _, _ => flawed .malformed
  | fuel + 1, least, left => do
    match ← next? with
    | none => pure left
    | some sign =>
      match rank? sign with
      | none => pure left
      | some rank =>
        if rank < least then pure left
        else
          pass
          let right ← joined fuel (rank + 1)
          match operate sign left right with
          | .error flaw => flawed flaw
          | .ok n => joinedAfter fuel least n

/-- An operand. -/
def operand : Nat → Calculation Int
  | 0 => flawed .malformed
  | fuel + 1 => do
    match (← get).pieces with
    | .number n :: _ =>
      pass
      pure n
    | .name name :: _ =>
      pass
      variable_ name
    | .operator "(" :: _ =>
      pass
      let n ← whole fuel
      expect ")"
      pure n
    | .operator "-" :: _ =>
      pass
      let n ← operand fuel
      pure (wrapped (-n))
    | .operator "+" :: _ =>
      pass
      operand fuel
    | .operator "!" :: _ =>
      pass
      let n ← operand fuel
      pure (ofBool (n = 0))
    | .operator "~" :: _ =>
      pass
      let n ← operand fuel
      pure (-n - 1)
    | _ => flawed .malformed

end

/-- The value of an expression, and the variables that it assigns in order. An empty expression is
zero. -/
def value (values : Values) (expression : List Char) : Except Flaw (Int × List (String × Int)) := do
  let pieces ← piecesFrom (expression.length + 1) expression
  if pieces.isEmpty then .ok (0, [])
  else
    let (n, desk) ← (whole (4 * pieces.length + 4)).run { pieces, values }
    if desk.pieces.isEmpty then .ok (n, desk.assigned.reverse) else .error .trailing

end ConsoleKeeper.Shell.Arithmetic
