import ConsoleKeeper.Shell.Word

/-!
# `ConsoleKeeper.Shell.Token`: words and operators of a script

A script is a row of words, operators and line ends. The text that a script gives as the input of a
command stands on the lines after it; here it becomes a word behind its operator.
-/

set_option autoImplicit false

namespace ConsoleKeeper.Shell

/-- What a token is. A fault stands where the rest of the script cannot be read. -/
inductive Lexeme where
  | word (word : Word)
  | operator (sign : String)
  | channel (number : Nat)
  | newline
  | fault (fault : Fault)
  deriving DecidableEq, Repr, Inhabited

/-- A token with the number of its line. -/
structure Token where
  lexeme : Lexeme
  line : Nat
  deriving DecidableEq, Repr, Inhabited

/-- The operators, the longer ones first. -/
def operators : List String :=
  ["<<-", "&&", "||", ";;", "<<", ">>", "<&", ">&", "<>", ">|", ";", "&", "|", "<", ">", "(", ")"]

/-- The operator at the start of an input, and what follows it. -/
def operatorAt? (input : List Char) : Option (String × List Char) :=
  operators.findSome? fun sign =>
    (List.isPrefixOf? sign.toList input).map fun rest => (sign, rest)

/-- Takes lines up to one that is the given text. -/
def linesUpTo (stop : List Char) (dropTabs : Bool) :
    List (List Char) → List (List Char) × List (List Char)
  | [] => ([], [])
  | line :: rest =>
    let line := if dropTabs then line.dropWhile (· = '\t') else line
    if line = stop then ([], rest)
    else
      let (inside, after) := linesUpTo stop dropTabs rest
      (line :: inside, after)

/-- The text that a script gives as an input: its word, what is left of the script without it, and
how many lines it takes. -/
def givenText (dropTabs : Bool) (input : List Char) : Except Fault (Word × List Char × Nat) := do
  let (mark, rest) ← Word.read (input.dropWhile fun c => c = ' ' || c = '\t')
  if mark.isEmpty then throw .unexpectedEnd
  let stop := (Word.plainText? mark).getD []
  let (line, below) := Text.cutFirst '\n' rest
  let (inside, after) := linesUpTo stop dropTabs (Text.splitOn '\n' (below.getD []))
  let text := inside.flatMap (· ++ ['\n'])
  let word ← if mark.isQuoted then .ok [.text text true] else Word.ofQuotedText text
  .ok (word, line ++ '\n' :: List.intercalate ['\n'] after, inside.length + 1)

/-- How many lines end in what stands before the rest of an input. -/
def linesPassed (input rest : List Char) : Nat :=
  (input.take (input.length - rest.length)).count '\n'

/-- The tokens of an input. `passed` counts the lines of given texts that are left out behind this
line. `fuel` bounds the number of tokens. -/
def tokensFrom : Nat → Nat → Nat → List Char → List Token
  | 0, _, _, _ => []
  | fuel + 1, line, passed, input =>
    match input with
    | [] => []
    | '\n' :: rest => ⟨.newline, line⟩ :: tokensFrom fuel (line + passed + 1) 0 rest
    | '\\' :: '\n' :: rest => tokensFrom fuel (line + 1) passed rest
    | c :: rest =>
      if c = ' ' || c = '\t' then tokensFrom fuel line passed rest
      else if c = '#' then tokensFrom fuel line passed (rest.dropWhile (· ≠ '\n'))
      else
        match operatorAt? input with
        | some (sign, rest) =>
          -- The text of a here-document begins on the next line, so `passed` counts its lines until
          -- then.
          if sign = "<<" || sign = "<<-" then
            match givenText (sign = "<<-") rest with
            | .error fault => [⟨.fault fault, line⟩]
            | .ok (word, rest, count) =>
              ⟨.operator "<<", line⟩ :: ⟨.word word, line⟩ ::
                tokensFrom fuel line (passed + count) rest
          else ⟨.operator sign, line⟩ :: tokensFrom fuel line passed rest
        | none =>
          match Word.read input with
          | .error fault => [⟨.fault fault, line + input.count '\n'⟩]
          | .ok (word, rest) =>
            let leads := rest.head? = some '<' || rest.head? = some '>'
            let lexeme : Lexeme :=
              match word with
              | [.text digits false] =>
                -- Digits right before a redirection say which channel is led elsewhere.
                if leads && digits.all Char.isDigit then
                  .channel (digits.foldl (fun n d => 10 * n + (d.toNat - 48)) 0)
                else .word word
              | _ => .word word
            ⟨lexeme, line⟩ :: tokensFrom fuel (line + linesPassed input rest) passed rest

/-- The tokens of a script. -/
def tokens (script : List Char) : List Token :=
  tokensFrom (script.length + 1) 1 0 script

end ConsoleKeeper.Shell
