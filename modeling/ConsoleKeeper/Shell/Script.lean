import ConsoleKeeper.Shell.Token

/-!
# `ConsoleKeeper.Shell.Script`: the clauses of a script

`Script.ofText` reads a script line by line. A script with a fault keeps the clauses of the lines
before it, since those are carried out before the fault is met.

The functions that read clauses call each other; a number that falls with each call bounds them, and
the number of tokens is always enough.
-/

set_option autoImplicit false

namespace ConsoleKeeper.Shell

/-- A reader of tokens. It fails with a fault and the number of its line, if that is not the last.
-/
abbrev Parse (α : Type) := StateT (List Token) (Except (Fault × Option Nat)) α

namespace Parse

/-- The next token, which stays. -/
def next? : Parse (Option Token) :=
  fun tokens => .ok (tokens.head?, tokens)

/-- Passes a token. -/
def pass : Parse Unit :=
  fun tokens => .ok ((), tokens.tail)

/-- The words that end a list of clauses. -/
def closers : List String :=
  ["then", "else", "elif", "fi", "do", "done", "esac", "\x7d"]

/-- The words that have a meaning where a command can stand. -/
def keywords : List String :=
  closers ++ ["!", "\x7b", "case", "for", "if", "in", "until", "while"]

/-- A sign or a keyword as it is shown. -/
def shown (text : String) : String :=
  "\"" ++ text ++ "\""

/-- The fault of a token that cannot stand where it is. -/
def faultAt : Option Token → Fault
  | none => .unexpectedEnd
  | some token =>
    match token.lexeme with
    | .fault fault => fault
    | .newline => .unexpected (some "newline") none
    | .operator sign => .unexpected (some (shown sign)) none
    | .channel _ => .unexpected (some "redirection") none
    | .word word =>
      match word.bare? with
      | some text => .unexpected (some (if keywords.contains text then shown text else "word")) none
      | none => .unexpected (some "word") none

/-- Fails at the next token. -/
def fail {α : Type} (fault : Fault) : Parse α :=
  fun tokens => .error (fault, tokens.head?.map (·.line))

/-- Refuses the next token. -/
def refuse {α : Type} : Parse α := do
  fail (faultAt (← next?))

/-- Refuses the next token, where only one thing could stand. -/
def refuseFor {α : Type} (wanted : String) : Parse α := do
  fail ((faultAt (← next?)).wanting wanted)

/-- Passes the ends of lines. -/
def skipLines : Parse Unit :=
  fun tokens => .ok ((), tokens.dropWhile fun token => token.lexeme = .newline)

/-- Passes an operator if it is the next token. -/
def takes (sign : String) : Parse Bool :=
  fun tokens =>
    match tokens with
    | ⟨.operator s, _⟩ :: rest => if s = sign then .ok (true, rest) else .ok (false, tokens)
    | _ => .ok (false, tokens)

/-- The unquoted text of a token. -/
def bare? (token : Token) : Option String :=
  match token.lexeme with
  | .word word => word.bare?
  | _ => none

/-- Passes a word that is the given text, if it is the next token. -/
def takesWord (text : String) : Parse Bool :=
  fun tokens =>
    match tokens with
    | token :: rest => if bare? token = some text then .ok (true, rest) else .ok (false, tokens)
    | [] => .ok (false, tokens)

/-- Passes an operator, which has to come. -/
def expect (sign : String) : Parse Unit := do
  if ← takes sign then pure () else refuseFor (shown sign)

/-- Passes a word that is the given text, which has to come. -/
def expectWord (text : String) : Parse Unit := do
  if ← takesWord text then pure () else refuseFor (shown text)

/-- Passes a word and gives it. -/
def takeWord : Parse Word := do
  match ← next? with
  | some ⟨.word word, _⟩ =>
    pass
    pure word
  | _ => refuse

/-- Whether a list of clauses ends here. -/
def atListEnd : Parse Bool := do
  match ← next? with
  | none => pure true
  | some token =>
    match token.lexeme with
    | .operator sign => pure (sign = ")" || sign = ";;")
    | _ => pure ((bare? token).any closers.contains)

/-- Passes what separates two clauses, and says whether the first runs in the background. -/
def separator? : Parse (Option Bool) := do
  if ← takes ";" then pure (some false)
  else if ← takes "&" then pure (some true)
  else
    match ← next? with
    | some ⟨.newline, _⟩ =>
      pass
      pure (some false)
    | _ => pure none

/-- The route that an operator stands for, with the channel that it is about by default. -/
def routeOf? : String → Option (Nat × Route)
  | "<" | "<>" => some (0, .source)
  | ">" | ">|" => some (1, .fresh)
  | ">>" => some (1, .behind)
  | "<&" => some (0, .same)
  | ">&" => some (1, .same)
  | "<<" => some (0, .given)
  | _ => none

/-- The redirections that come next. `fuel` bounds their number. -/
def redirections : Nat → Parse (List Redirection)
  | 0 => pure []
  | fuel + 1 => do
    let redirect (channel : Option Nat) (sign : String) : Parse (Option Redirection) := do
      match routeOf? sign with
      | none => if channel.isSome then refuse else pure none
      | some (usual, route) =>
        pass
        let target ← takeWord
        pure (some { channel := channel.getD usual, route, target })
    let found ← match ← next? with
      | some ⟨.channel n, _⟩ => do
        pass
        match ← next? with
        | some ⟨.operator sign, _⟩ => redirect (some n) sign
        | _ => refuse
      | some ⟨.operator sign, _⟩ => redirect none sign
      | _ => pure none
    match found with
    | none => pure []
    | some first =>
      let rest ← redirections fuel
      pure (first :: rest)

/-- What a command is made of, as far as it was read, in reverse. -/
structure Draft where
  assignments : List (String × Word) := []
  words : List Word := []
  redirections : List Redirection := []

/-- Reads the words, assignments and redirections of a command. `fuel` bounds their number. -/
def draftFrom : Nat → Draft → Parse Draft
  | 0, draft => pure draft
  | fuel + 1, draft => do
    match ← next? with
    | some ⟨.word word, _⟩ =>
      pass
      match draft.words, word.assignment? with
      | [], some assignment =>
        draftFrom fuel { draft with assignments := assignment :: draft.assignments }
      | _, _ => draftFrom fuel { draft with words := word :: draft.words }
    | some ⟨.fault fault, _⟩ => fail fault
    | some ⟨.newline, _⟩ | none => pure draft
    | some _ =>
      let found ← redirections 1
      if found.isEmpty then pure draft
      else draftFrom fuel { draft with redirections := found.reverse ++ draft.redirections }

/-- A command without clauses inside it. -/
def simple (fuel : Nat) : Parse Clause := do
  let line := ((← next?).map (·.line)).getD 0
  let draft ← draftFrom fuel {}
  if draft.assignments.isEmpty && draft.words.isEmpty && draft.redirections.isEmpty then refuse
  else
    pure (.simple line draft.assignments.reverse draft.words.reverse draft.redirections.reverse)

/-- A clause with the redirections that follow it. -/
def withRedirections (fuel : Nat) (body : Clause) : Parse Clause := do
  let found ← redirections fuel
  pure (if found.isEmpty then body else .redirected body found)

/-- The words up to the end of a line. -/
def wordsFrom : Nat → Parse (List Word)
  | 0 => pure []
  | fuel + 1 => do
    match ← next? with
    | some ⟨.word word, _⟩ =>
      pass
      let rest ← wordsFrom fuel
      pure (word :: rest)
    | _ => pure []

/-- Patterns with bars between them. -/
def patternsFrom : Nat → Parse (List Word)
  | 0 => refuse
  | fuel + 1 => do
    let first ← do
      if (← next?).isNone then refuseFor (shown ")") else takeWord
    if ← takes "|" then
      let rest ← patternsFrom fuel
      pure (first :: rest)
    else pure [first]

/-- The name that a definition begins with, if one comes. -/
def definition? : Parse (Option String) := do
  match ← (get : Parse (List Token)) with
  | ⟨.word word, _⟩ :: ⟨.operator "(", _⟩ :: rest =>
    if word.assignment?.isSome then pure none
    else
      set rest
      expect ")"
      let name := word.bare?.getD ""
      if isName name.toList && !specialCommands.contains name then pure (some name)
      else fail .badFunctionName
  | _ => pure none

mutual

/-- Clauses up to something that ends a list. -/
def clauses : Nat → Bool → Parse Clause
  | 0, _ => refuse
  | fuel + 1, mayBeEmpty => do
    skipLines
    if (← next?).isNone then pure .nothing
    else if ← atListEnd then
      if mayBeEmpty then pure .nothing else refuse
    else
      let first ← conjunction fuel
      match ← separator? with
      | none => pure first
      | some apart =>
        let rest ← clauses fuel true
        pure (.sequence (if apart then .background first else first) rest)

/-- Pipelines joined by their success or failure. -/
def conjunction : Nat → Parse Clause
  | 0 => refuse
  | fuel + 1 => do
    let first ← pipeline fuel
    conjunctionAfter fuel first

/-- What is joined to a clause by its success or failure. -/
def conjunctionAfter : Nat → Clause → Parse Clause
  | 0, _ => refuse
  | fuel + 1, left => do
    if ← takes "&&" then
      skipLines
      let right ← pipeline fuel
      conjunctionAfter fuel (.andThen left right)
    else if ← takes "||" then
      skipLines
      let right ← pipeline fuel
      conjunctionAfter fuel (.orElse left right)
    else pure left

/-- Commands of which each reads what the one before it writes. -/
def pipeline : Nat → Parse Clause
  | 0 => refuse
  | fuel + 1 => do
    if ← takesWord "!" then
      let first ← command fuel
      let body ← pipelineAfter fuel first
      pure (.negated body)
    else
      let first ← command fuel
      pipelineAfter fuel first

/-- What reads the output of a clause. -/
def pipelineAfter : Nat → Clause → Parse Clause
  | 0, _ => refuse
  | fuel + 1, left => do
    if ← takes "|" then
      skipLines
      let right ← command fuel
      pipelineAfter fuel (.pipe left right)
    else pure left

/-- A command. -/
def command : Nat → Parse Clause
  | 0 => refuse
  | fuel + 1 => do
    if ← takes "(" then
      let body ← clauses fuel false
      expect ")"
      withRedirections fuel (.subshell body)
    else if ← takesWord "\x7b" then
      let body ← clauses fuel false
      expectWord "\x7d"
      withRedirections fuel body
    else if ← takesWord "if" then
      let body ← choice fuel
      withRedirections fuel body
    else if ← takesWord "while" then
      let body ← loop fuel true
      withRedirections fuel body
    else if ← takesWord "until" then
      let body ← loop fuel false
      withRedirections fuel body
    else if ← takesWord "for" then
      let body ← each fuel
      withRedirections fuel body
    else if ← takesWord "case" then
      let subject ← do
        match ← next? with
        | some ⟨.word _, _⟩ => takeWord
        | _ => refuseFor "word"
      skipLines
      expectWord "in"
      skipLines
      let branches ← branches fuel
      withRedirections fuel (.cases subject branches)
    else
      match ← definition? with
      | some name =>
        skipLines
        let body ← command fuel
        pure (.define name body)
      | none =>
        -- A keyword that opens nothing cannot begin a command.
        if ((← next?).bind bare?).any keywords.contains then refuse else simple fuel

/-- What follows the word that begins a choice. -/
def choice : Nat → Parse Clause
  | 0 => refuse
  | fuel + 1 => do
    let condition ← clauses fuel false
    expectWord "then"
    let accepted ← clauses fuel false
    if ← takesWord "elif" then
      let refused ← choice fuel
      pure (.choice condition accepted refused)
    else if ← takesWord "else" then
      let refused ← clauses fuel false
      expectWord "fi"
      pure (.choice condition accepted refused)
    else
      expectWord "fi"
      pure (.choice condition accepted .nothing)

/-- What follows the word that begins a loop. -/
def loop : Nat → Bool → Parse Clause
  | 0, _ => refuse
  | fuel + 1, goOn => do
    let condition ← clauses fuel false
    expectWord "do"
    let body ← clauses fuel false
    expectWord "done"
    pure (.loop goOn condition body)

/-- What follows the word that begins a loop over words. -/
def each : Nat → Parse Clause
  | 0 => refuse
  | fuel + 1 => do
    match (← next?).bind bare? with
    | none => fail .badLoopName
    | some name =>
      if isName name.toList then pass else fail .badLoopName
      skipLines
      let items ← do
        if ← takesWord "in" then
          let items ← wordsFrom fuel
          match ← separator? with
          | some false => pure (some items)
          | _ => refuse
        else
          let _ ← takes ";"
          pure none
      skipLines
      expectWord "do"
      let body ← clauses fuel false
      expectWord "done"
      pure (.each name items body)

/-- The branches of a choice by patterns. -/
def branches : Nat → Parse (List (List Word × Clause))
  | 0 => refuse
  | fuel + 1 => do
    skipLines
    if ← takesWord "esac" then pure []
    else
      let _ ← takes "("
      let patterns ← patternsFrom fuel
      expect ")"
      let body ← clauses fuel true
      if ← takes ";;" then
        let rest ← branches fuel
        pure ((patterns, body) :: rest)
      else
        skipLines
        if ← takesWord "esac" then pure [(patterns, body)] else refuseFor (shown ";;")

end

/-- The clauses of a line. -/
def line : Nat → Parse Clause
  | 0 => refuse
  | fuel + 1 => do
    let first ← conjunction fuel
    match ← next? with
    | none => pure first
    | some ⟨.newline, _⟩ => pure first
    | some _ =>
      match ← separator? with
      | none => refuse
      | some apart =>
        let first := if apart then .background first else first
        match ← next? with
        | none => pure first
        | some ⟨.newline, _⟩ => pure first
        | some _ =>
          let rest ← line fuel
          pure (.sequence first rest)

end Parse

/-- A script: the clauses of its lines, and the fault behind them, with the number of its line. -/
structure Script where
  lines : List Clause
  fault : Option (Nat × Fault) := none
  deriving Inhabited

namespace Script

/-- The script of tokens. `last` is the number of the last line, and `fuel` bounds the number of
lines. -/
def ofTokens (last : Nat) : Nat → List Token → Script
  | 0, _ => { lines := [] }
  | fuel + 1, tokens =>
    match tokens.dropWhile fun token => token.lexeme = .newline with
    | [] => { lines := [] }
    | first :: rest =>
      match (Parse.line (8 * tokens.length + 8)).run (first :: rest) with
      | .error (fault, line?) => { lines := [], fault := some (line?.getD last, fault) }
      | .ok (clause, rest) =>
        let script := ofTokens last fuel rest
        { script with lines := clause :: script.lines }

/-- The script that a text is. -/
def ofText (text : List Char) : Script :=
  let tokens := tokens text
  ofTokens (text.count '\n' + 1) (tokens.length + 1) tokens

end Script

end ConsoleKeeper.Shell
