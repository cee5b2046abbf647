import ConsoleKeeper.Journal.Writing

/-!
# `ConsoleKeeper.Journal.Calling`: making a record by a word

A part of the operator makes a record by a word for its level, what happened, and fields. Other
words ask a log for something and make no record. What comes with a word has to fit it.

A word with an `a` in front makes its record later, after everything that is looked at here.

The operator's own events become records in `Journal.Writing`. Calls by a word are for the other
parts of a program, which share the log with the operator. What they write obeys the same threshold,
as `Proofs.Journal.Calling` shows.
-/

set_option autoImplicit false

namespace ConsoleKeeper

/-- What a word asks of a log. -/
inductive LogWord where
  /-- A record at a level, which shows the present error if `traced`. -/
  | record (level : Level) (traced : Bool)
  /-- A record below all levels, which no log can write. -/
  | lowest
  /-- A record at a level that is given by its weight. -/
  | weighed
  /-- The answer whether a weight is written. -/
  | asksWeight
  /-- A log that binds other fields, or the least weight. Nothing comes to these without a name. -/
  | named
  /-- A log that binds fewer fields; those have to be bound if `strict`. -/
  | unbinds (strict : Bool)
  /-- A part of the log that is no action. -/
  | inert
  deriving DecidableEq, Repr, Inhabited

namespace LogWord

/-- The words for records at a level. -/
def levelWords : List (String × LogWord) :=
  [("debug", record .debug false), ("info", record .info false), ("msg", record .info false),
    ("warning", record .warning false), ("warn", record .warning false),
    ("error", record .error false), ("exception", record .error true),
    ("critical", record .critical false), ("fatal", record .critical false), ("notset", lowest),
    ("log", weighed)]

/-- The words for anything else. -/
def otherWords : List (String × LogWord) :=
  [("is_enabled_for", asksWeight), ("get_effective_level", named), ("bind", named), ("new", named),
    ("unbind", unbinds true), ("try_unbind", unbinds false), ("_logger", inert),
    ("_processors", inert), ("_context", inert)]

/-- What a word asks, and whether it does so later. -/
def ofWord? (word : String) : Option (LogWord × Bool) :=
  match (levelWords ++ otherWords).lookup word with
  | some asked => some (asked, false)
  | none =>
    match word.toList with
    | 'a' :: rest => (levelWords.lookup (String.ofList rest)).map fun asked => (asked, true)
    | _ => none

end LogWord

/-- What is said to a log by a word. -/
structure LogCall where
  /-- What comes without a name. -/
  subject : Data
  fields : Fields

namespace LogCall

/-- Whether a field has one of some names. -/
def hasAny (call : LogCall) (names : List String) : Bool :=
  names.any call.fields.has

/-- The fields of a record with the request to show the present error, if none came with it. -/
def tracedFields (call : LogCall) : Fields :=
  call.fields.setDefault "exc_info" (.bool true)

/-- The record at a level, if it is written. -/
def noteAt (threshold : Nat) (bound : Fields) (level : Level) (event : Data) (fields : Fields) :
    Except Failure (Option Note) :=
  if level.weight < threshold then .ok none
  else if fields.has "method_name" then .error .wrongKind
  else .ok (some { level, event, bound, fields })

/-- The weight that a value is. -/
def weight? : Data → Option Binary64
  | .int n => some (Binary64.ofInt n)
  | .float x => some x
  | .bool b => some (Binary64.ofInt (if b then 1 else 0))
  | _ => none

/-- Whether a weight is below a threshold; what is no number is below nothing. -/
def isBelow (weight : Binary64) (threshold : Nat) : Bool :=
  match weight.toRatio? with
  | some (n, d) => n < (threshold * d : Nat)
  | none => weight == .infinite true

/-- The level with a weight. -/
def levelOf? (weight : Binary64) : Option Level :=
  [Level.debug, .info, .warning, .error, .critical].find? fun level =>
    weight == Binary64.ofInt level.weight

/-- The record at the level whose weight comes without a name. What happened comes with one. -/
def weighed (threshold : Nat) (bound : Fields) (call : LogCall) : Except Failure (Option Note) :=
  match call.fields.get? "event", weight? call.subject with
  | some event, some weight =>
    let fields := call.fields.erase "event"
    if call.hasAny ["self", "level"] then .error .wrongKind
    else if isBelow weight threshold then .ok none
    else if weight.isZero then .error .noMember
    else
      match levelOf? weight with
      | some level => noteAt threshold bound level event fields
      | none => .error .noKey
  | _, _ => .error .wrongKind

/-- Whether a field is bound that comes without a name. -/
def isBound (bound : Fields) (subject : Data) : Except Failure Bool :=
  match subject with
  | .text name => .ok (bound.has name)
  | .list _ | .object _ => .error .wrongKind
  | _ => .ok false

/-- The record that a call makes by a word, if it makes one that is written. -/
def note? (threshold : Nat) (bound : Fields) (call : LogCall) : LogWord →
    Except Failure (Option Note)
  | .record level traced =>
    if call.hasAny ["self", "event"] then .error .wrongKind
    else
      noteAt threshold bound level call.subject
        (if traced then call.tracedFields else call.fields)
  | .lowest =>
    if call.hasAny ["self", "event"] then .error .wrongKind
    else if Level.noWeight < threshold then .ok none
    else .error .noMember
  | .weighed => weighed threshold bound call
  | .asksWeight =>
    if call.fields.isEmpty && (weight? call.subject).isSome then .ok none else .error .wrongKind
  | .named | .inert => .error .wrongKind
  | .unbinds strict =>
    if !call.fields.isEmpty then .error .wrongKind
    else do
      let found ← isBound bound call.subject
      if strict && !found then .error .noKey else .ok none

/-- Whether what comes with a word that makes its record later fits it. -/
def checkLater (call : LogCall) : LogWord → Except Failure Unit
  | .weighed =>
    if call.fields.has "event" && !call.hasAny ["self", "level"] then .ok ()
    else .error .wrongKind
  | _ => if call.hasAny ["self", "event"] then .error .wrongKind else .ok ()

/-- The record that a call makes by a word. A log has to know the word. -/
def note (threshold : Nat) (bound : Fields) (word : String) (call : LogCall) :
    Except Failure (Option Note) :=
  match LogWord.ofWord? word with
  | none => .error .noMember
  | some (asked, true) => (call.checkLater asked).map fun _ => none
  | some (asked, false) => call.note? threshold bound asked

end LogCall

end ConsoleKeeper
