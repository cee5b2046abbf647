import ConsoleKeeper.Failure.Operator

/-!
# `ConsoleKeeper.Failure.Given`: errors made from named arguments

An error of any kind can be made from arguments that have names. Each kind has arguments of its own,
which end up in the details. No argument is checked for what it is, so a message may be a number and
the details a list, as long as nothing has to be added to them.

`GivenError.toError` is the error that the operator reports: there everything that is shown is a
text.

The operator raises its own errors with `OperatorError.plain` and what builds on it. Errors from
named arguments are for failures that come from outside, such as one that a store is told to end a
call with. `Proofs.Failure.Given` shows that both ways lead to the same errors.
-/

set_option autoImplicit false

namespace ConsoleKeeper

/-- An error with whatever its arguments were. -/
structure GivenError where
  kind : ErrorKind
  message : Data
  code : Data
  details : Data
  /-- The arguments that are the kind's own. -/
  traits : Fields
  deriving Repr, Inhabited, BEq

namespace GivenError

/-- The names of the arguments that errors of a kind take. -/
def known (kind : ErrorKind) : List String :=
  (if kind = .emptyTag then [] else ["message"]) ++
    (if kind.hasFreeCode then ["error_code"] else []) ++
    (if kind.takesDetails then ["details"] else []) ++ kind.traits.map (·.1)

/-- The arguments of a kind's own, with their defaults. Nothing if one is wanting. -/
def traitsOf? (arguments : Fields) (kind : ErrorKind) : Option Fields :=
  kind.traits.mapM fun (name, default) =>
    match arguments.get? name, default with
    | some value, _ | none, some value => some (name, value)
    | none, none => none

/-- Details with a kind's own arguments put into them. Where there are such arguments, the details
have to be a mapping or count as nothing. -/
def detailsWith? (details : Data) (traits : Fields) : Option Data :=
  match details with
  | .object fields =>
    some (.object (traits.foldl (fun all trait => Table.put all trait.1 trait.2) fields))
  | other =>
    if other.isFalsy then some (.object traits)
    else if traits.isEmpty then some other
    else none

/-- The message among the arguments. One kind always says the same. -/
def messageIn? (arguments : Fields) (kind : ErrorKind) : Option Data :=
  if kind = .emptyTag then some (.text "failed to read existing image tag")
  else arguments.get? "message"

/-- The details among the arguments, if the kind takes any. -/
def detailsIn (arguments : Fields) (kind : ErrorKind) : Data :=
  if kind.takesDetails then Data.field arguments "details" else .null

/-- An error of a kind from named arguments. Nothing if an argument is wanting or is none of the
kind's. -/
def build? (kind : ErrorKind) (arguments : Fields) : Option GivenError :=
  if arguments.all fun a => (known kind).contains a.1 then do
    let message ← messageIn? arguments kind
    let traits ← traitsOf? arguments kind
    let details ← detailsWith? (detailsIn arguments kind) traits
    some
      { kind, message, details, traits
        code := (arguments.get? "error_code").getD (.text kind.code) }
  else none

/-- The traits that an error carries as attributes, apart from those that only its details show. -/
def attributes (e : GivenError) : Fields :=
  e.traits.filter (·.1 ≠ "image")

/-- The error as a document for a log. -/
def toFields (e : GivenError) : Fields :=
  [("error_type", .text e.kind.name), ("message", e.message), ("error_code", e.code),
    ("details", e.details)]

/-- The error in one line. -/
def literal (e : GivenError) : String :=
  let part (data : Data) : String := String.ofList data.literal
  e.kind.name ++ "(message=" ++ part e.message ++ ", error_code=" ++ part e.code ++ ", details=" ++
    part e.details ++ ")"

/-- The error that the operator reports. -/
def toError (e : GivenError) : OperatorError :=
  { kind := e.kind
    message := e.message.shown
    code := e.code.shown
    details := match e.details with
      | .object fields => fields
      | _ => []
    cause := none }

end GivenError

end ConsoleKeeper
