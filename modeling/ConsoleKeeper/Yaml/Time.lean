import ConsoleKeeper.Number.Decimal
import ConsoleKeeper.Yaml.Trouble

/-!
# `ConsoleKeeper.Yaml.Time`: days and times

A time is a day of the calendar with an optional time of the day and an optional distance from the
common time. A newline at the end of the text belongs to no part of it.

A plain scalar is a time if it `looksLikeTime`: a day without a time has to have two digits for the
month and two for the day. `checkTime` reads what is said to be a time, which may have fewer.
-/

set_option autoImplicit false

namespace ConsoleKeeper.Yaml

/-- The digits at the start of a text, at least `least` and at most `most` of them, and the rest. -/
def takeDigits (least most : Nat) (cs : List Char) : Option (Nat × List Char) :=
  let ds := (cs.take most).takeWhile Char.isDigit
  if ds.length < least then none else some (digitsValue ds, cs.drop ds.length)

/-- Takes one character that satisfies `p`. -/
def takeChar (p : Char → Bool) : List Char → Option (List Char)
  | c :: rest => if p c then some rest else none
  | [] => none

/-- Whether a character is a blank between the parts of a time. -/
def isTimeBlank (c : Char) : Bool :=
  c = ' ' || c = '\t'

/-- A day of the calendar. -/
structure Day where
  year : Nat
  month : Nat
  day : Nat

/-- Whether a year has a day more than others. -/
def isLeap (year : Nat) : Bool :=
  year % 4 = 0 && (year % 100 ≠ 0 || year % 400 = 0)

/-- Whether the calendar has a day. -/
def Day.exists (d : Day) : Bool :=
  let days := match d.month with
    | 2 => if isLeap d.year then 29 else 28
    | 4 | 6 | 9 | 11 => 30
    | _ => 31
  1 ≤ d.year && 1 ≤ d.month && d.month ≤ 12 && 1 ≤ d.day && d.day ≤ days

/-- A day at the start of a text, with as many digits as given at least for month and day. -/
def takeDay (least : Nat) (cs : List Char) : Option (Day × List Char) := do
  let (year, cs) ← takeDigits 4 4 cs
  let cs ← takeChar (· = '-') cs
  let (month, cs) ← takeDigits least 2 cs
  let cs ← takeChar (· = '-') cs
  let (day, cs) ← takeDigits least 2 cs
  some (⟨year, month, day⟩, cs)

/-- A distance from the common time at the end of a text: whether it is one, and is below a day. -/
def zone? (text : List Char) : Option Bool :=
  match text.dropWhile isTimeBlank with
  | [] => if text.isEmpty then some true else none
  | ['Z'] => some true
  | sign :: cs =>
    if sign = '+' || sign = '-' then
      match takeDigits 1 2 cs with
      | some (hours, []) => some (decide (hours < 24))
      | some (hours, ':' :: cs) =>
        match takeDigits 2 2 cs with
        | some (minutes, []) => some (decide (hours * 60 + minutes < 24 * 60))
        | _ => none
      | _ => none
    else none

/-- The rest of a text behind what stands between a day and a time of the day. -/
def takeGap : List Char → Option (List Char)
  | c :: rest =>
    if c = 'T' || c = 't' then some rest
    else if isTimeBlank c then some (rest.dropWhile isTimeBlank)
    else none
  | [] => none

/-- Whether a text is a time of the day with what stands in front of it, and if it is, whether there
is such a time. -/
def clock? (cs : List Char) : Option Bool := do
  let cs ← takeGap cs
  let (hour, cs) ← takeDigits 1 2 cs
  let cs ← takeChar (· = ':') cs
  let (minute, cs) ← takeDigits 2 2 cs
  let cs ← takeChar (· = ':') cs
  let (second, cs) ← takeDigits 2 2 cs
  let cs := match cs with
    | '.' :: rest => rest.dropWhile Char.isDigit
    | _ => cs
  let inZone ← zone? cs
  some (hour < 24 && minute < 60 && second < 60 && inZone)

/-- A text without a newline at its end. -/
def dropNewline (cs : List Char) : List Char :=
  if cs.getLast? = some '\n' then cs.dropLast else cs

/-- Whether a text that has no newline at its end is a plain scalar's time. -/
def looksLikeTime (cs : List Char) : Bool :=
  match takeDay 2 cs with
  | some (_, []) => true
  | _ =>
    match takeDay 1 cs with
    | some (_, rest) => (clock? rest).isSome
    | none => false

/-- Checks that a text is a time, and that there is such a time. -/
def checkTime (text : List Char) : Reading Unit :=
  match takeDay 1 (dropNewline text) with
  | some (day, []) => if day.exists then .ok () else .failed .badArgument
  | some (day, rest) =>
    match clock? rest with
    | some isTime => if day.exists && isTime then .ok () else .failed .badArgument
    | none => .failed .noMember
  | none => .failed .noMember

end ConsoleKeeper.Yaml
