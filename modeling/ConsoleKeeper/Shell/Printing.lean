import ConsoleKeeper.Number.Decimal
import ConsoleKeeper.Shell.Arithmetic
import ConsoleKeeper.Text.Utf8

/-!
# `ConsoleKeeper.Shell.Printing`: text by a format

A format is text with escapes and directives. An escape stands for a byte. A directive takes an
argument and says how it is shown: as text or as a number, how wide at least, and with how many
digits. A format is used again as long as arguments are left.
-/

set_option autoImplicit false

namespace ConsoleKeeper.Shell.Printing

/-- The byte that a letter behind a backslash stands for. -/
def letterByte? (c : Char) : Option UInt8 :=
  [('a', 7), ('b', 8), ('e', 27), ('f', 12), ('n', 10), ('r', 13), ('t', 9), ('v', 11),
    ('\\', 92)].lookup c

/-- Whether a character is a digit of base eight. -/
def isOctal (c : Char) : Bool :=
  '0' ≤ c && c ≤ '7'

/-- The byte that digits of base eight stand for. -/
def octalByte (digits : List Char) : UInt8 :=
  UInt8.ofNat (digits.foldl (fun n c => 8 * n + (c.toNat - 48)) 0)

/-- What an escape stands for. -/
inductive Escape where
  | byte (b : UInt8)
  /-- Nothing further is shown. -/
  | stop
  /-- No escape: the backslash is text. -/
  | none
  deriving DecidableEq, Repr, Inhabited

/-- The escape behind a backslash, and what follows it. `zeroed` says that digits come behind a
zero, and that `c` ends the text. -/
def escapeAt (zeroed : Bool) (input : List Char) : Escape × List Char :=
  match input with
  | [] => (.none, [])
  | c :: rest =>
    let octal (digits : List Char) : Escape × List Char :=
      let run := (digits.take 3).takeWhile isOctal
      (.byte (octalByte run), digits.drop run.length)
    if zeroed && c = 'c' then (.stop, rest)
    else if zeroed && c = '0' then octal rest
    else if !zeroed && isOctal c then octal input
    else
      match letterByte? c with
      | some b => (.byte b, rest)
      | none => (.none, input)

/-- The bytes of a text with escapes, and whether one of them ends it. `fuel` bounds the number of
steps. -/
def escapedFrom : Nat → List Char → List UInt8 × Bool
  | 0, _ => ([], false)
  | fuel + 1, input =>
    match input with
    | [] => ([], false)
    | '\\' :: rest =>
      match escapeAt true rest with
      | (.stop, _) => ([], true)
      | (.byte b, rest) =>
        let (bytes, stop) := escapedFrom fuel rest
        (b :: bytes, stop)
      | (.none, rest) =>
        let (bytes, stop) := escapedFrom fuel rest
        (92 :: bytes, stop)
    | c :: rest =>
      let (bytes, stop) := escapedFrom fuel rest
      (Text.Utf8.encode [c] ++ bytes, stop)

/-- The bytes of a text with escapes, and whether one of them ends it. -/
def escaped (text : List Char) : List UInt8 × Bool :=
  escapedFrom (text.length + 1) text

/-- What arguments come to when they are shown one after the other on a line, with their escapes. -/
def echoed (arguments : List String) : List UInt8 :=
  let (newline, arguments) := match arguments with
    | "-n" :: rest => (false, rest)
    | arguments => (true, arguments)
  let (bytes, stop) := escaped (String.intercalate " " arguments).toList
  if newline && !stop then bytes ++ [10] else bytes

/-- A directive of a format. -/
structure Directive where
  left : Bool := false
  zeros : Bool := false
  plus : Bool := false
  blank : Bool := false
  alternative : Bool := false
  width : Nat := 0
  digits : Option Nat := none
  kind : Char := 's'
  deriving DecidableEq, Repr, Inhabited

namespace Directive

/-- Fills text up to the width. -/
def padded (d : Directive) (text : List UInt8) : List UInt8 :=
  let gap := List.replicate (d.width - text.length) 32
  if d.left then text ++ gap else gap ++ text

/-- Shows a number with a sign in front of its digits. -/
def number (d : Directive) (mark digits : List Char) : List UInt8 :=
  let digits := match d.digits with
    | some least => List.replicate (least - digits.length) '0' ++ digits
    | none =>
      if d.zeros && !d.left then
        List.replicate (d.width - mark.length - digits.length) '0' ++ digits
      else digits
  d.padded (Text.Utf8.encode (mark ++ digits))

/-- The sign in front of a number. -/
def mark (d : Directive) (negative : Bool) : List Char :=
  if negative then ['-'] else if d.plus then ['+'] else if d.blank then [' '] else []

end Directive

/-- The digits of a number in a base. -/
def inBase (base : Nat) (n : Nat) : List Char :=
  Nat.toDigits base n

/-- Why something cannot be shown as a format asks. -/
inductive Misfit where
  | noNumber (text : String)
  | partly (text : String)
  | tooLarge (text : String)
  | noDirective (kind : Char)
  | noKind
  deriving DecidableEq, Repr, Inhabited

namespace Misfit

/-- The words for a misfit. -/
def message : Misfit → String
  | noNumber text => text ++ ": expected numeric value"
  | partly text => text ++ ": not completely converted"
  | tooLarge text => text ++ ": Numerical result out of range"
  | noDirective kind => "%" ++ String.ofList [kind] ++ ": invalid directive"
  | noKind => "missing format character"

/-- Whether the whole command has failed. -/
def isFatal : Misfit → Bool
  | noDirective _ | noKind => true
  | noNumber _ | partly _ | tooLarge _ => false

end Misfit

/-- The digits of a whole number at the start of a text, with the base that they show. -/
def leadingDigits (text : List Char) : Nat × List Char :=
  let run (base : Nat) (digits : List Char) : List Char :=
    digits.takeWhile fun c => (Arithmetic.digit? base c).isSome
  match text with
  | '0' :: x :: rest =>
    if (x = 'x' || x = 'X') && !(run 16 rest).isEmpty then (16, run 16 rest) else (8, run 8 text)
  | '0' :: _ => (8, ['0'])
  | _ => (10, run 10 text)

/-- How many characters introduce the digits of a base. -/
def frontLength (base : Nat) : Nat :=
  if base = 16 then 2 else 0

/-- The number that an argument stands for, between a least and a greatest one, and why it is none.
A quote in front means the number of the byte behind it. -/
def numberOf (least greatest : Int) (argument : String) : Int × Option Misfit :=
  match argument.toList with
  | [] => (0, none)
  | '\'' :: c :: _ | '"' :: c :: _ => (((Text.Utf8.encode [c]).headD 0).toNat, none)
  | chars =>
    let inside := chars.dropWhile fun c => c = ' ' || c = '\t' || c = '\n'
    let (negative, body) := takeSign inside
    let (base, digits) := leadingDigits body
    if digits.isEmpty then (0, some (.noNumber argument))
    else
      let magnitude : Int := ((Arithmetic.natural? base digits).getD 0 : Nat)
      let n := if negative then -magnitude else magnitude
      let whole := frontLength base + digits.length = body.length
      if n < least then (least, some (.tooLarge argument))
      else if greatest < n then (greatest, some (.tooLarge argument))
      else (n, if whole then none else some (.partly argument))

/-- The fraction that an argument stands for, with whether it is negative, and why it is none. -/
def fractionOf (argument : String) : Bool × (Nat × Nat) × Option Misfit :=
  let chars := argument.toList
  let read (k : Nat) : Option (Bool × (Nat × Nat) × Nat) :=
    match readDecimal? (chars.take k) with
    | some x => x.toRatio?.map fun (num, den) => (num < 0, (num.natAbs, den), k)
    | none => none
  if chars.isEmpty then (false, (0, 1), none)
  else
    match (List.range (chars.length + 1)).reverse.findSome? read with
    | some (negative, ratio, k) =>
      (negative, ratio, if k = chars.length then none else some (.partly argument))
    | none => (false, (0, 1), some (.noNumber argument))

/-- A number with a fixed count of digits behind the point, the nearest one, to the even digit
between two. -/
def fixedText (places : Nat) (num den : Nat) : List Char :=
  let scaled := Binary64.nearestWhole (num * Nat.pow 10 places) den
  let digits := digitsOf scaled
  let digits := List.replicate (places + 1 - digits.length) '0' ++ digits
  let whole := digits.take (digits.length - places)
  if places = 0 then whole else whole ++ '.' :: digits.drop (digits.length - places)

/-- A number as one digit before the point, a fixed count of digits behind it, and a power of ten.
-/
def powerForm (places : Nat) (num den : Nat) : List Char × Int :=
  let exponent : Int := if num = 0 then 0 else Binary64.places num den - 1
  let scaledAt (exponent : Int) : List Char :=
    let (n, d) := Binary64.powTen 1 (places - exponent)
    digitsOf (Binary64.nearestWhole (num * n) (den * d))
  let digits := scaledAt exponent
  let (digits, exponent) := if digits.length = places + 2 then (digits.dropLast, exponent + 1)
    else (digits, exponent)
  let digits := digits ++ List.replicate (places + 1 - digits.length) '0'
  (if places = 0 then digits else digits.take 1 ++ '.' :: digits.drop 1, exponent)

/-- A power of ten behind a number. -/
def powerText (exponent : Int) : List Char :=
  let digits := digitsOf exponent.natAbs
  'e' :: (if exponent < 0 then '-' else '+') :: (List.replicate (2 - digits.length) '0' ++ digits)

/-- A number without the zeros at its end behind the point. -/
def withoutZeros (text : List Char) : List Char :=
  if text.contains '.' then
    Text.trimRight (· = '.') (Text.trimRight (· = '0') text)
  else text

/-- A number in the shorter of the two forms, with a count of digits that tell something. -/
def shorterText (count num den : Nat) : List Char :=
  let count := max 1 count
  let (digits, exponent) := powerForm (count - 1) num den
  if -4 ≤ exponent && exponent < count then
    withoutZeros (fixedText (((count : Int) - 1 - exponent).toNat) num den)
  else withoutZeros digits ++ powerText exponent

/-- A number that need not be whole, as the letter of a directive says. -/
def fractionText (kind : Char) (count num den : Nat) : List Char :=
  match kind with
  | 'f' => fixedText count num den
  | 'e' =>
    let (digits, exponent) := powerForm count num den
    digits ++ powerText exponent
  | _ => shorterText count num den

/-- An argument as a directive shows it: the bytes, why it does not fit, and whether nothing
follows. -/
structure Shown where
  bytes : List UInt8
  misfit : Option Misfit := none
  stop : Bool := false
  deriving Inhabited

/-- The greatest number with a sign, and the greatest without. -/
def greatest : Int × Int := (0x7fffffffffffffff, 0xffffffffffffffff)

/-- Shows an argument as a directive says. Nothing if there is no such directive. -/
def shown? (d : Directive) (argument : String) : Option Shown :=
  let signed : Shown :=
    let (n, misfit) := numberOf (-greatest.1 - 1) greatest.1 argument
    { bytes := d.number (d.mark (n < 0)) (digitsOf n.natAbs), misfit }
  let unsigned (base : Nat) (front : List Char) (f : Char → Char) : Shown :=
    let (n, misfit) := numberOf (-greatest.2) greatest.2 argument
    let n := (n % (greatest.2 + 1)).toNat
    -- Zero is written without the mark of its base.
    let front := if d.alternative && n ≠ 0 then front else []
    { bytes := d.number front ((inBase base n).map f), misfit }
  let cutShort (bytes : List UInt8) : List UInt8 :=
    match d.digits with
    | some k => bytes.take k
    | none => bytes
  match d.kind with
  | 's' => some { bytes := d.padded (cutShort (Text.Utf8.encode argument.toList)) }
  | 'b' =>
    let (bytes, stop) := escaped argument.toList
    some { bytes := d.padded (cutShort bytes), stop }
  | 'c' => some { bytes := d.padded (if argument.isEmpty then [0]
      else Text.Utf8.encode (argument.toList.take 1)) }
  | 'd' | 'i' => some signed
  | 'u' => some (unsigned 10 [] id)
  | 'o' => some (unsigned 8 ['0'] id)
  | 'x' => some (unsigned 16 ['0', 'x'] id)
  | 'X' => some (unsigned 16 ['0', 'X'] Char.toUpper)
  | 'f' | 'F' | 'e' | 'E' | 'g' | 'G' =>
    let (negative, (num, den), misfit) := fractionOf argument
    let text := fractionText d.kind.toLower (d.digits.getD 6) num den
    let text := if d.kind.isUpper then text.map Char.toUpper else text
    some { bytes := ({ d with digits := none } : Directive).number (d.mark negative) text, misfit }
  | _ => none

/-- A number at the start of a format, or the next argument in its place. -/
def countAt (format : List Char) (arguments : List String) : Nat × List Char × List String :=
  match format with
  | '*' :: rest => ((numberOf 0 greatest.1 (arguments.headD "")).1.toNat, rest, arguments.tail)
  | _ =>
    let digits := format.takeWhile Char.isDigit
    (digitsValue digits, format.drop digits.length, arguments)

/-- The flags at the start of a directive. -/
def flagsFrom (d : Directive) : List Char → Directive × List Char
  | '-' :: rest => flagsFrom { d with left := true } rest
  | '0' :: rest => flagsFrom { d with zeros := true } rest
  | '+' :: rest => flagsFrom { d with plus := true } rest
  | ' ' :: rest => flagsFrom { d with blank := true } rest
  | '#' :: rest => flagsFrom { d with alternative := true } rest
  | rest => (d, rest)

/-- The directive behind a percent sign, with what follows it and the arguments that are left. -/
def directiveAt (format : List Char) (arguments : List String) :
    Directive × List Char × List String :=
  let (d, format) := flagsFrom {} format
  let (width, format, arguments) := countAt format arguments
  let d := { d with width }
  let (d, format, arguments) := match format with
    | '.' :: rest =>
      let (digits, format, arguments) := countAt rest arguments
      ({ d with digits := some digits }, format, arguments)
    | format => (d, format, arguments)
  ({ d with kind := format.headD '\x00' }, format.tail, arguments)

/-- What a format comes to: the bytes, the arguments that are left, the arguments that did not fit,
and whether nothing further is shown. -/
structure Printed where
  bytes : List UInt8 := []
  left : List String := []
  misfits : List Misfit := []
  stop : Bool := false
  deriving Inhabited

/-- Shows a format once. `fuel` bounds the number of steps. -/
def onceFrom : Nat → List Char → List String → Printed
  | 0, _, arguments => { left := arguments }
  | fuel + 1, format, arguments =>
    let behind (bytes : List UInt8) (later : Printed) : Printed :=
      { later with bytes := bytes ++ later.bytes }
    match format with
    | [] => { left := arguments }
    | '%' :: '%' :: rest => behind [37] (onceFrom fuel rest arguments)
    | '%' :: rest =>
      let (d, rest, arguments) := directiveAt rest arguments
      let argument := arguments.headD ""
      match shown? d argument with
      | none =>
        -- A directive that means nothing ends the printing; what was printed before it stays.
        let misfit := if d.kind = '\x00' then Misfit.noKind else .noDirective d.kind
        { left := arguments, misfits := [misfit], stop := true }
      | some shown =>
        if shown.stop then { bytes := shown.bytes, left := [], stop := true }
        else
          let later := behind shown.bytes (onceFrom fuel rest arguments.tail)
          { later with misfits := shown.misfit.toList ++ later.misfits }
    | '\\' :: rest =>
      match escapeAt false rest with
      | (.byte b, rest) => behind [b] (onceFrom fuel rest arguments)
      | (_, rest) => behind [92] (onceFrom fuel rest arguments)
    | c :: rest => behind (Text.Utf8.encode [c]) (onceFrom fuel rest arguments)

/-- Shows a format as often as arguments are left. `fuel` bounds how often. -/
def repeatedly : Nat → List Char → List String → Printed
  | 0, _, arguments => { left := arguments }
  | fuel + 1, format, arguments =>
    let first := onceFrom (format.length + 1) format arguments
    if first.stop || first.left.isEmpty || first.left.length = arguments.length then first
    else
      let later := repeatedly fuel format first.left
      { later with bytes := first.bytes ++ later.bytes, misfits := first.misfits ++ later.misfits }

/-- What a format comes to with arguments. -/
def formatted (format : String) (arguments : List String) : Printed :=
  repeatedly (arguments.length + 1) format.toList arguments

end ConsoleKeeper.Shell.Printing
