import ConsoleKeeper.Text.Printable

/-!
# `ConsoleKeeper.Text.Literal`: a text between quotes

`literal` shows a text so that every character in it can be told: it stands between quotes, and
backslash, the quote, and characters that cannot be shown are written with a backslash. The quote is
the single one unless the text has single quotes and no double ones.
-/

set_option autoImplicit false

namespace ConsoleKeeper.Text

/-- The digit with the value `n`, which is below 16 wherever this is used. -/
def hexDigit (n : Nat) : Char :=
  if n < 10 then Char.ofNat (48 + n) else Char.ofNat (87 + n)

/-- The last `width` hexadecimal digits of a number. -/
def hexDigits : Nat → Nat → List Char
  | 0, _ => []
  | width + 1, n => hexDigits width (n / 16) ++ [hexDigit (n % 16)]

/-- One character inside a literal with the given quote. -/
def literalChar (quote c : Char) : List Char :=
  if c = quote || c = '\\' then ['\\', c]
  else if c = '\n' then ['\\', 'n']
  else if c = '\r' then ['\\', 'r']
  else if c = '\t' then ['\\', 't']
  else if isPrintable c then [c]
  else if c.toNat < 0x100 then ['\\', 'x'] ++ hexDigits 2 c.toNat
  else if c.toNat < 0x10000 then ['\\', 'u'] ++ hexDigits 4 c.toNat
  else ['\\', 'U'] ++ hexDigits 8 c.toNat

/-- The quote that a literal of the text uses. -/
def literalQuote (s : List Char) : Char :=
  if s.contains '\'' && !s.contains '"' then '"' else '\''

/-- The text between quotes, with escapes where a character could not be told otherwise. -/
def literal (s : List Char) : List Char :=
  let quote := literalQuote s
  [quote] ++ s.flatMap (literalChar quote) ++ [quote]

end ConsoleKeeper.Text
