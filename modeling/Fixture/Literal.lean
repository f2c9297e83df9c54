import Fixture.Decimal.Rounding

/-!
# Literals

The spelling of constants in generated code. A string literal holds printable ASCII only: what has a
short escape takes it, and every other character is spelled by the four hexadecimal digits of each
of its UTF-16 units.
-/

namespace Fixture.Literal

/-- Hexadecimal digits with zeros in front up to a width. -/
def hex (width number : Nat) : List Char :=
  let digits := Nat.toDigits 16 number
  List.replicate (width - digits.length) '0' ++ digits

/-- The UTF-16 units of a character. -/
def units (c : Char) : List Nat :=
  let point := c.toNat
  if point < 0x10000 then [point]
  else [0xD800 + (point - 0x10000) / 0x400, 0xDC00 + (point - 0x10000) % 0x400]

def unitEscape (unit : Nat) : List Char := '\\' :: 'u' :: (hex 4 unit).map Char.toUpper

/-- A character inside a string literal. -/
def escape (c : Char) : List Char :=
  if c == '"' then ['\\', '"']
  else if c == '\\' then ['\\', '\\']
  else if c == '\n' then ['\\', 'n']
  else if c == '\r' then ['\\', 'r']
  else if c == '\t' then ['\\', 't']
  else if c == '\x08' then ['\\', 'b']
  else if c == '\x0c' then ['\\', 'f']
  else if ' ' ≤ c && c ≤ '~' then [c]
  else (units c).flatMap unitEscape

/-- A string literal. -/
def quote (text : String) : String :=
  String.ofList ('"' :: text.toList.flatMap escape ++ ['"'])

/-- A number of hundredths with both decimal places. -/
def hundredths (number : Nat) : String :=
  let places := number % 100
  Nat.repr (number / 100) ++ "." ++ (if places < 10 then "0" else "") ++ Nat.repr places

/-- The hundredths of a hundred times a fraction of 2 ^ 52, where the product is a double. -/
def percentHundredths (fraction : Nat) : Nat :=
  Decimal.roundDiv (100 * Decimal.roundBits 53 (100 * fraction)) (Nat.pow 2 52)

end Fixture.Literal
