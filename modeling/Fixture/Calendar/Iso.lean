import Fixture.Calendar.Date
import Fixture.Unicode.Space

/-!
# Moments as text

The written form of a second: year, month and day joined by hyphens, a `T`, hour, minute and second
joined by colons, and a `Z`. Writing pads every field; reading is more liberal, for white space may
precede a field, a field may be short, and a year with a sign may have any number of digits.
-/

namespace Fixture.Moment

/-- A number with zeros in front up to a width. -/
def padded (width number : Nat) : String :=
  let digits := Nat.repr number
  "".pushn '0' (width - digits.length) ++ digits

/-- Years of four digits stand alone, all others carry their sign. -/
def yearText (year : Int) : String :=
  if 0 ≤ year ∧ year ≤ 9999 then padded 4 year.toNat
  else (if year < 0 then "-" else "+") ++ padded 4 year.natAbs

def toIso (moment : Moment) : String :=
  yearText moment.date.year ++ "-" ++ padded 2 moment.date.month ++ "-" ++
    padded 2 moment.date.day ++ "T" ++ padded 2 moment.hour ++ ":" ++
    padded 2 moment.minute ++ ":" ++ padded 2 moment.second ++ "Z"

/-- At least one and at most so many digits from the front, with what follows them. -/
def digits? (most : Nat) (text : List Char) : Option (Nat × List Char) :=
  match (text.take most).takeWhile Char.isDigit with
  | [] => none
  | digits =>
    some (digits.foldl (fun sum digit => sum * 10 + (digit.toNat - 48)) 0, text.drop digits.length)

/-- A field of one or two digits. -/
def field? (text : List Char) : Option (Nat × List Char) :=
  digits? 2 (text.dropWhile Unicode.isSpace)

/-- Up to four digits, or a sign and any number of them. -/
def year? (text : List Char) : Option (Int × List Char) :=
  match text.dropWhile Unicode.isSpace with
  | '-' :: rest => (digits? rest.length rest).map fun (year, rest) => (-(year : Int), rest)
  | '+' :: rest => (digits? rest.length rest).map fun (year, rest) => ((year : Int), rest)
  | rest => (digits? 4 rest).map fun (year, rest) => ((year : Int), rest)

/-- What follows a mark that must stand in front. -/
def mark? (mark : Char) : List Char → Option (List Char)
  | [] => none
  | c :: rest => if c == mark then some rest else none

/-- The moment a text names, if it names one. -/
def ofIso? (text : String) : Option Moment := do
  let (year, rest) ← year? text.toList
  let (month, rest) ← field? (← mark? '-' rest)
  let (day, rest) ← field? (← mark? '-' rest)
  let (hour, rest) ← field? (← mark? 'T' rest)
  let (minute, rest) ← field? (← mark? ':' rest)
  let (second, rest) ← field? (← mark? ':' rest)
  let rest ← mark? 'Z' rest
  let moment : Moment := ⟨⟨year, month, day⟩, hour, minute, second⟩
  if rest.isEmpty && moment.isValid then some moment else none

end Fixture.Moment
