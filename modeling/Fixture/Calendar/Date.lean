/-!
# Dates and instants

The Gregorian calendar, extended to all years, and the line of milliseconds since the start of 1970.
Days are counted in years that begin on the first of March: then the day that a leap year adds is
the last of its year, and every cycle of four hundred years has the same 146097 days.
-/

namespace Fixture

structure Date where
  year : Int
  month : Nat
  day : Nat
  deriving DecidableEq

namespace Date

def isLeap (year : Int) : Bool := year % 4 == 0 && (year % 100 != 0 || year % 400 == 0)

def monthLength (year : Int) (month : Nat) : Nat :=
  if month == 2 then (if isLeap year then 29 else 28)
  else if month == 4 || month == 6 || month == 9 || month == 11 then 30
  else 31

def firstYear : Int := -262143

def lastYear : Int := 262142

/-- The date exists and its year can be handled. -/
def isValid (date : Date) : Bool :=
  firstYear ≤ date.year && date.year ≤ lastYear &&
    1 ≤ date.month && date.month ≤ 12 &&
    1 ≤ date.day && date.day ≤ monthLength date.year date.month

/-- The days from the first of March of the year 0 to the first of January 1970. -/
def epochOffset : Int := 719468

def daysPerCycle : Int := 146097

/-- Days since the start of 1970. -/
def toDays (date : Date) : Int :=
  let year := if date.month ≤ 2 then date.year - 1 else date.year
  let month : Int := if date.month ≤ 2 then date.month + 9 else date.month - 3
  let yearOfCycle := year % 400
  let dayOfYear := (153 * month + 2) / 5 + (date.day - 1)
  let dayOfCycle := yearOfCycle * 365 + yearOfCycle / 4 - yearOfCycle / 100 + dayOfYear
  year / 400 * daysPerCycle + dayOfCycle - epochOffset

def ofDays (days : Int) : Date :=
  let shifted := days + epochOffset
  let dayOfCycle := shifted % daysPerCycle
  let yearOfCycle :=
    (dayOfCycle - dayOfCycle / 1460 + dayOfCycle / 36524 - dayOfCycle / 146096) / 365
  let dayOfYear := dayOfCycle - (365 * yearOfCycle + yearOfCycle / 4 - yearOfCycle / 100)
  let month := (5 * dayOfYear + 2) / 153
  let day := dayOfYear - (153 * month + 2) / 5 + 1
  let year := shifted / daysPerCycle * 400 + yearOfCycle
  if month < 10 then ⟨year, (month + 3).toNat, day.toNat⟩
  else ⟨year + 1, (month - 9).toNat, day.toNat⟩

end Date

/-- A second of the calendar. The second 60 is a leap second, which follows the second 59 of any
minute. -/
structure Moment where
  date : Date
  hour : Nat
  minute : Nat
  second : Nat
  deriving DecidableEq

namespace Moment

def isValid (moment : Moment) : Bool :=
  moment.date.isValid && moment.hour ≤ 23 && moment.minute ≤ 59 && moment.second ≤ 60

/-- Milliseconds since the start of 1970. A leap second shares its instant with the second after
it. -/
def toInstant (moment : Moment) : Int :=
  (((moment.date.toDays * 24 + moment.hour) * 60 + moment.minute) * 60 + moment.second) * 1000

/-- The second in which an instant lies. -/
def ofInstant (instant : Int) : Moment :=
  let seconds := instant / 1000
  let secondOfDay := (seconds % 86400).toNat
  ⟨Date.ofDays (seconds / 86400), secondOfDay / 3600, secondOfDay / 60 % 60, secondOfDay % 60⟩

/-- The first and the last millisecond of the years that can be handled. -/
def firstInstant : Int := -8334601228800000

def lastInstant : Int := 8210266876799999

def inRange (instant : Int) : Bool := firstInstant ≤ instant && instant ≤ lastInstant

end Moment

end Fixture
