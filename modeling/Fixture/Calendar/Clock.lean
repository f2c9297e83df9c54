import Fixture.Calendar.Iso

/-!
# Clocks

A clock counts the seconds since the start of 1970 and the nanoseconds since the last of them. Leap
seconds are not counted: in a leap second the nanoseconds of the second before it run on. A clock
that is moved forwards out of a leap second has spent a second in it; moved back, or by so little
that it stays there, it moves as if there were only the nanoseconds.
-/

namespace Fixture

structure Clock where
  second : Int
  nanos : Nat
  deriving DecidableEq

namespace Clock

/-- Nanoseconds in a second, and in a millisecond. -/
def perSecond : Nat := 1000000000

def perMilli : Nat := 1000000

/-- The clock so many nanoseconds after a second, or before it. -/
def after (second nanos : Int) : Clock :=
  ⟨second + nanos / perSecond, (nanos % perSecond).toNat⟩

/-- The clock at an instant, in milliseconds since the start of 1970. -/
def ofInstant (instant : Int) : Clock := .after 0 (instant * perMilli)

/-- The milliseconds since the start of 1970. A leap second shares them with the second after it. -/
def instant (clock : Clock) : Int := clock.second * 1000 + clock.nanos / perMilli

def inLeap (clock : Clock) : Bool := perSecond ≤ clock.nanos

/-- The years that the clock shows can be handled. -/
def inRange (clock : Clock) : Bool := Moment.inRange (clock.second * 1000)

/-- The clock can be handled, and a leap second lasts one second at the end of a minute. -/
def isValid (clock : Clock) : Bool :=
  clock.inRange &&
    (clock.nanos < perSecond || clock.nanos < 2 * perSecond && clock.second % 60 == 59)

/-- The clock moved by milliseconds in either direction. -/
def plus (clock : Clock) (step : Int) : Clock :=
  let nanos := clock.nanos + step * perMilli
  if clock.inLeap && perSecond ≤ nanos then
    if nanos < 2 * perSecond then ⟨clock.second, nanos.toNat⟩
    else .after clock.second (nanos - perSecond)
  else .after clock.second nanos

/-- The clock moved by milliseconds, or left where it is if it would leave the calendar. -/
def moved (clock : Clock) (step : Int) : Clock :=
  if (clock.plus step).inRange then clock.plus step else clock

/-- The second that the clock shows. -/
def moment (clock : Clock) : Moment :=
  let shown := Moment.ofInstant (clock.second * 1000)
  { shown with second := shown.second + clock.nanos / perSecond }

/-- The clock at the beginning of a second. -/
def ofMoment (moment : Moment) : Clock :=
  if moment.second < 60 then ⟨moment.toInstant / 1000, 0⟩
  else ⟨moment.toInstant / 1000 - 1, perSecond⟩

def toIso (clock : Clock) : String := clock.moment.toIso

def ofIso? (text : String) : Option Clock := (Moment.ofIso? text).map ofMoment

end Clock

end Fixture
