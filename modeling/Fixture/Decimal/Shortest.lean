/-!
# The shortest decimal of a double

A double stands for every real number that is nearer to it than to its neighbours. Of the decimals
that stand for it, the one with the fewest digits is written, and of several with that many digits
the nearest. The search looks at the two grid points around the value on ever finer decimal grids,
in whole numbers throughout.
-/

namespace Fixture.Decimal

/-- A positive double as quarter units of its last place: the value, the ends of what it stands for,
and the binary exponent of a quarter unit. -/
structure Span where
  low : Nat
  value : Nat
  high : Nat
  exponent : Int
  /-- The ends belong to the span. -/
  closed : Bool

namespace Span

/-- The span of the double with the given bits, whose sign is ignored. -/
def ofBits (bits : Nat) : Span :=
  let fraction : Nat := bits % Nat.pow 2 52
  let biased : Nat := bits / Nat.pow 2 52 % Nat.pow 2 11
  let mantissa : Nat := if biased == 0 then fraction else Nat.pow 2 52 + fraction
  let exponent : Int := ((if biased == 0 then 1 else biased : Nat) : Int) - 1075
  let below : Nat := if fraction == 0 && 1 < biased then 1 else 2
  ⟨4 * mantissa - below, 4 * mantissa, 4 * mantissa + 2, exponent - 2, mantissa % 2 == 0⟩

end Span

/-- A number of units times ten to a power. -/
structure Scaled where
  digits : Nat
  exponent : Int

/-- Ten and two to an integer power as a fraction. -/
private def power (base : Nat) (exponent : Int) : Nat × Nat :=
  if 0 ≤ exponent then (Nat.pow base exponent.toNat, 1) else (1, Nat.pow base (-exponent).toNat)

/-- The point of the grid of the given spacing that stands for the span and is nearest to its
value. -/
def Span.onGrid? (span : Span) (spacing : Int) : Option Scaled :=
  let (unitTop, unitBottom) := power 2 span.exponent
  let (gridTop, gridBottom) := power 10 spacing
  let scale (quarters : Nat) := quarters * unitTop * gridBottom
  let step := unitBottom * gridTop
  let below := scale span.value / step
  let inside (point : Nat) :=
    if span.closed then scale span.low ≤ point * step && point * step ≤ scale span.high
    else scale span.low < point * step && point * step < scale span.high
  let above := below + 1
  let toBelow := scale span.value - below * step
  let toAbove := above * step - scale span.value
  match inside below, inside above with
  | true, true =>
    some ⟨if toBelow < toAbove || (toBelow == toAbove && below % 2 == 0) then below else above,
      spacing⟩
  | true, false => some ⟨below, spacing⟩
  | false, true => some ⟨above, spacing⟩
  | false, false => none

/-- The least power of ten above the value, found from a bound. -/
private def magnitude (span : Span) : Nat → Int → Int
  | 0, exponent => exponent
  | steps + 1, exponent =>
    let (unitTop, unitBottom) := power 2 span.exponent
    let (top, bottom) := power 10 (exponent - 1)
    if span.value * unitTop * bottom < top * unitBottom then
      magnitude span steps (exponent - 1)
    else exponent

/-- The shortest decimal in the span: seventeen digits always suffice. -/
def Span.shortest (span : Span) : Scaled :=
  let above := magnitude span 640 310
  ((List.range 17).findSome? fun count => span.onGrid? (above - 1 - (count : Nat))).getD ⟨0, 0⟩

/-- The same number without trailing zeros among its digits. -/
def Scaled.trim (self : Scaled) : Scaled :=
  go 20 self.digits self.exponent
where
  go : Nat → Nat → Int → Scaled
    | 0, digits, exponent => ⟨digits, exponent⟩
    | steps + 1, digits, exponent =>
      if digits ≠ 0 ∧ digits % 10 = 0 then go steps (digits / 10) (exponent + 1)
      else ⟨digits, exponent⟩

/-- Sixteen places before the point and four zeros behind it are written out, larger and smaller
numbers with an exponent. A whole number keeps one decimal place. -/
def Scaled.toText (self : Scaled) : String :=
  let digits := String.ofList (Nat.toDigits 10 self.digits)
  let count := digits.length
  let point : Int := count + self.exponent
  let zeros (n : Int) := "".pushn '0' n.toNat
  if 0 ≤ self.exponent ∧ point ≤ 16 then digits ++ zeros self.exponent ++ ".0"
  else if 0 < point ∧ point ≤ 16 then
    (digits.take point.toNat).toString ++ "." ++ (digits.drop point.toNat).toString
  else if -5 < point ∧ point ≤ 0 then "0." ++ zeros (-point) ++ digits
  else
    let mantissa :=
      if count = 1 then digits else (digits.take 1).toString ++ "." ++ (digits.drop 1).toString
    let exponent := point - 1
    mantissa ++ "e" ++ (if exponent < 0 then "-" else "+") ++ toString exponent.natAbs

/-- The text of a finite double. -/
def ofDouble (x : Float) : String :=
  let bits := x.toBits.toNat
  let sign := if Nat.pow 2 63 ≤ bits then "-" else ""
  if bits % Nat.pow 2 63 == 0 then sign ++ "0.0"
  else sign ++ (Span.ofBits (bits % Nat.pow 2 63)).shortest.trim.toText

end Fixture.Decimal
