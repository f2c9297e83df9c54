/-!
# Rounding quotients

A quotient is rounded to the nearest whole number, a tie to the even one. A product of doubles and a
number printed with fixed places are both such quotients.
-/

namespace Fixture.Decimal

/-- The nearest whole number to a quotient, the even one of two. -/
def roundDiv (top bottom : Nat) : Nat :=
  let below := top / bottom
  let twice := 2 * (top % bottom)
  if twice < bottom || (twice == bottom && below % 2 == 0) then below else below + 1

/-- The nearest number to a whole number that has at most so many binary digits in front of its
zeros. -/
def roundBits (bits number : Nat) : Nat :=
  let unit := Nat.pow 2 (number.log2 + 1 - bits)
  roundDiv number unit * unit

end Fixture.Decimal
