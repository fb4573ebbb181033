/-!
# Decimals and the doubles nearest to them
-/

namespace FilterQuery

/-- The number `coefficient * 10 ^ exponent`. -/
structure Decimal where
  coefficient : Nat
  exponent : Int
deriving DecidableEq, Inhabited

namespace Decimal

/-- How many decimal digits a natural number has. -/
def width (number : Nat) : Nat :=
  (Nat.toDigits 10 number).length

/-- Positive infinity. -/
def infinity : Float := Float.ofBits 0x7FF0000000000000

/-- Where the decimal point stands: the number is `0.d₁d₂… * 10 ^ position`. -/
def position (decimal : Decimal) : Int :=
  decimal.exponent + width decimal.coefficient

/-- The double nearest to a decimal, ties to even, infinite beyond the range of doubles.

Numbers of `10 ^ 310` and more are infinite and numbers below `10 ^ (-330)` are zero whatever
their digits are, so no power of ten outside these bounds is ever computed. -/
def nearest (decimal : Decimal) : Float :=
  if decimal.coefficient = 0 then 0.0
  else if 310 < decimal.position then infinity
  else if decimal.position < -330 then 0.0
  else Float.ofScientific decimal.coefficient (decimal.exponent < 0) decimal.exponent.natAbs

/-- The double nearest to a power of ten. -/
def powerOfTen (power : Nat) : Float := Float.ofScientific 1 false power

/-- The greatest power of ten that is a finite double. -/
def greatestPower : Nat := 308

/-- A decimal as a double in a few rounded steps: the coefficient, which fits into 64 bits, is
rounded, and then multiplied or divided by a rounded power of ten. No double stands for a result
out of range, and what is too small is zero. -/
def scaled? (decimal : Decimal) : Option Float :=
  let significand := decimal.coefficient.toUInt64.toFloat
  let power := decimal.exponent.natAbs
  if decimal.coefficient = 0 then some 0.0
  else if 0 ≤ decimal.exponent then
    if power ≤ greatestPower then
      let product := significand * powerOfTen power
      if product.isFinite then some product else none
    else none
  else if power ≤ greatestPower then some (significand / powerOfTen power)
  else if power ≤ 2 * greatestPower then
    some (significand / powerOfTen greatestPower / powerOfTen (power - greatestPower))
  else some 0.0

/-- The same number without trailing zeros in its coefficient, given a bound on their count. -/
def strip : Nat → Decimal → Decimal
  | 0, decimal => decimal
  | bound + 1, decimal =>
      if decimal.coefficient % 10 = 0 ∧ decimal.coefficient ≠ 0 then
        strip bound ⟨decimal.coefficient / 10, decimal.exponent + 1⟩
      else decimal

end Decimal
end FilterQuery
