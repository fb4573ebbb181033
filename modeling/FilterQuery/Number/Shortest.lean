import FilterQuery.Number.Decimal
import FilterQuery.Number.Exact

/-!
# The shortest decimal of a double

Of all decimals that read back as a given double, the one with the fewest
digits; of several such, the one nearest to the double's exact value. Two may be
equally near, and then it depends on who asks.
-/

namespace FilterQuery

/-- Which of two equally near decimals is taken. -/
inductive Tie where
  /-- The greater one. -/
  | up
  /-- The one whose last digit is even. -/
  | toEven
deriving DecidableEq

namespace Tie

/-- Whether the lesser of two equally near decimals is taken, given its coefficient. -/
def takesLesser : Tie → Nat → Bool
  | up, _ => false
  | toEven, coefficient => coefficient % 2 == 0

end Tie

namespace Shortest

/-- The position of the decimal point of a positive fraction `numerator / denominator`. -/
def pointPosition (numerator denominator : Nat) : Int :=
  let estimate : Int := Decimal.width numerator - Decimal.width denominator
  let reached :=
    if 0 ≤ estimate then denominator * Nat.pow 10 estimate.toNat ≤ numerator
    else denominator ≤ numerator * Nat.pow 10 (-estimate).toNat
  if reached then estimate + 1 else estimate

/-- The multiple of `10 ^ exponent` just below a fraction, with the remainder and what it is
counted in. -/
def gridBelow (numerator denominator : Nat) (exponent : Int) : Nat × Nat × Nat :=
  let scaled := if exponent < 0 then numerator * Nat.pow 10 exponent.natAbs else numerator
  let unit := if exponent < 0 then denominator else denominator * Nat.pow 10 exponent.natAbs
  (scaled / unit, scaled % unit, unit)

/-- The decimal of `count` digits that reads back as `x` and lies nearest to its exact value, if
there is one: only the two neighbours of the exact value on that grid can qualify. -/
def ofDigits? (tie : Tie) (x : Float) (value : Rat) (count : Nat) : Option Decimal :=
  let numerator := value.num.natAbs
  let exponent := pointPosition numerator value.den - count
  let (quotient, remainder, unit) := gridBelow numerator value.den exponent
  let below : Decimal := ⟨quotient, exponent⟩
  let above : Decimal := ⟨quotient + 1, exponent⟩
  match decide (below.nearest = x), decide (above.nearest = x) with
  | true, true =>
      some (if 2 * remainder < unit ∨ (2 * remainder = unit ∧ tie.takesLesser quotient) then below
        else above)
  | true, false => some below
  | false, true => some above
  | false, false => none

/-- The shortest decimal of a positive finite double; seventeen digits are always enough. -/
def ofPositive (tie : Tie) (x : Float) (value : Rat) : Decimal :=
  match (List.range 17).findSome? fun index => ofDigits? tie x value (index + 1) with
  | some decimal => decimal.strip 20
  | none => ⟨0, 0⟩

end Shortest
end FilterQuery
