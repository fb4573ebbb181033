/-!
# The exact value of a double

A finite double is a whole number of units, each a power of two; its exact
value is a rational number.
-/

namespace FilterQuery
namespace Exact

/-- What the lowest bit of the exponent counts for: the fraction has 52 bits. -/
def exponentUnit : Nat := 0x10000000000000

/-- What the sign bit counts for. -/
def signUnit : Nat := 0x8000000000000000

/-- The fraction bits of a double. -/
def fractionBits (x : Float) : Nat := x.toBits.toNat % exponentUnit

/-- The biased exponent of a double, of 11 bits. -/
def exponentBits (x : Float) : Nat := x.toBits.toNat / exponentUnit % 2048

/-- Whether the sign bit of a double is set. -/
def isNegative (x : Float) : Bool := signUnit ≤ x.toBits.toNat

/-- Whether a double is neither infinite nor undefined. -/
def isFinite (x : Float) : Bool := exponentBits x ≠ 2047

/-- Whether a double is undefined. -/
def isUndefined (x : Float) : Bool := exponentBits x = 2047 ∧ fractionBits x ≠ 0

/-- The absolute value of a double whose exponent is not the topmost one. -/
def magnitude (x : Float) : Rat :=
  let units := if exponentBits x = 0 then fractionBits x else exponentUnit + fractionBits x
  let scale := max (exponentBits x) 1
  if 1075 ≤ scale then mkRat (units * Nat.pow 2 (scale - 1075)) 1
  else mkRat units (Nat.pow 2 (1075 - scale))

/-- The exact value of a finite double. -/
def value? (x : Float) : Option Rat :=
  if isFinite x then some (if isNegative x then -magnitude x else magnitude x) else none

/-- Drop the fraction of a rational number, toward zero. -/
def truncate (value : Rat) : Int := value.num.tdiv value.den

end Exact
end FilterQuery
