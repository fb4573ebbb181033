import FilterQuery.Number.Shortest

/-!
# Written doubles

The digits of a double are its shortest ones; a layout decides where the
decimal point and the exponent go.
-/

namespace FilterQuery

/-- Where the decimal point of a written number may stand and what a whole number ends in. -/
structure Layout where
  /-- Positions of the decimal point `low < position ≤ high` are written without an exponent;
  without bounds every number is. -/
  positional : Option (Int × Int)
  /-- Whether a whole number written without an exponent ends in `.0`. -/
  keepsPoint : Bool
  /-- Which digits are taken where two choices are equally near. -/
  tie : Tie

namespace Layout

/-- No exponent, and no point in a whole number. -/
def plain : Layout := ⟨none, false, .up⟩

/-- Numbers from `0.00001` to below `10 ^ 16` are written without an exponent, and a whole number
among them ends in `.0`. -/
def json : Layout := ⟨some (-5, 16), true, .toEven⟩

/-- Whether a number whose point stands at `position` is written without an exponent. -/
def isPositional (layout : Layout) (position : Int) : Bool :=
  match layout.positional with
  | none => true
  | some (low, high) => low < position ∧ position ≤ high

/-- Digits with the decimal point at `position`, filled up with zeros. -/
def pointed (layout : Layout) (digits : List Char) (position : Int) : List Char :=
  if position ≤ 0 then
    '0' :: '.' :: (List.replicate (-position).toNat '0' ++ digits)
  else if digits.length ≤ position.toNat then
    digits ++ List.replicate (position.toNat - digits.length) '0' ++
      (if layout.keepsPoint then ['.', '0'] else [])
  else
    digits.take position.toNat ++ '.' :: digits.drop position.toNat

/-- Digits with the decimal point after the first one, and a signed exponent. -/
def scientific (digits : List Char) (position : Int) : List Char :=
  let exponent := position - 1
  let mantissa :=
    match digits with
    | [] => []
    | [only] => [only]
    | first :: rest => first :: '.' :: rest
  mantissa ++ 'e' :: (if exponent < 0 then '-' else '+') :: Nat.toDigits 10 exponent.natAbs

/-- The characters of a finite double without its sign. -/
def unsigned (layout : Layout) (x : Float) : List Char :=
  let value := Exact.magnitude x
  if value = 0 then layout.pointed ['0'] 1
  else
    let decimal := Shortest.ofPositive layout.tie x.abs value
    let digits := Nat.toDigits 10 decimal.coefficient
    if layout.isPositional decimal.position then layout.pointed digits decimal.position
    else scientific digits decimal.position

/-- The text of a double. -/
def render (layout : Layout) (x : Float) : String :=
  let sign := if Exact.isNegative x then "-" else ""
  if Exact.isUndefined x then "NaN"
  else if Exact.isFinite x then sign ++ String.ofList (layout.unsigned x)
  else sign ++ "inf"

end Layout
end FilterQuery
