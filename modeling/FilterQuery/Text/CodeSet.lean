import FilterQuery.Text.Basic

/-!
# Sets of code points

A set is written as its ranges in ascending order, in hexadecimal digits: `41-5A`
for a range, `61` for a single point.
-/

namespace FilterQuery

/-- An inclusive range of code points. -/
structure CodeRange where
  first : Nat
  last : Nat
deriving DecidableEq

namespace CodeRange

/-- Read a range. -/
def ofWord (word : List Char) : CodeRange :=
  match Text.splitAt '-' word with
  | [first, last] => ⟨Text.natOfHex first, Text.natOfHex last⟩
  | _ => ⟨Text.natOfHex word, Text.natOfHex word⟩

end CodeRange

/-- A set of code points. -/
structure CodeSet where
  /-- The ranges of the set, in ascending order. -/
  ranges : List CodeRange
deriving DecidableEq

namespace CodeSet

/-- Whether one of the ranges, which are in ascending order, holds a code point. -/
def isHeld (code : Nat) : List CodeRange → Bool
  | [] => false
  | range :: rest => range.first ≤ code && (code ≤ range.last || isHeld code rest)

/-- Whether a character is in a set. -/
def contains (set : CodeSet) (c : Char) : Bool :=
  isHeld c.toNat set.ranges

/-- Read a set from lines of ranges with single blanks between them. -/
def ofLines (lines : List String) : CodeSet :=
  ⟨lines.flatMap fun line => (Text.splitAt ' ' line.toList).map CodeRange.ofWord⟩

end CodeSet
end FilterQuery
