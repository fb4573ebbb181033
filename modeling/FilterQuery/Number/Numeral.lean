import FilterQuery.Number.Decimal
import FilterQuery.Text.Basic

/-!
# Written numbers

A numeral is a number split into its written parts: sign, whole digits,
digits after a point, and exponent. Which parts may be empty depends on who
reads it, so the splitting is shared and the rules are apart. In plain text,
blanks around a number are dropped, and a double may also be given as `inf`,
`infinity` or `nan` in letters of either case.
-/

namespace FilterQuery

/-- A written sign. -/
inductive Sign where
  | plus
  | minus
deriving DecidableEq, Inhabited

namespace Sign

/-- Take a sign off the front of a text. -/
def take? : List Char → Option Sign × List Char
  | '+' :: rest => (some plus, rest)
  | '-' :: rest => (some minus, rest)
  | text => (none, text)

end Sign

/-- The written parts of a number. -/
structure Numeral where
  sign : Option Sign
  whole : List Char
  /-- The digits after the point, where there is a point. -/
  fraction : Option (List Char)
  /-- The sign and the digits after the `e`, where there is one. -/
  exponent : Option (Option Sign × List Char)
deriving DecidableEq, Inhabited

namespace Numeral

/-- The number that a list of decimal digits stands for. -/
def natOfDigits (digits : List Char) : Nat :=
  digits.foldl (fun total digit => 10 * total + (digit.toNat - '0'.toNat)) 0

/-- Split off the digits after a point. -/
def takeFraction : List Char → Option (List Char) × List Char
  | '.' :: rest => (some (rest.takeWhile Char.isDigit), rest.dropWhile Char.isDigit)
  | text => (none, text)

/-- Split off an exponent; what follows it is the rest. -/
def takeExponent : List Char → Option (Option Sign × List Char) × List Char
  | mark :: rest =>
      if mark = 'e' ∨ mark = 'E' then
        let (sign, digits) := Sign.take? rest
        (some (sign, digits.takeWhile Char.isDigit), digits.dropWhile Char.isDigit)
      else (none, mark :: rest)
  | [] => (none, [])

/-- Split a text that is nothing but a numeral. -/
def split? (text : List Char) : Option Numeral :=
  let (sign, afterSign) := Sign.take? text
  let (fraction, afterFraction) := takeFraction (afterSign.dropWhile Char.isDigit)
  let (exponent, rest) := takeExponent afterFraction
  if rest.isEmpty then some ⟨sign, afterSign.takeWhile Char.isDigit, fraction, exponent⟩
  else none

/-- Whether the exponent, where there is one, has digits. -/
def exponentComplete (numeral : Numeral) : Bool :=
  match numeral.exponent with
  | some (_, digits) => !digits.isEmpty
  | none => true

/-- The numerals of JSON: no plus sign, no superfluous zero, digits on both sides of a point. -/
def isJson (numeral : Numeral) : Bool :=
  numeral.sign ≠ some .plus && !numeral.whole.isEmpty &&
    (numeral.whole.head? ≠ some '0' || numeral.whole.length == 1) &&
    numeral.fraction ≠ some [] && numeral.exponentComplete

/-- The numerals of plain text: a digit somewhere before the exponent. -/
def isPlain (numeral : Numeral) : Bool :=
  (!numeral.whole.isEmpty || !(numeral.fraction.getD []).isEmpty) && numeral.exponentComplete

/-- Whether the numeral is written with a minus sign. -/
def isNegative (numeral : Numeral) : Bool :=
  numeral.sign = some .minus

/-- The whole number of a numeral without point and exponent. -/
def integer? (numeral : Numeral) : Option Int :=
  if numeral.fraction = none ∧ numeral.exponent = none ∧ numeral.whole ≠ [] then
    let number : Int := natOfDigits numeral.whole
    some (if numeral.isNegative then -number else number)
  else none

/-- The power of ten written after the `e`. -/
def scale (numeral : Numeral) : Int :=
  match numeral.exponent with
  | some (some .minus, digits) => -(natOfDigits digits : Int)
  | some (_, digits) => natOfDigits digits
  | none => 0

/-- The number without its sign, as a decimal. -/
def decimal (numeral : Numeral) : Decimal :=
  let fraction := numeral.fraction.getD []
  ⟨natOfDigits (numeral.whole ++ fraction), numeral.scale - fraction.length⟩

/-- Take digits into a coefficient for as long as it fits into 64 bits; the others are left. -/
def absorb (coefficient : Nat) : List Char → Nat × List Char
  | [] => (coefficient, [])
  | digit :: rest =>
      let next := 10 * coefficient + (digit.toNat - '0'.toNat)
      if next < UInt64.size then absorb next rest else (coefficient, digit :: rest)

/-- The number without its sign, cut to the leading digits that fit into 64 bits. Whole digits that
are cut off still count for its size. -/
def leading (numeral : Numeral) : Decimal :=
  let fraction := numeral.fraction.getD []
  let (whole, cutWhole) := absorb 0 numeral.whole
  let (coefficient, cutFraction) := absorb whole fraction
  ⟨coefficient, numeral.scale + cutWhole.length - (fraction.length - cutFraction.length : Nat)⟩

/-- The number as a double, from its leading digits and in a few rounded steps. -/
def scaled? (numeral : Numeral) : Option Float :=
  numeral.leading.scaled?.map fun value => if numeral.isNegative then -value else value

/-- The double nearest to the number. -/
def nearest (numeral : Numeral) : Float :=
  if numeral.isNegative then -numeral.decimal.nearest else numeral.decimal.nearest

end Numeral

/-! ## Numbers in plain text -/

namespace Number

/-- Read a whole number. -/
def integer? (text : String) : Option Int := do
  let numeral ← Numeral.split? (Text.trim text.toList)
  numeral.integer?

/-- The undefined double. -/
def undefined : Float := Float.ofBits 0x7FF8000000000000

/-- The double that a word stands for. -/
def word? (letters : List Char) : Option Float :=
  let lower := String.ofList (letters.map Char.toLower)
  if lower = "inf" ∨ lower = "infinity" then some Decimal.infinity
  else if lower = "nan" then some undefined
  else none

/-- Read a double. -/
def double? (text : String) : Option Float :=
  let trimmed := Text.trim text.toList
  let (sign, letters) := Sign.take? trimmed
  match word? letters with
  | some value => some (if sign = some .minus then -value else value)
  | none => do
      let numeral ← Numeral.split? trimmed
      if numeral.isPlain then some numeral.nearest else none

end Number
end FilterQuery
