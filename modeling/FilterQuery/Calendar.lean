import FilterQuery.Number.Numeral
import FilterQuery.Text.Basic

/-!
# Calendar dates

Days of the proleptic Gregorian calendar, and how they are read from text:
year, month and day with a hyphen between them and blanks allowed before each
number.
-/

namespace FilterQuery

/-- A year, a month and a day, which need not exist. -/
structure Date where
  year : Int
  month : Nat
  day : Nat
deriving DecidableEq, Inhabited

namespace Date

/-- Whether a year has a 29th of February. -/
def isLeapYear (year : Int) : Bool :=
  year % 4 = 0 ∧ (year % 100 ≠ 0 ∨ year % 400 = 0)

/-- How many days a month has; a month that does not exist has none. -/
def daysInMonth (year : Int) (month : Nat) : Nat :=
  if month = 2 then (if isLeapYear year then 29 else 28)
  else if month = 4 ∨ month = 6 ∨ month = 9 ∨ month = 11 then 30
  else if 1 ≤ month ∧ month ≤ 12 then 31
  else 0

/-- The first year that dates are kept for. -/
def firstYear : Int := -262143

/-- The last year that dates are kept for. -/
def lastYear : Int := 262142

/-- Whether a day exists. -/
def isValid (date : Date) : Bool :=
  firstYear ≤ date.year ∧ date.year ≤ lastYear ∧
    1 ≤ date.day ∧ date.day ≤ daysInMonth date.year date.month

/-- Take at most `limit` digits off the front of a text. -/
def takeDigits : Nat → List Char → List Char × List Char
  | 0, text => ([], text)
  | _ + 1, [] => ([], [])
  | limit + 1, c :: rest =>
      if c.isDigit then
        let (digits, remaining) := takeDigits limit rest
        (c :: digits, remaining)
      else ([], c :: rest)

/-- Read a number of at least one and at most `limit` digits, without blanks before it. -/
def digits? (limit : Nat) (text : List Char) : Option (Nat × List Char) :=
  match takeDigits limit text with
  | ([], _) => none
  | (digits, rest) => some (Numeral.natOfDigits digits, rest)

/-- Read a year: at most four digits, or a sign and any number of them. -/
def year? (text : List Char) : Option (Int × List Char) :=
  match text.dropWhile Text.isBlank with
  | '-' :: rest => (digits? rest.length rest).map fun (number, left) => (-(number : Int), left)
  | '+' :: rest => (digits? rest.length rest).map fun (number, left) => ((number : Int), left)
  | unsigned => (digits? 4 unsigned).map fun (number, left) => ((number : Int), left)

/-- Read a month or a day: one or two digits. -/
def twoDigits? (text : List Char) : Option (Nat × List Char) :=
  digits? 2 (text.dropWhile Text.isBlank)

/-- Read the hyphen between two numbers. -/
def hyphen? : List Char → Option (List Char)
  | '-' :: rest => some rest
  | _ => none

/-- Read the three numbers of a date that fill a text. -/
def parts? (text : List Char) : Option Date := do
  let (year, afterYear) ← year? text
  let (month, afterMonth) ← twoDigits? (← hyphen? afterYear)
  let (day, rest) ← twoDigits? (← hyphen? afterMonth)
  if rest.isEmpty then some ⟨year, month, day⟩ else none

/-- Read an existing day from a text. -/
def read? (text : String) : Option Date := do
  let date ← parts? text.toList
  if date.isValid then some date else none

end Date
end FilterQuery
