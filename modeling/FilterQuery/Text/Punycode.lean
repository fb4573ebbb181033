/-!
# Punycode

A text is written within ASCII as its characters of ASCII, a hyphen, and digits
that say which further characters go where. The further characters are inserted in
ascending order, each described by how many places a cursor that runs through all
characters at all places of the text has to go on.
-/

namespace FilterQuery
namespace Text
namespace Punycode

/-- The number of digits. -/
def base : Nat := 36

/-- The bias before anything has been inserted. -/
def firstBias : Nat := 72

/-- The first code point outside of ASCII. -/
def firstCode : Nat := 0x80

/-- A number below 36 as a digit: a letter, then a decimal digit. -/
def digit (value : Nat) : Char :=
  if value < 26 then Char.ofNat ('a'.toNat + value) else Char.ofNat ('0'.toNat + (value - 26))

/-- The value of a digit. -/
def digitValue? (c : Char) : Option Nat :=
  if c.isLower then some (c.toNat - 'a'.toNat)
  else if c.isUpper then some (c.toNat - 'A'.toNat)
  else if c.isDigit then some (c.toNat - '0'.toNat + 26)
  else none

/-- Below this value, the digit at a position is the last one of its number. Positions count in steps
of 36. -/
def threshold (position bias : Nat) : Nat :=
  min 26 (max 1 (position - bias))

/-- A threshold is positive. -/
theorem threshold_pos (position bias : Nat) : 0 < threshold position bias := by
  simp only [threshold]
  omega

/-- The bias that fits a distance which has been scaled down to `delta`. -/
def biasOf (delta bias : Nat) : Nat :=
  if 455 < delta then biasOf (delta / 35) (bias + base)
  else bias + base * delta / (delta + 38)
termination_by delta
decreasing_by exact Nat.div_lt_self (by omega) (by omega)

/-- The bias after a distance has been written, when the text has `size` characters. -/
def adapt (delta size : Nat) (isFirst : Bool) : Nat :=
  let scaled := if isFirst then delta / 700 else delta / 2
  biasOf (scaled + scaled / size) 0

/-- The digits of a number, from a position on. -/
def digits (bias position value : Nat) : List Char :=
  let least := threshold position bias
  if value < least then [digit value]
  else
    digit (least + (value - least) % (base - least)) ::
      digits bias (position + base) ((value - least) / (base - least))
termination_by value
decreasing_by
  have positive := threshold_pos position bias
  exact Nat.lt_of_le_of_lt (Nat.div_le_self _ _) (by omega)

/-- Where writing stands. -/
structure Writing where
  /-- How far the cursor has gone since the last insertion. -/
  delta : Nat
  bias : Nat
  /-- How many characters the text has so far. -/
  size : Nat
  /-- The digits so far, last ones first. -/
  written : List (List Char)

/-- Go with the cursor past a character of the text, and insert it if its code is `code`. -/
def Writing.pass (code basics : Nat) (writing : Writing) (c : Char) : Writing :=
  if c.toNat < code then { writing with delta := writing.delta + 1 }
  else if c.toNat = code then
    { delta := 0
      bias := adapt writing.delta (writing.size + 1) (writing.size == basics)
      size := writing.size + 1
      written := digits writing.bias base writing.delta :: writing.written }
  else writing

/-- Insert the characters of the given codes, which ascend; `next` is the code of the cursor. -/
def insertAll (text : List Char) (basics : Nat) : Nat → Writing → List Nat → Writing
  | _, writing, [] => writing
  | next, writing, code :: codes =>
      let reached :=
        { writing with delta := writing.delta + (code - next) * (writing.size + 1) }
      let passed := text.foldl (Writing.pass code basics) reached
      insertAll text basics (code + 1) { passed with delta := passed.delta + 1 } codes

/-- The codes outside of ASCII in a text, ascending and without repetitions. -/
def codes (text : List Char) : List Nat :=
  ((text.map Char.toNat).filter (firstCode ≤ ·)).mergeSort.eraseDups

/-- Write a text within ASCII. -/
def encode (text : List Char) : List Char :=
  let basics := text.filter (·.toNat < firstCode)
  let start : Writing := ⟨0, firstBias, basics.length, []⟩
  let writing := insertAll text basics.length firstCode start (codes text)
  (if basics.isEmpty then [] else basics ++ ['-']) ++ writing.written.reverse.flatten

/-- Read the digits of a number, the first of which is at `position` and counts `weight` times. -/
def number? (bias : Nat) (position weight value : Nat) : List Char → Option (Nat × List Char)
  | [] => none
  | c :: rest =>
      match digitValue? c with
      | none => none
      | some d =>
          let least := threshold position bias
          let value := value + d * weight
          if d < least then some (value, rest)
          else number? bias (position + base) (weight * (base - least)) value rest

/-- Reading a number takes something off the text. -/
theorem length_lt_of_number? {bias position weight value result : Nat} {text rest : List Char}
    (isRead : number? bias position weight value text = some (result, rest)) :
    rest.length < text.length := by
  induction text generalizing position weight value with
  | nil => simp [number?] at isRead
  | cons c tail inductionHypothesis =>
      simp only [number?] at isRead
      split at isRead
      · simp at isRead
      · split at isRead
        · simp only [Option.some.injEq, Prod.mk.injEq] at isRead
          simp [isRead.2]
        · exact Nat.lt_succ_of_lt (inductionHypothesis isRead)

/-- Insert the characters that digits describe into `text`; the cursor is at `place` with the code
`code`. -/
def insertRead (bias code place : Nat) (text : List Char) (digits : List Char) :
    Option (List Char) :=
  if digits.isEmpty then some text
  else
    match isRead : number? bias base 1 0 digits with
    | none => none
    | some (delta, rest) =>
        let size := text.length + 1
        let code := code + (place + delta) / size
        let target := (place + delta) % size
        if code.isValidChar then
          insertRead (adapt delta size (place == 0)) code (target + 1)
            (text.insertIdx target (Char.ofNat code)) rest
        else none
termination_by digits.length
decreasing_by exact length_lt_of_number? isRead

/-- Read a text that was written within ASCII. A hyphen with nothing before it ends no characters of
ASCII. -/
def decode? (text : List Char) : Option (List Char) :=
  let tail := (text.reverse.takeWhile (· != '-')).reverse
  let basics := text.take (text.length - tail.length - 1)
  let digits := if basics.isEmpty then text else tail
  if basics.all (·.toNat < firstCode) then insertRead firstBias firstCode 0 basics digits else none

end Punycode
end Text
end FilterQuery
