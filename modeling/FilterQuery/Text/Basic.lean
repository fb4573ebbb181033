/-!
# Characters and texts

The characters with the property `White_Space`, those of the category of control
characters and the hexadecimal digits; and texts that are split at a separator.
-/

namespace FilterQuery
namespace Text

/-! ## Blanks and control characters -/

/-- Whether a character has the property `White_Space`. -/
def isBlank (c : Char) : Bool :=
  let code := c.toNat
  (0x9 ≤ code && code ≤ 0xD) || code == 0x20 || code == 0x85 || code == 0xA0 || code == 0x1680 ||
    (0x2000 ≤ code && code ≤ 0x200A) || code == 0x2028 || code == 0x2029 || code == 0x202F ||
    code == 0x205F || code == 0x3000

/-- Whether a character is a control character. -/
def isControl (c : Char) : Bool :=
  c.toNat < 0x20 || (0x7F ≤ c.toNat && c.toNat ≤ 0x9F)

/-- Drop the blanks at both ends. -/
def trim (text : List Char) : List Char :=
  ((text.dropWhile isBlank).reverse.dropWhile isBlank).reverse

/-! ## Splitting and joining -/

/-- Split a text at every occurrence of a separator. -/
def splitAt (separator : Char) : List Char → List (List Char)
  | [] => [[]]
  | c :: rest =>
      if c = separator then [] :: splitAt separator rest
      else
        match splitAt separator rest with
        | [] => [[c]]
        | part :: parts => (c :: part) :: parts

/-- Join texts with a separator between them. -/
def joinWith (separator : Char) : List (List Char) → List Char
  | [] => []
  | [only] => only
  | part :: parts => part ++ separator :: joinWith separator parts

/-- Splitting a text gives at least one part. -/
theorem splitAt_ne_nil (separator : Char) (text : List Char) : splitAt separator text ≠ [] := by
  cases text with
  | nil => simp [splitAt]
  | cons c rest =>
      simp only [splitAt]
      split
      · simp
      · split <;> simp

/-- Joining the parts of a split text gives the text back. -/
theorem joinWith_splitAt (separator : Char) (text : List Char) :
    joinWith separator (splitAt separator text) = text := by
  induction text with
  | nil => rfl
  | cons c rest inductionHypothesis =>
      simp only [splitAt]
      split
      · next isSeparator =>
          cases partsEquality : splitAt separator rest with
          | nil => exact absurd partsEquality (splitAt_ne_nil separator rest)
          | cons part parts =>
              rw [partsEquality] at inductionHypothesis
              simp [joinWith, inductionHypothesis, isSeparator]
      · cases partsEquality : splitAt separator rest with
        | nil => exact absurd partsEquality (splitAt_ne_nil separator rest)
        | cons part parts =>
            rw [partsEquality] at inductionHypothesis
            cases parts with
            | nil => simpa [joinWith] using inductionHypothesis
            | cons next others => simpa [joinWith] using inductionHypothesis

/-! ## Hexadecimal digits -/

/-- The value of a hexadecimal digit. -/
def hexValue? (c : Char) : Option Nat :=
  if c.isDigit then some (c.toNat - '0'.toNat)
  else if 'a' ≤ c ∧ c ≤ 'f' then some (c.toNat - 'a'.toNat + 10)
  else if 'A' ≤ c ∧ c ≤ 'F' then some (c.toNat - 'A'.toNat + 10)
  else none

/-- Whether a character is a hexadecimal digit. -/
def isHexDigit (c : Char) : Bool := (hexValue? c).isSome

/-- The number that hexadecimal digits stand for. -/
def natOfHex (digits : List Char) : Nat :=
  digits.foldl (fun number c => number * 16 + (hexValue? c).getD 0) 0

/-- The lower-case hexadecimal digits of a number, without padding. -/
def hexDigits (number : Nat) : List Char := Nat.toDigits 16 number

end Text
end FilterQuery
