import FilterQuery.Number.Numeral
import FilterQuery.Text.Basic

/-!
# The tokens of JSON text

A string token keeps its escapes: a `\u` escape is a code unit, and whether
the units of a string make up characters is asked only when somebody needs
the string.
-/

namespace FilterQuery
namespace Json

/-- A piece of a written string. -/
inductive Piece where
  | char (value : Char)
  /-- A code unit written as an escape. -/
  | unit (value : Nat)
deriving DecidableEq, Inhabited

/-- A token of JSON text. -/
inductive Token where
  | openArray
  | closeArray
  | openObject
  | closeObject
  | comma
  | colon
  | null
  | bool (value : Bool)
  | number (numeral : Numeral)
  | string (pieces : List Piece)
deriving DecidableEq, Inhabited

namespace Piece

/-- The character that stands for itself after a backslash, or that the letter names. -/
def escaped? : Char → Option Char
  | '"' => some '"'
  | '\\' => some '\\'
  | '/' => some '/'
  | 'b' => some '\x08'
  | 'f' => some '\x0c'
  | 'n' => some '\n'
  | 'r' => some '\r'
  | 't' => some '\t'
  | _ => none

/-- The code unit of four hexadecimal digits. -/
def unit? (first second third fourth : Char) : Option Nat := do
  let a ← Text.hexValue? first
  let b ← Text.hexValue? second
  let c ← Text.hexValue? third
  let d ← Text.hexValue? fourth
  return ((a * 16 + b) * 16 + c) * 16 + d

/-- Read the pieces of a string up to its closing quote; the rest follows the quote. -/
def read? : List Char → Option (List Piece × List Char)
  | [] => none
  | '"' :: rest => some ([], rest)
  | '\\' :: 'u' :: first :: second :: third :: fourth :: rest => do
      let value ← unit? first second third fourth
      let (pieces, remaining) ← read? rest
      return (unit value :: pieces, remaining)
  | '\\' :: letter :: rest => do
      let value ← escaped? letter
      let (pieces, remaining) ← read? rest
      return (char value :: pieces, remaining)
  | c :: rest =>
      if c = '\\' ∨ c.toNat < 0x20 then none
      else do
        let (pieces, remaining) ← read? rest
        return (char c :: pieces, remaining)

/-- What follows a string is shorter than what starts with it. -/
theorem length_read?
    {text : List Char} {pieces : List Piece} {rest : List Char}
    (reading : read? text = some (pieces, rest)) :
    rest.length < text.length := by
  fun_induction read? text generalizing pieces rest with
  | case1 => simp at reading
  | case2 remaining =>
      simp only [Option.some.injEq, Prod.mk.injEq] at reading
      simp [← reading.2]
  | case3 first second third fourth remaining inductionHypothesis =>
      simp only [Option.bind_eq_bind, Option.bind_eq_some_iff] at reading
      obtain ⟨value, _, ⟨others, left⟩, inner, equality⟩ := reading
      simp only [pure, Option.some.injEq, Prod.mk.injEq] at equality
      have shorter := inductionHypothesis inner
      simp only [List.length_cons]
      rw [← equality.2]
      omega
  | case4 letter remaining _ inductionHypothesis =>
      simp only [Option.bind_eq_bind, Option.bind_eq_some_iff] at reading
      obtain ⟨value, _, ⟨others, left⟩, inner, equality⟩ := reading
      simp only [pure, Option.some.injEq, Prod.mk.injEq] at equality
      have shorter := inductionHypothesis inner
      simp only [List.length_cons]
      rw [← equality.2]
      omega
  | case5 => simp at reading
  | case6 c remaining _ _ _ _ inductionHypothesis =>
      simp only [Option.bind_eq_bind, Option.bind_eq_some_iff] at reading
      obtain ⟨⟨others, left⟩, inner, equality⟩ := reading
      simp only [pure, Option.some.injEq, Prod.mk.injEq] at equality
      have shorter := inductionHypothesis inner
      simp only [List.length_cons]
      rw [← equality.2]
      omega

end Piece

namespace Token

/-- The blanks of JSON. -/
def isBlank (c : Char) : Bool :=
  c = ' ' || c = '\t' || c = '\n' || c = '\r'

/-- The characters that numerals are made of. -/
def isNumeric (c : Char) : Bool :=
  c.isDigit || c = '+' || c = '-' || c = '.' || c = 'e' || c = 'E'

/-- The token that a mark of punctuation is. -/
def punctuation? : Char → Option Token
  | '[' => some openArray
  | ']' => some closeArray
  | '\x7b' => some openObject
  | '\x7d' => some closeObject
  | ',' => some comma
  | ':' => some colon
  | _ => none

/-- The token that a word is. -/
def word? (letters : List Char) : Option Token :=
  if letters = "null".toList then some null
  else if letters = "true".toList then some (bool true)
  else if letters = "false".toList then some (bool false)
  else none

/-- The token that a run of numeric characters is. -/
def number? (characters : List Char) : Option Token := do
  let numeral ← Numeral.split? characters
  if numeral.isJson then some (number numeral) else none

/-- Read one token that starts with `c`; the rest follows the token. -/
def next? (c : Char) (rest : List Char) : Option (Token × List Char) :=
  match punctuation? c with
  | some token => some (token, rest)
  | none =>
      if c = '"' then (Piece.read? rest).map fun (pieces, remaining) => (string pieces, remaining)
      else if c = '-' ∨ c.isDigit then
        (number? (c :: rest.takeWhile isNumeric)).map fun token =>
          (token, rest.dropWhile isNumeric)
      else
        (word? (c :: rest.takeWhile Char.isAlpha)).map fun token =>
          (token, rest.dropWhile Char.isAlpha)

/-- Reading a token leaves no more than what followed its first character. -/
theorem length_next?
    {c : Char} {rest : List Char} {token : Token} {remaining : List Char}
    (reading : next? c rest = some (token, remaining)) :
    remaining.length ≤ rest.length := by
  unfold next? at reading
  split at reading
  · simp only [Option.some.injEq, Prod.mk.injEq] at reading
    simp [reading.2]
  · split at reading
    · simp only [Option.map_eq_some_iff] at reading
      obtain ⟨⟨pieces, left⟩, inner, equality⟩ := reading
      simp only [Prod.mk.injEq] at equality
      have shorter := Piece.length_read? inner
      rw [← equality.2]
      omega
    · split at reading
      · simp only [Option.map_eq_some_iff] at reading
        obtain ⟨_, _, equality⟩ := reading
        simp only [Prod.mk.injEq] at equality
        rw [← equality.2]
        exact (List.dropWhile_sublist _).length_le
      · simp only [Option.map_eq_some_iff] at reading
        obtain ⟨_, _, equality⟩ := reading
        simp only [Prod.mk.injEq] at equality
        rw [← equality.2]
        exact (List.dropWhile_sublist _).length_le

/-- Split a text into tokens. -/
def scan? : List Char → Option (List Token)
  | [] => some []
  | c :: rest =>
      if isBlank c then scan? rest
      else
        match reading : next? c rest with
        | some (token, remaining) =>
            have := length_next? reading
            (scan? remaining).map (token :: ·)
        | none => none
termination_by text => text.length
decreasing_by
  all_goals simp only [List.length_cons]; omega

end Token
end Json
end FilterQuery
