import FilterQuery.Number.Numeral
import FilterQuery.Text.Basic

/-!
# Addresses of eight pieces

An address is written as eight pieces in hexadecimal digits with colons between
them. Two colons stand for a row of zeros, and the last two pieces may be written
as four octets in decimal digits.
-/

namespace FilterQuery

/-- An address of eight pieces of sixteen bits. -/
structure Ipv6 where
  pieces : List UInt16
deriving DecidableEq

namespace Ipv6

/-- The number of pieces. -/
def size : Nat := 8

/-- Read an octet, which has no needless zeros. -/
def octet? (digits : List Char) : Option Nat :=
  let value := Numeral.natOfDigits digits
  let isShort := digits.length == 1 || digits.head? != some '0'
  if !digits.isEmpty && digits.all Char.isDigit && isShort && value < 256 then some value
  else none

/-- Read two pieces from four octets with points between them. -/
def octets? (text : List Char) : Option (List UInt16) := do
  let [a, b, c, d] ← (Text.splitAt '.' text).mapM octet? | none
  return [UInt16.ofNat (a * 256 + b), UInt16.ofNat (c * 256 + d)]

/-- Read a piece: one to four hexadecimal digits. -/
def piece? (digits : List Char) : Option UInt16 :=
  if 0 < digits.length ∧ digits.length ≤ 4 ∧ digits.all Text.isHexDigit then
    some (UInt16.ofNat (Text.natOfHex digits))
  else none

/-- Read pieces with colons between them, the last of which may be octets. -/
def pieces? : List (List Char) → Option (List UInt16)
  | [] => some []
  | [last] => if last.contains '.' then octets? last else (piece? last).map fun piece => [piece]
  | first :: rest => do
      let piece ← piece? first
      return piece :: (← pieces? rest)

/-- Read pieces that stand before or behind two colons, where there may be none. -/
def side? (text : List Char) : Option (List UInt16) :=
  if text.isEmpty then some [] else pieces? (Text.splitAt ':' text)

/-- Split a text at its first two colons in a row. -/
def atColons? : List Char → Option (List Char × List Char)
  | ':' :: ':' :: rest => some ([], rest)
  | c :: rest => (atColons? rest).map fun (before, behind) => (c :: before, behind)
  | [] => none

/-- Read an address. -/
def read? (text : List Char) : Option Ipv6 :=
  match atColons? text with
  | none => do
      let pieces ← pieces? (Text.splitAt ':' text)
      if pieces.length = size then return ⟨pieces⟩ else none
  | some (before, behind) => do
      if before.contains '.' then none
      let before ← side? before
      let behind ← side? behind
      let count := before.length + behind.length
      if count < size then return ⟨before ++ List.replicate (size - count) 0 ++ behind⟩ else none

/-- The length of the row of zeros at the front. -/
def zeros (pieces : List UInt16) : Nat :=
  (pieces.takeWhile (· == 0)).length

/-- The length of the longest row of zeros. -/
def longestZeros : List UInt16 → Nat
  | [] => 0
  | piece :: rest => max (zeros (piece :: rest)) (longestZeros rest)

/-- Pieces in hexadecimal digits with colons between them. -/
def renderPieces (pieces : List UInt16) : List Char :=
  Text.joinWith ':' (pieces.map fun piece => Text.hexDigits piece.toNat)

/-- Split pieces at the first row of zeros of a length. -/
def atZeros (length : Nat) : List UInt16 → List UInt16 × List UInt16
  | [] => ([], [])
  | piece :: rest =>
      if zeros (piece :: rest) = length then ([], (piece :: rest).drop length)
      else
        let (before, behind) := atZeros length rest
        (piece :: before, behind)

/-- An address with its longest row of zeros left out, if that has more than one. -/
def render (address : Ipv6) : String :=
  let length := longestZeros address.pieces
  if length < 2 then String.ofList (renderPieces address.pieces)
  else
    let (before, behind) := atZeros length address.pieces
    String.ofList (renderPieces before ++ ':' :: ':' :: renderPieces behind)

end Ipv6
end FilterQuery
