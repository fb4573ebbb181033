import FilterQuery.Number.Numeral
import FilterQuery.Text.Basic

/-!
# Addresses of four octets

An address is written as up to four numbers with points between them, in decimal,
octal or hexadecimal digits. The last number stands for all octets that have none
of their own.
-/

namespace FilterQuery

/-- An address of four octets. -/
structure Ipv4 where
  value : UInt32
deriving DecidableEq

namespace Ipv4

/-- Whether a character is an octal digit. -/
def isOctalDigit (c : Char) : Bool :=
  '0' ≤ c && c ≤ '7'

/-- Read a part of an address: hexadecimal behind `0x`, octal behind another zero, else decimal. -/
def part? (text : List Char) : Option Nat :=
  match text with
  | [] => none
  | '0' :: 'x' :: digits | '0' :: 'X' :: digits =>
      if digits.all Text.isHexDigit then some (Text.natOfHex digits) else none
  | '0' :: digits =>
      if digits.all isOctalDigit then
        some (digits.foldl (fun number c => number * 8 + (c.toNat - '0'.toNat)) 0)
      else none
  | digits => if digits.all Char.isDigit then some (Numeral.natOfDigits digits) else none

/-- The parts of a written address; a point at its end does not count. -/
def parts (text : List Char) : List (List Char) :=
  let parts := Text.splitAt '.' text
  if 1 < parts.length ∧ parts.getLast? = some [] then parts.dropLast else parts

/-- Whether the last part of a name is a number, so that the name can only be an address. -/
def isMeant (text : List Char) : Bool :=
  match (parts text).getLast? with
  | some last => (!last.isEmpty && last.all Char.isDigit) || (part? last).isSome
  | none => false

/-- The value of an address: every number but the last is one octet, and the last one fills the
`room` octets that are left. -/
def valueOf? (room : Nat) : List Nat → Option Nat
  | [] => none
  | [last] => if last < Nat.pow 256 room then some last else none
  | octet :: rest =>
      if octet < 256 then (valueOf? (room - 1) rest).map (octet * Nat.pow 256 (room - 1) + ·)
      else none

/-- Read an address. -/
def read? (text : List Char) : Option Ipv4 := do
  let parts ← (parts text).mapM part?
  if 4 < parts.length then none
  else return ⟨UInt32.ofNat (← valueOf? 4 parts)⟩

/-- An address in four decimal numbers. -/
def render (address : Ipv4) : String :=
  let value := address.value.toNat
  ".".intercalate ([value / 16777216, value / 65536 % 256, value / 256 % 256, value % 256].map
    toString)

end Ipv4
end FilterQuery
