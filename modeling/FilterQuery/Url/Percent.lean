import FilterQuery.Text.Utf8

/-!
# Percent escapes

An escape is a percent sign and two hexadecimal digits. A percent sign without
them stands for itself. What has to be escaped depends on the part of an address,
save for control characters and everything outside of ASCII.
-/

namespace FilterQuery
namespace Percent

/-- The octet of the percent sign. -/
def sign : UInt8 := 0x25

/-- The value of a hexadecimal digit. -/
def hexValue? (octet : UInt8) : Option UInt8 :=
  if 0x30 ≤ octet ∧ octet ≤ 0x39 then some (octet - 0x30)
  else if 0x41 ≤ octet ∧ octet ≤ 0x46 then some (octet - 0x41 + 10)
  else if 0x61 ≤ octet ∧ octet ≤ 0x66 then some (octet - 0x61 + 10)
  else none

/-- The octet that two hexadecimal digits stand for. -/
def octet? (high low : UInt8) : Option UInt8 := do
  let high ← hexValue? high
  let low ← hexValue? low
  return high * 16 + low

/-- Replace escapes by their octets, but leave the escapes of octets in `kept` as they are. -/
def decodeExcept (kept : List UInt8) : List UInt8 → List UInt8
  | [] => []
  | octet :: high :: low :: rest =>
      match if octet = sign then octet? high low else none with
      | some value =>
          if kept.contains value then octet :: high :: low :: decodeExcept kept rest
          else value :: decodeExcept kept rest
      | none => octet :: decodeExcept kept (high :: low :: rest)
  | octet :: rest => octet :: decodeExcept kept rest

/-- Replace all escapes by their octets. -/
def decode (octets : List UInt8) : List UInt8 :=
  decodeExcept [] octets

/-- Decode the escapes of a text; octets that are no characters are replaced. -/
def decodeText (text : List Char) : String :=
  Utf8.decode (decode (Utf8.encode (String.ofList text)))

/-- Decode the escapes of a text, if their octets are characters. -/
def decodeText? (text : List Char) : Option String :=
  let octets := decode (Utf8.encode (String.ofList text))
  let decoded := Utf8.decode octets
  if Utf8.encode decoded = octets then some decoded else none

/-- A hexadecimal digit, in capital letters. -/
def hexDigit (value : Nat) : Char :=
  if value < 10 then Char.ofNat ('0'.toNat + value) else Char.ofNat ('A'.toNat + (value - 10))

/-- The escape of an octet. -/
def escapeOctet (octet : UInt8) : List Char :=
  ['%', hexDigit (octet.toNat / 16), hexDigit (octet.toNat % 16)]

/-- Whether a character is escaped everywhere. -/
def isAlwaysEscaped (c : Char) : Bool :=
  c.toNat < 0x20 || 0x7F ≤ c.toNat

/-- A character as it is written where the characters `reserved` are escaped. -/
def escapeChar (reserved : List Char) (c : Char) : List Char :=
  if isAlwaysEscaped c || reserved.contains c then (String.utf8EncodeChar c).flatMap escapeOctet
  else [c]

/-- A text as it is written where the characters `reserved` are escaped. -/
def escape (reserved text : List Char) : List Char :=
  text.flatMap (escapeChar reserved)

end Percent
end FilterQuery
