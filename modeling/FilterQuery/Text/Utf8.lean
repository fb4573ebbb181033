/-!
# Reading UTF-8

Octets are read into characters. What is no character becomes a replacement
character: one for each octet that cannot begin a character, and one for each
character that breaks off. Octets are a text if nothing in them is replaced.
-/

namespace FilterQuery
namespace Utf8

/-- Stands for octets that are no character. -/
def replacement : Char := Char.ofNat 0xFFFD

/-- A character that has begun: its bits so far, how many octets are missing, and between which
bounds the next one lies. -/
structure Begun where
  bits : Nat
  missing : Nat
  lower : Nat
  upper : Nat
deriving DecidableEq

/-- Read an octet where a character begins. The bounds of the second octet leave out characters that
have a shorter form, surrogates, and numbers beyond the last character. -/
def first (octet : Nat) : List Char × Option Begun :=
  if octet < 0x80 then ([Char.ofNat octet], none)
  else if octet < 0xC2 then ([replacement], none)
  else if octet < 0xE0 then ([], some ⟨octet - 0xC0, 1, 0x80, 0xBF⟩)
  else if octet = 0xE0 then ([], some ⟨0, 2, 0xA0, 0xBF⟩)
  else if octet = 0xED then ([], some ⟨0xD, 2, 0x80, 0x9F⟩)
  else if octet < 0xF0 then ([], some ⟨octet - 0xE0, 2, 0x80, 0xBF⟩)
  else if octet = 0xF0 then ([], some ⟨0, 3, 0x90, 0xBF⟩)
  else if octet < 0xF4 then ([], some ⟨octet - 0xF0, 3, 0x80, 0xBF⟩)
  else if octet = 0xF4 then ([], some ⟨4, 3, 0x80, 0x8F⟩)
  else ([replacement], none)

/-- Read an octet that may go on with a character; where it does not, that character breaks off and
another begins. -/
def next (begun : Begun) (octet : Nat) : List Char × Option Begun :=
  if begun.lower ≤ octet ∧ octet ≤ begun.upper then
    let bits := begun.bits * 64 + (octet - 0x80)
    if begun.missing ≤ 1 then ([Char.ofNat bits], none)
    else ([], some ⟨bits, begun.missing - 1, 0x80, 0xBF⟩)
  else
    let (chars, begun) := first octet
    (replacement :: chars, begun)

/-- Read octets, possibly from within a character. -/
def decodeFrom : Option Begun → List UInt8 → List Char
  | none, [] => []
  | some _, [] => [replacement]
  | none, octet :: rest =>
      let (chars, begun) := first octet.toNat
      chars ++ decodeFrom begun rest
  | some begun, octet :: rest =>
      let (chars, begun) := next begun octet.toNat
      chars ++ decodeFrom begun rest

/-- Read octets into a text. -/
def decode (octets : List UInt8) : String :=
  String.ofList (decodeFrom none octets)

/-- The octets of a text. -/
def encode (text : String) : List UInt8 :=
  text.toUTF8.toList

/-- Read octets that are a text. -/
def decode? (octets : List UInt8) : Option String :=
  let text := decode octets
  if encode text = octets then some text else none

end Utf8
end FilterQuery
