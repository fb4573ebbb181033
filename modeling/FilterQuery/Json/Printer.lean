import FilterQuery.Json.Basic
import FilterQuery.Number.Layout

/-!
# Writing JSON text

Values are written without blanks. A double is always recognisable as one.
-/

namespace FilterQuery
namespace Json

/-- Four lower-case hexadecimal digits. -/
def fourHexDigits (number : Nat) : List Char :=
  let digits := Nat.toDigits 16 number
  List.replicate (4 - digits.length) '0' ++ digits

/-- A character as it is written inside a string. -/
def writtenChar (c : Char) : List Char :=
  if c = '"' then ['\\', '"']
  else if c = '\\' then ['\\', '\\']
  else if c = '\x08' then ['\\', 'b']
  else if c = '\t' then ['\\', 't']
  else if c = '\n' then ['\\', 'n']
  else if c = '\x0c' then ['\\', 'f']
  else if c = '\r' then ['\\', 'r']
  else if c.toNat < 0x20 then '\\' :: 'u' :: fourHexDigits c.toNat
  else [c]

/-- A written string. -/
def writtenString (text : String) : String :=
  String.ofList ('"' :: text.toList.flatMap writtenChar ++ ['"'])

mutual
/-- The text of a value. -/
def render : Json → String
  | null => "null"
  | bool value => if value then "true" else "false"
  | int value => toString value
  | float value => if Exact.isFinite value then Layout.json.render value else "null"
  | string value => writtenString value
  | array items => "[" ++ ",".intercalate (renderItems items) ++ "]"
  | object members => "\x7b" ++ ",".intercalate (renderMembers members) ++ "\x7d"

/-- The texts of items. -/
def renderItems : List Json → List String
  | [] => []
  | item :: rest => render item :: renderItems rest

/-- The texts of members. -/
def renderMembers : List (String × Json) → List String
  | [] => []
  | (name, value) :: rest => (writtenString name ++ ":" ++ render value) :: renderMembers rest
end

end Json
end FilterQuery
