import FilterQuery.Json.Printer
import FilterQuery.Literal.Basic

/-!
# Encoding literals

Beside its JSON form, a literal can be handed to an encoder part by part. The
encoder is not told which type of literal the parts belong to.
-/

namespace FilterQuery

/-- What becomes of each part of a value that is handed over. -/
structure Encoder (α : Type) where
  unit : α
  bool : Bool → α
  int : Int64 → α
  float : Float → α
  string : String → α
  sequence : List α → α

namespace Encoder

/-- Parts become JSON values; there are no infinite or undefined numbers among these. -/
def json : Encoder Json where
  unit := .null
  bool := .bool
  int value := .int value.toInt
  float value := if Exact.isFinite value then .float value else .null
  string := .string
  sequence := .array

/-- Parts are written out at once as JSON text. -/
def text : Encoder String where
  unit := "null"
  bool value := if value then "true" else "false"
  int value := toString value.toInt
  float value := if Exact.isFinite value then Layout.json.render value else "null"
  string := Json.writtenString
  sequence items := "[" ++ ",".intercalate items ++ "]"

end Encoder

namespace Literal

mutual
/-- Hand a literal to an encoder. -/
def encode (encoder : Encoder α) : Literal → α
  | null => encoder.unit
  | bool value => encoder.bool value
  | int value => encoder.int value
  | float value => encoder.float value
  | string value => encoder.string value
  | list items => encoder.sequence (encodeItems encoder items)

/-- Hand items to an encoder. -/
def encodeItems (encoder : Encoder α) : List Literal → List α
  | [] => []
  | item :: rest => encode encoder item :: encodeItems encoder rest
end

end Literal
end FilterQuery
