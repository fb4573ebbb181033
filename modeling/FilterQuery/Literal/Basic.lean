import FilterQuery.Json.Basic
import FilterQuery.Number.Layout
import FilterQuery.Text.Printable

/-!
# Literals

The values that stand on the right of a comparison. A literal has a JSON form,
which is what the search engine gets, and a text form, which is what messages
show.
-/

namespace FilterQuery

/-- A value that a field is compared with. -/
inductive Literal where
  | null
  | bool (value : Bool)
  | int (value : Int64)
  | float (value : Float)
  | string (value : String)
  | list (items : List Literal)
deriving Inhabited

namespace Literal

/-- Whether a literal is null. -/
def isNull : Literal → Bool
  | null => true
  | _ => false

/-- Whether a literal is a list. -/
def isList : Literal → Bool
  | list _ => true
  | _ => false

/-- The name of a literal's type. -/
def typeName : Literal → String
  | null => "null"
  | bool _ => "bool"
  | int _ => "int"
  | float _ => "float"
  | string _ => "string"
  | list _ => "list"

/-- The JSON form of a double; an infinite or undefined one has none and is null. -/
def floatJson (value : Float) : Json :=
  if Exact.isFinite value then .float value else .null

mutual
/-- The JSON form of a literal. -/
def toJson : Literal → Json
  | null => .null
  | bool value => .bool value
  | int value => .int value.toInt
  | float value => floatJson value
  | string value => .string value
  | list items => .array (itemsToJson items)

/-- The JSON forms of items. -/
def itemsToJson : List Literal → List Json
  | [] => []
  | item :: rest => toJson item :: itemsToJson rest
end

/-- Whether a whole number fits into 64 bits with a sign. -/
def fitsInt (value : Int) : Bool :=
  -9223372036854775808 ≤ value ∧ value < 9223372036854775808

/-- The literal of a whole number: a double when it is too large. -/
def ofInt (value : Int) : Literal :=
  if fitsInt value then int (Int64.ofInt value) else float (Float.ofInt value)

mutual
/-- Read a literal from JSON; objects are no literals, at any depth. -/
def ofJson? : Json → Option Literal
  | .null => some null
  | .bool value => some (bool value)
  | .int value => some (ofInt value)
  | .float value => some (float value)
  | .string value => some (string value)
  | .array items => (itemsOfJson? items).map list
  | .object _ => none

/-- Read items from JSON. -/
def itemsOfJson? : List Json → Option (List Literal)
  | [] => some []
  | item :: rest => do
      let literal ← ofJson? item
      let literals ← itemsOfJson? rest
      return literal :: literals
end

mutual
/-- The text of a literal as messages show it: strings in quotes, lists in brackets. -/
def display : Literal → String
  | null => "null"
  | bool value => if value then "true" else "false"
  | int value => toString value.toInt
  | float value => Layout.plain.render value
  | string value => Text.quoted value
  | list items => "[" ++ ", ".intercalate (displayItems items) ++ "]"

/-- The texts of items. -/
def displayItems : List Literal → List String
  | [] => []
  | item :: rest => display item :: displayItems rest
end

/-- The text of a literal as it goes into a pattern: a string stands without quotes. -/
def text : Literal → String
  | string value => value
  | other => display other

@[simp] theorem toJson_null : toJson null = .null := rfl
@[simp] theorem toJson_bool (value : Bool) : toJson (bool value) = .bool value := rfl
@[simp] theorem toJson_int (value : Int64) : toJson (int value) = .int value.toInt := rfl
@[simp] theorem toJson_float (value : Float) : toJson (float value) = floatJson value := rfl
@[simp] theorem toJson_string (value : String) : toJson (string value) = .string value := rfl
@[simp] theorem toJson_list (items : List Literal) :
    toJson (list items) = .array (itemsToJson items) := rfl

/-- The JSON forms of items are the items' JSON forms in order. -/
@[simp] theorem itemsToJson_eq_map (items : List Literal) :
    itemsToJson items = items.map toJson := by
  induction items with
  | nil => rfl
  | cons head tail inductionHypothesis => simp [itemsToJson, inductionHypothesis]

@[simp] theorem text_string (value : String) : text (string value) = value := rfl

end Literal
end FilterQuery
