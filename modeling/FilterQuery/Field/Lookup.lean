import FilterQuery.Calendar
import FilterQuery.Error
import FilterQuery.Number.Numeral
import FilterQuery.Query.Fragment

/-!
# Comparing a field with a value

A comparison is checked in a fixed order: the operator, null, the shape of the
value, the types of its elements from the left. What passes is converted to the
field's own type and becomes a query fragment.
-/

namespace FilterQuery
namespace Field

/-- Check a value that is no list. -/
def checkScalar (field : Field) (value : Literal) : Except FieldError Unit :=
  match value with
  | .null => if field.nullable then .ok () else .error (.notNullable field)
  | scalar =>
      if !field.kind.accepts scalar then .error (.invalidType field scalar)
      else
        match field.kind, scalar with
        | .date, .string text =>
            match Date.read? text with
            | some _ => .ok ()
            | none => .error (.invalidDate field scalar)
        | _, _ => .ok ()

/-- Check the elements of a list from the left; a list among them is refused. -/
def checkItems (field : Field) : List Literal → Except FieldError Unit
  | [] => .ok ()
  | item :: rest =>
      match if item.isList then .error (.invalidType field item) else field.checkScalar item with
      | .ok () => field.checkItems rest
      | .error cause => .error cause

/-- Check that a value may be compared with a field. -/
def check (field : Field) : Literal → Except FieldError Unit
  | .list items => field.checkItems items
  | scalar => field.checkScalar scalar

/-- The 64-bit whole number of a double without its fraction, where it is in range. -/
def wholeOfFloat? (value : Float) : Option Int64 :=
  match Exact.value? value with
  | some exact =>
      if (-9223372036854775808 : Rat) ≤ exact ∧ exact < (9223372036854775808 : Rat) then
        some (Int64.ofInt (Exact.truncate exact))
      else none
  | none => none

/-- The 64-bit whole number that a text holds. -/
def wholeOfText? (text : String) : Option Int64 := do
  let value ← Number.integer? text
  if Literal.fitsInt value then some (Int64.ofInt value) else none

/-- Convert a scalar to a whole number. -/
def toLong? : Literal → Option Literal
  | .int value => some (.int value)
  | .float value => (wholeOfFloat? value).map .int
  | .bool value => some (.int (if value then 1 else 0))
  | .string text => (wholeOfText? text).map .int
  | _ => none

/-- Convert a scalar to a double. -/
def toDouble? : Literal → Option Literal
  | .int value => some (.float (Float.ofInt value.toInt))
  | .float value => some (.float value)
  | .bool value => some (.float (if value then 1.0 else 0.0))
  | .string text => (Number.double? text).map .float
  | _ => none

/-- Convert a scalar to a truth value. -/
def toBoolean? : Literal → Option Literal
  | .bool value => some (.bool value)
  | .int value => if value = 0 then some (.bool false) else if value = 1 then some (.bool true) else none
  | .string text =>
      let lower := text.toList.map Char.toLower
      if lower = "true".toList then some (.bool true)
      else if lower = "false".toList then some (.bool false)
      else none
  | _ => none

/-- Convert a scalar other than null to the type of a kind. -/
def convert? : FieldKind → Literal → Option Literal
  | .long, value => toLong? value
  | .float, value => toDouble? value
  | .boolean, value => toBoolean? value
  | .text, value | .keyword, value | .date, value => some (.string value.text)

mutual
/-- Convert a value to the field's own type; null stays null and a list is converted element by
element. -/
def coerce (field : Field) : Literal → Except FieldError Literal
  | .null => .ok .null
  | .list items =>
      match field.coerceItems items with
      | .ok converted => .ok (.list converted)
      | .error cause => .error cause
  | scalar =>
      match convert? field.kind scalar with
      | some converted => .ok converted
      | none => .error (.valueConversion field scalar)

/-- Convert the elements of a list from the left. -/
def coerceItems (field : Field) : List Literal → Except FieldError (List Literal)
  | [] => .ok []
  | item :: rest =>
      match field.coerce item with
      | .error cause => .error cause
      | .ok converted =>
          match field.coerceItems rest with
          | .error cause => .error cause
          | .ok others => .ok (converted :: others)
end

/-- The fragment of a comparison with null. -/
def lookupNull (field : Field) (operator : Operator) : Except FieldError Fragment :=
  match field.check .null with
  | .error cause => .error cause
  | .ok () =>
      match operator with
      | .equal => .ok (.ofAbsence field.name true)
      | .notEqual => .ok (.ofAbsence field.name false)
      | _ => .error (.invalidType field .null)

/-- The fragment of a comparison with a value other than null whose operator is allowed. -/
def lookupValue (field : Field) (operator : Operator) (value : Literal) : Except FieldError Fragment :=
  if operator.takesList ≠ value.isList then .error (.invalidShape field operator value)
  else
    match field.check value with
    | .error cause => .error cause
    | .ok () =>
        match field.coerce value with
        | .error cause => .error cause
        | .ok converted => .ok (.ofComparison field.name operator converted)

/-- The fragment of the comparison of a field with a value. -/
def lookup (field : Field) (operator : Operator) (value : Literal) : Except FieldError Fragment :=
  if operator ∉ field.kind.operators then .error (.operatorNotAllowed field operator)
  else if value.isNull then field.lookupNull operator
  else field.lookupValue operator value

end Field
end FilterQuery
