import FilterQuery.Json.Record
import FilterQuery.Literal.Basic
import FilterQuery.Operator

/-!
# Fields

A leaf field of an index mapping. The engine has many type tags; a field is of
one of six kinds, which decides the operators and the values it can be compared
with.
-/

namespace FilterQuery

/-! ## Kinds -/

/-- The kind of a field. -/
inductive FieldKind where
  | long
  | float
  | text
  | date
  | boolean
  /-- Exact strings, the only kind whose values can be suggested. -/
  | keyword
deriving DecidableEq, Inhabited

namespace FieldKind

/-- The engine's own tag for a kind, which is also its name. -/
def tag : FieldKind → String
  | long => "long"
  | float => "float"
  | text => "text"
  | date => "date"
  | boolean => "boolean"
  | keyword => "keyword"

/-- The kind of an engine type tag. -/
def ofTag? (tag : String) : Option FieldKind :=
  if ["long", "integer", "short", "byte", "unsigned_long"].contains tag then some long
  else if ["float", "double", "half_float", "scaled_float"].contains tag then some float
  else if tag = "text" then some text
  else if ["keyword", "constant_keyword", "wildcard"].contains tag then some keyword
  else if tag = "date" then some date
  else if tag = "boolean" then some boolean
  else none

/-- All kinds. -/
def all : List FieldKind := [long, float, text, date, boolean, keyword]

/-- The kind of a name. -/
def ofName? (name : String) : Option FieldKind :=
  all.find? fun kind => kind.tag == name

/-- Read a kind from JSON. -/
def ofJson? (json : Json) : Option FieldKind := do
  ofName? (← json.choice? Json.isNull)

/-- The operators of numbers and dates. -/
def orderOperators : List Operator :=
  [.equal, .notEqual, .greater, .greaterOrEqual, .less, .lessOrEqual, .isIn, .notIn]

/-- The operators that a field of a kind can be compared with. -/
def operators : FieldKind → List Operator
  | long | float | date => orderOperators
  | boolean => [.equal, .notEqual, .isIn, .notIn]
  | text | keyword => Operator.all

/-- The values that a field of a kind can be compared with, in words. -/
def expectation : FieldKind → String
  | long | float => "numeric values"
  | text | keyword => "strings"
  | date => "dates in \"YYYY-MM-DD\" format"
  | boolean => "booleans"

/-- Whether a scalar has a type that fields of a kind accept. -/
def accepts : FieldKind → Literal → Bool
  | long, .int _ | long, .float _ | float, .int _ | float, .float _ => true
  | text, .string _ | keyword, .string _ | date, .string _ => true
  | boolean, .bool _ => true
  | _, _ => false

/-- Whether values of a kind can be suggested. -/
def suggests : FieldKind → Bool
  | keyword => true
  | _ => false

@[simp] theorem ofName?_tag (kind : FieldKind) : ofName? kind.tag = some kind := by
  cases kind <;> decide

@[simp] theorem ofTag?_tag (kind : FieldKind) : ofTag? kind.tag = some kind := by
  cases kind <;> decide

/-- Twins are allowed for the same kinds. -/
theorem mem_operators_twin
    {operator twin : Operator}
    (twins : operator.twin? = some twin)
    (kind : FieldKind) :
    twin ∈ kind.operators ↔ operator ∈ kind.operators := by
  cases operator <;> simp [Operator.twin?] at twins <;> subst twins <;>
    cases kind <;> simp [operators, orderOperators, Operator.all]

end FieldKind

/-! ## Fields of a kind -/

/-- A field that documents of an index can be filtered by. -/
structure Field where
  name : String
  kind : FieldKind
  /-- The engine's type tag. -/
  engineType : String
  /-- The field whose value this one indexes in another way. -/
  parent : Option String
  /-- Whether the field can be compared with null. -/
  nullable : Bool
deriving DecidableEq, Inhabited

namespace Field

/-- A field of a kind, with the kind's own tag. -/
def ofKind (name : String) (kind : FieldKind) : Field :=
  ⟨name, kind, kind.tag, none, false⟩

/-- The type of a field as messages show it. -/
def typeText (field : Field) : String :=
  if field.nullable then "nullable " ++ field.engineType else field.engineType

end Field
end FilterQuery
