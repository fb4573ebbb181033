import FilterQuery.Field.Basic
import FilterQuery.Query.Fragment
import FilterQuery.Settings.Sections

/-!
# Listings

What callers get to see of fields and of the values that documents hold.
-/

namespace FilterQuery

/-- A line of a field listing. -/
structure FieldInfo where
  name : String
  engineType : String
deriving DecidableEq, Inhabited

namespace FieldInfo

/-- The line of a field. -/
def ofField (field : Field) : FieldInfo := ⟨field.name, field.engineType⟩

/-- The members of a line. -/
def names : List String := ["name", "type"]

/-- Read a line from JSON. -/
def ofJson? (json : Json) : Option FieldInfo := do
  let [name, engineType] ← json.record? names | none
  let name ← Json.required Json.string? name
  let engineType ← Json.required Json.string? engineType
  return ⟨name, engineType⟩

/-- Write a line as JSON. -/
def toJson (info : FieldInfo) : Json :=
  .object [("name", .string info.name), ("type", .string info.engineType)]

end FieldInfo

/-- A value of a field and the number of documents that hold it. -/
structure Suggestion where
  key : String
  documents : UInt64
deriving DecidableEq, Inhabited

namespace Suggestion

/-- The members of a suggestion. -/
def names : List String := ["key", "doc_count"]

/-- Read a suggestion from JSON. -/
def ofJson? (json : Json) : Option Suggestion := do
  let [key, documents] ← json.record? names | none
  let key ← Json.required Json.string? key
  let documents ← Json.required Json.uint64? documents
  return ⟨key, documents⟩

/-- Write a suggestion as JSON. -/
def toJson (suggestion : Suggestion) : Json :=
  .object [("key", .string suggestion.key), ("doc_count", .int suggestion.documents.toNat)]

/-- The buckets of an aggregation response, where it has any. -/
def buckets? (response : Json) : Option (List Json) := do
  let aggregations ← response.member? "aggregations"
  let values ← aggregations.member? "values"
  (← values.member? "buckets").items?

/-- The suggestions of an aggregation response; buckets of another form are passed over. -/
def ofResponse (response : Json) : List Suggestion :=
  ((buckets? response).getD []).filterMap ofJson?

/-- The query for the documents that have a value of the field, and one that contains the search
text if there is any. -/
def query (field : String) (search : Option String) : Json :=
  let present := Leaf.hasValue field
  let matching :=
    match search with
    | some text => if text = "" then [] else [Leaf.wildcard field (Pattern.containing text)]
    | none => []
  (BoolQuery.filter ((present :: matching).map .leaf)).toJson

/-- The aggregation that counts the most frequent values of a field. -/
def aggregations (field : String) (size : UInt64) : Json :=
  .object [("values", .object [("terms", .object
    [("field", .string field), ("size", .int size.toNat)])])]

end Suggestion
end FilterQuery
