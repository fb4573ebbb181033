import FilterQuery.Error

/-!
# Field catalogs

The visible fields of an index, by name.
-/

namespace FilterQuery

/-- The fields of an index in mapping order. -/
structure Catalog where
  fields : List Field
deriving DecidableEq, Inhabited

namespace Catalog

/-- The catalog of the fields that are not hidden. -/
def ofFields (fields : List Field) (hidden : List String) : Catalog :=
  ⟨fields.filter fun field => !hidden.contains field.name⟩

/-- The field of a name; of several the last one. -/
def get? (catalog : Catalog) (name : String) : Option Field :=
  catalog.fields.reverse.find? fun field => field.name == name

/-- The field of a name, or the reason why there is none. -/
def resolve (catalog : Catalog) (name : String) : Except Error Field :=
  match catalog.get? name with
  | some field => .ok field
  | none => .error (.schema (.unresolvedField name))

/-- A field that is found has the name that was asked for. -/
theorem name_of_get?
    {catalog : Catalog} {name : String} {field : Field}
    (found : catalog.get? name = some field) :
    field.name = name := by
  have matching := List.find?_some found
  simpa using matching

end Catalog
end FilterQuery
