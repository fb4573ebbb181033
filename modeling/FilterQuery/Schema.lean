import FilterQuery.Catalog
import FilterQuery.Compile
import FilterQuery.Engine.Basic
import FilterQuery.Index
import FilterQuery.Listing
import FilterQuery.Mapping
import FilterQuery.Validator

/-!
# Schemas

A schema answers questions about one index. Its catalog is fetched when it is
first needed and kept from then on; only a listing of the fields fetches it
again, and a fetch that fails leaves it as it was.
-/

namespace FilterQuery

/-- What is known about one index. -/
structure Schema where
  index : String
  connection : Connection
  /-- Fields that do not exist for callers. -/
  hidden : List String := []
  validator : Validator := .noop
  /-- The policy that holds for the index that an alias stands for. -/
  policy : Option IndexPolicy := none
  suggestionSize : UInt64 := RegistrySettings.defaultSuggestionSize
  /-- The catalog, once it has been fetched. -/
  catalog : Option Catalog := none

namespace Schema

/-- Whether the catalog has been fetched. -/
def isLoaded (schema : Schema) : Bool :=
  schema.catalog.isSome

/-- The entry of a mapping response for an index. An alias is answered for under the name of its
index, so a single entry counts whatever its name is. -/
def entry? (index : String) (entries : List (String × Json)) : Option (String × Json) :=
  match entries.lookup index, entries with
  | some entry, _ => some (index, entry)
  | none, [only] => some only
  | none, _ => none

/-- The name and the mapping of the index that a response is about. -/
def mappingOf (index : String) (response : Json) : Except SchemaError (String × Json) :=
  match response.members? with
  | none => .error (.mappingFetch "mapping response is not an object")
  | some entries =>
      match entry? index entries with
      | none => .error (.mappingFetch ("no mapping for index " ++ index))
      | some (name, entry) =>
          match entry.member? "mappings" with
          | none => .error (.mappingFetch ("no mappings section for index " ++ index))
          | some mappings => .ok (name, mappings)

/-- Whether the policy forbids the index that an alias stands for. -/
def forbids (schema : Schema) (name : String) : Bool :=
  name ≠ schema.index &&
    match schema.policy with
    | some policy => policy.excludes name
    | none => false

/-- The catalog that a mapping response describes. -/
def catalogOf (schema : Schema) (response : Json) : Except SchemaError Catalog :=
  match mappingOf schema.index response with
  | .error cause => .error cause
  | .ok (name, mappings) =>
      if schema.forbids name then .error (.indexExcluded name)
      else (Mapping.fields mappings).map fun fields => .ofFields fields schema.hidden

/-- Take in the answer to a request for the mapping. -/
def receive (schema : Schema) (answer : Except Error Json) : Except Error Catalog × Schema :=
  match answer with
  | .error cause => (.error cause, schema)
  | .ok response =>
      match schema.catalogOf response with
      | .error cause => (.error (.schema cause), schema)
      | .ok catalog => (.ok catalog, { schema with catalog := some catalog })

/-- A fetch that fails leaves the schema as it was. -/
theorem receive_of_error
    {schema : Schema} {answer : Except Error Json} {cause : Error}
    (fails : (schema.receive answer).1 = .error cause) :
    (schema.receive answer).2 = schema := by
  cases answer with
  | error _ => rfl
  | ok response =>
      simp only [receive] at fails ⊢
      cases outcome : schema.catalogOf response with
      | error _ => rfl
      | ok catalog => simp [outcome] at fails

/-- A fetch that succeeds replaces the catalog and nothing else. -/
theorem receive_of_ok
    {schema : Schema} {answer : Except Error Json} {catalog : Catalog}
    (succeeds : (schema.receive answer).1 = .ok catalog) :
    (schema.receive answer).2 = { schema with catalog := some catalog } := by
  cases answer with
  | error _ => simp [receive] at succeeds
  | ok response =>
      simp only [receive] at succeeds ⊢
      cases outcome : schema.catalogOf response with
      | error _ => simp [outcome] at succeeds
      | ok found =>
          simp only [outcome, Except.ok.injEq] at succeeds
          rw [succeeds]

/-- Fetch the catalog. -/
def fetch [Monad m] (engine : Engine m) (schema : Schema) : m (Except Error Catalog × Schema) := do
  let answer ← engine.mapping schema.connection schema.index
  pure (schema.receive answer)

/-- The catalog; it is fetched if that has not been done. -/
def load [Monad m] (engine : Engine m) (schema : Schema) : m (Except Error Catalog × Schema) :=
  match schema.catalog with
  | some catalog => pure (.ok catalog, schema)
  | none => schema.fetch engine

/-- A loaded schema does not ask the engine. -/
theorem load_of_catalog [Monad m]
    (engine : Engine m) {schema : Schema} {catalog : Catalog}
    (loaded : schema.catalog = some catalog) :
    schema.load engine = pure (.ok catalog, schema) := by
  simp only [load, loaded]

/-- List the fields, as the engine has them now. -/
def fields [Monad m] (engine : Engine m) (schema : Schema) :
    m (Except Error (List Field) × Schema) := do
  let (catalog, schema) ← schema.fetch engine
  pure (catalog.map Catalog.fields, schema)

/-- The field of a name. -/
def resolve [Monad m] (engine : Engine m) (schema : Schema) (name : String) :
    m (Except Error Field × Schema) := do
  let (catalog, schema) ← schema.load engine
  pure (catalog.bind fun catalog => catalog.resolve name, schema)

/-- The most frequent values of a field, all of them or those that contain a search text. -/
def suggest [Monad m] (engine : Engine m) (schema : Schema) (name : String)
    (search : Option String) : m (Except Error (List Suggestion) × Schema) := do
  let (field, schema) ← schema.resolve engine name
  match field with
  | .error cause => pure (.error cause, schema)
  | .ok field =>
      if field.kind.suggests then do
        let response ← engine.search schema.connection schema.index
          (Suggestion.query field.name search)
          (Suggestion.aggregations field.name schema.suggestionSize)
        pure (response.map Suggestion.ofResponse, schema)
      else pure (.error (.schema (.notSuggestable name)), schema)

/-- Check an expression before it is compiled. -/
def validate (schema : Schema) (expr : Expr) : Except Error Unit :=
  schema.validator.check expr

/-- The document of an expression; the engine is not asked about one that is refused. -/
def compile [Monad m] (engine : Engine m) (schema : Schema) (expr : Expr) :
    m (Except Error Json × Schema) :=
  match schema.validate expr with
  | .error cause => pure (.error cause, schema)
  | .ok () => do
      let (catalog, schema) ← schema.load engine
      pure (catalog.bind fun catalog => expr.document catalog.resolve, schema)

end Schema
end FilterQuery
