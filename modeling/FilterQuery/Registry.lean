import FilterQuery.Index
import FilterQuery.Schema

/-!
# The registry

One schema per index, built on first use and built anew when another validator
is asked for. Schemas are numbered in the order in which they were built and
stay usable after another one has taken their place.
-/

namespace FilterQuery

/-- All schemas, and how new ones are built. -/
structure Registry where
  policy : IndexPolicy
  limits : FieldLimits
  suggestionSize : UInt64
  /-- The validator of requests that ask for none. -/
  defaultValidator : Validator
  /-- The schemas by number. -/
  schemas : List Schema
  /-- The number of the schema of each index that has one. -/
  memo : List (String × Nat)

namespace Registry

/-- A registry without schemas. -/
def ofSettings (settings : RegistrySettings) (validator : Validator) :
    Except ConfigError Registry :=
  settings.policy.map fun policy =>
    ⟨policy, settings.limits, settings.suggestionSize, validator, [], []⟩

/-- Check that there may be a schema for an index. -/
def checkIndex (registry : Registry) (index : String) : Except Error Unit :=
  match Index.checkName index with
  | .error cause => .error cause
  | .ok () => registry.policy.check index

/-- The schema of an index, if there is one whose validator is of the given one's kind. -/
def memoized? (registry : Registry) (index : String) (validator : Validator) :
    Option (Nat × Schema) := do
  let number ← registry.memo.lookup index
  let schema ← registry.schemas[number]?
  if schema.validator.kind = validator.kind then some (number, schema) else none

/-- A new schema for an index. -/
def build (registry : Registry) (index : String) (validator : Validator)
    (connection : Connection) : Schema where
  index := index
  connection := connection
  hidden := registry.limits.hidden index
  validator := validator
  policy := some registry.policy
  suggestionSize := registry.suggestionSize

/-- Give a schema the next number. -/
def adopt (registry : Registry) (schema : Schema) : Nat × Registry :=
  (registry.schemas.length, { registry with schemas := registry.schemas ++ [schema] })

/-- Give a schema the next number and make it the one of its index. -/
def keep (registry : Registry) (schema : Schema) : Nat × Registry :=
  let (number, registry) := registry.adopt schema
  (number, { registry with
    memo := (schema.index, number) :: registry.memo.filter fun entry => entry.1 != schema.index })

/-- The number under which a schema is kept. -/
@[simp] theorem keep_fst (registry : Registry) (schema : Schema) :
    (registry.keep schema).1 = registry.schemas.length := rfl

/-- The schemas after one more is kept. -/
@[simp] theorem schemas_keep (registry : Registry) (schema : Schema) :
    (registry.keep schema).2.schemas = registry.schemas ++ [schema] := rfl

/-- The schema that is kept is the one of its index. -/
theorem lookup_memo_keep (registry : Registry) (schema : Schema) :
    (registry.keep schema).2.memo.lookup schema.index = some registry.schemas.length := by
  simp [keep, adopt]

/-- The schema of an index with the given validator, and its number. -/
def obtain [Monad m] (engine : Engine m) (registry : Registry) (index : String)
    (validator : Validator) : m (Except Error (Nat × Schema) × Registry) :=
  match registry.checkIndex index with
  | .error cause => pure (.error cause, registry)
  | .ok () =>
      match registry.memoized? index validator with
      | some found => pure (.ok found, registry)
      | none => do
          match ← engine.connect with
          | .error cause => pure (.error cause, registry)
          | .ok connection =>
              let schema := registry.build index validator connection
              let (number, registry) := registry.keep schema
              pure (.ok (number, schema), registry)

/-- Put a schema back under its number. -/
def update (registry : Registry) (number : Nat) (schema : Schema) : Registry :=
  { registry with schemas := registry.schemas.set number schema }

/-- Run an operation on the schema of a number, if there is one. -/
def operate? [Monad m] (registry : Registry) (number : Nat)
    (operation : Schema → m (α × Schema)) : m (Option α × Registry) :=
  match registry.schemas[number]? with
  | none => pure (none, registry)
  | some schema => do
      let (result, schema) ← operation schema
      pure (some result, registry.update number schema)

/-- Run an operation on the schema of an index, with the default validator. -/
def operate [Monad m] (engine : Engine m) (registry : Registry) (index : String)
    (operation : Schema → m (Except Error α × Schema)) : m (Except Error α × Registry) := do
  let (found, registry) ← registry.obtain engine index registry.defaultValidator
  match found with
  | .error cause => pure (.error cause, registry)
  | .ok (number, schema) => do
      let (result, schema) ← operation schema
      pure (result, registry.update number schema)

/-- The indices that have a schema, in ascending order. -/
def indices (registry : Registry) : List String :=
  (registry.memo.map Prod.fst).mergeSort

end Registry
end FilterQuery
