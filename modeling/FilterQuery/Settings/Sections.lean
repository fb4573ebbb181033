import FilterQuery.Error
import FilterQuery.Index
import FilterQuery.Json.Written
import FilterQuery.Settings.Limits

/-!
# Sections of the configuration

Every section has defaults for all of its members, and it is read from an object
or from an array of the members in their order.
-/

namespace FilterQuery

/-- Read a whole number of 16 bits. -/
def Json.uint16? (json : Json) : Option UInt16 :=
  (json.nat? UInt16.size).map UInt16.ofNat

/-- Read a whole number of 64 bits. -/
def Json.uint64? (json : Json) : Option UInt64 :=
  (json.nat? UInt64.size).map UInt64.ofNat

/-- A whole number of 64 bits, or null where there is none. -/
def Json.ofUInt64? : Option UInt64 → Json
  | some value => .int value.toNat
  | none => .null

/-- Where the server listens. -/
structure ServerSettings where
  host : String := "127.0.0.1"
  port : UInt16 := 8000
deriving DecidableEq, Inhabited

namespace ServerSettings

/-- The members of the section. -/
def names : List String := ["host", "port"]

/-- Read the section from JSON. -/
def ofJson? (json : Json) : Option ServerSettings := do
  let [host, port] ← json.record? names | none
  let host ← Json.defaulted "127.0.0.1" Json.string? host
  let port ← Json.defaulted 8000 Json.uint16? port
  return ⟨host, port⟩

/-- Write the section as JSON. -/
def toJson (settings : ServerSettings) : Json :=
  .object [("host", .string settings.host), ("port", .int settings.port.toNat)]

end ServerSettings

/-- Which indices are served, and how. -/
structure RegistrySettings where
  included : List String
  excluded : List String
  limits : FieldLimits
  suggestionSize : UInt64

namespace RegistrySettings

/-- How many values are suggested where nothing else is said. -/
def defaultSuggestionSize : UInt64 := 10

/-- Every index is served. -/
def everyIndex : RegistrySettings :=
  ⟨[IndexPolicy.everyIndex], [], .none, defaultSuggestionSize⟩

/-- The members of the section. -/
def names : List String := ["include_indices", "exclude_indices", "field_limits", "suggestion_size"]

/-- Read the section from JSON; unlike a missing section, an empty one serves no index. -/
def ofJson? (json : Json) : Option RegistrySettings := do
  let [included, excluded, limits, size] ← json.record? names | none
  let included ← Json.defaulted [] Json.strings? included
  let excluded ← Json.defaulted [] Json.strings? excluded
  let limits ← Json.defaulted .none FieldLimits.ofJson? limits
  let size ← Json.defaulted defaultSuggestionSize Json.uint64? size
  return ⟨included, excluded, limits, size⟩

/-- Write the section as JSON. -/
def toJson (settings : RegistrySettings) : Json :=
  .object [("include_indices", .ofStrings settings.included),
    ("exclude_indices", .ofStrings settings.excluded),
    ("field_limits", settings.limits.toJson),
    ("suggestion_size", .int settings.suggestionSize.toNat)]

/-- The policy of the two lists. -/
def policy (settings : RegistrySettings) : Except ConfigError IndexPolicy :=
  IndexPolicy.ofLists settings.included settings.excluded

end RegistrySettings

/-- How the search engine is reached. -/
structure ConnectionSettings where
  /-- Base addresses, taken in turn. -/
  hosts : List String := ["http://localhost:9200"]
  username : Option String := none
  password : Option String := none
  /-- Takes precedence over the user name. -/
  apiKey : Option String := none
  timeoutSeconds : Option UInt64 := none
deriving DecidableEq, Inhabited

namespace ConnectionSettings

/-- The members of the section. -/
def names : List String := ["hosts", "username", "password", "api_key", "timeout_secs"]

/-- Read the section from JSON. -/
def ofJson? (json : Json) : Option ConnectionSettings := do
  let [hosts, username, password, apiKey, timeout] ← json.record? names | none
  let hosts ← Json.defaulted ["http://localhost:9200"] Json.strings? hosts
  let username ← Json.optional Json.string? username
  let password ← Json.optional Json.string? password
  let apiKey ← Json.optional Json.string? apiKey
  let timeout ← Json.optional Json.uint64? timeout
  return ⟨hosts, username, password, apiKey, timeout⟩

/-- Write the section as JSON. -/
def toJson (settings : ConnectionSettings) : Json :=
  .object [("hosts", .ofStrings settings.hosts),
    ("username", .ofString? settings.username),
    ("password", .ofString? settings.password),
    ("api_key", .ofString? settings.apiKey),
    ("timeout_secs", .ofUInt64? settings.timeoutSeconds)]

end ConnectionSettings

/-- Where a request's index comes from. -/
structure AccessSettings where
  /-- Whether a request may name the index. -/
  acceptsIndex : Bool := true
  /-- The index where none is named or none may be. -/
  defaultIndex : Option String := none
deriving DecidableEq, Inhabited

namespace AccessSettings

/-- The members of the section. -/
def names : List String := ["accept_index_param", "default_index"]

/-- Read the section from the values of its members. -/
def ofMembers? (accepts index : Option Json) : Option AccessSettings := do
  let accepts ← Json.defaulted true Json.bool? accepts
  let index ← Json.optional Json.string? index
  return ⟨accepts, index⟩

/-- Read the section from JSON. -/
def ofJson? (json : Json) : Option AccessSettings := do
  let [accepts, index] ← json.record? names | none
  ofMembers? accepts index

/-- The members of the section as JSON. -/
def toMembers (settings : AccessSettings) : List (String × Json) :=
  [("accept_index_param", .bool settings.acceptsIndex),
    ("default_index", .ofString? settings.defaultIndex)]

/-- Write the section as JSON. -/
def toJson (settings : AccessSettings) : Json :=
  .object settings.toMembers

/-- Check that every request can have an index. -/
def check (settings : AccessSettings) : Except ConfigError Unit :=
  if !settings.acceptsIndex ∧ settings.defaultIndex = none then .error .missingDefaultIndex
  else .ok ()

/-- The index of a request that names one or does not; an empty name counts as none. -/
def resolve (settings : AccessSettings) (requested : Option String) : Except Error String :=
  match requested.filter fun index => settings.acceptsIndex && index ≠ "" with
  | some index => .ok index
  | none =>
      match settings.defaultIndex with
      | some index => .ok index
      | none => .error (.schema .indexNotSpecified)

/-- A fixed index does not depend on what a request names. -/
theorem resolve_eq_of_fixed
    {settings : AccessSettings}
    (fixed : settings.acceptsIndex = false)
    (first second : Option String) :
    settings.resolve first = settings.resolve second := by
  have ignored (requested : Option String) :
      requested.filter (fun index => settings.acceptsIndex && index ≠ "") = none := by
    cases requested <;> simp [Option.filter, fixed]
  simp only [resolve, ignored]

end AccessSettings
end FilterQuery
