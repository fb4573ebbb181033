import FilterQuery.Registry
import FilterQuery.Settings.Sections

/-!
# The configuration

A configuration is an object; a section that is missing has its defaults. The
members that say where a request's index comes from stand at top level.
-/

namespace FilterQuery

/-- Everything that is set at startup. -/
structure Config where
  server : ServerSettings := {}
  index : RegistrySettings := .everyIndex
  connection : ConnectionSettings := {}
  access : AccessSettings := {}
  /-- The greatest depth of an expression. -/
  maxDepth : Option UInt64 := none

namespace Config

/-- The members of a configuration. -/
def names : List String :=
  ["server", "index", "connection", "accept_index_param", "default_index", "max_depth"]

/-- Read a configuration from its members. -/
def ofMembers? (members : List (String × Json)) : Option Config := do
  let [server, index, connection, accepts, defaultIndex, depth] ←
    (Json.object members).record? names | none
  let server ← Json.defaulted {} ServerSettings.ofJson? server
  let index ← Json.defaulted .everyIndex RegistrySettings.ofJson? index
  let connection ← Json.defaulted {} ConnectionSettings.ofJson? connection
  let access ← AccessSettings.ofMembers? accepts defaultIndex
  let depth ← Json.optional Json.uint64? depth
  return ⟨server, index, connection, access, depth⟩

/-- Read a configuration from JSON. -/
def ofJson? : Json → Option Config
  | .object members => ofMembers? members
  | _ => none

/-- Read a configuration from a text. Unknown members of a section need not have a value; those at
top level must. -/
def ofText? (text : String) : Option Config := do
  let written ← Json.Written.read? text
  let known := written
    |>.mapMember "server" (Json.Written.restrict ServerSettings.names)
    |>.mapMember "index" (Json.Written.restrict RegistrySettings.names)
    |>.mapMember "connection" (Json.Written.restrict ConnectionSettings.names)
  let json ← known.bounded?
  ofJson? json

/-- Read a configuration from a text, or say that it is none. -/
def parse (text : String) : Except ConfigError Config :=
  match ofText? text with
  | some config => .ok config
  | none => .error .malformed

/-- Write a configuration as JSON. -/
def toJson (config : Config) : Json :=
  .object ([("server", config.server.toJson), ("index", config.index.toJson),
    ("connection", config.connection.toJson)] ++ config.access.toMembers ++
    [("max_depth", .ofUInt64? config.maxDepth)])

/-- Check a configuration at startup. -/
def check (config : Config) : Except ConfigError Unit :=
  match config.index.policy with
  | .error cause => .error cause
  | .ok _ =>
      match config.access.check with
      | .error cause => .error cause
      | .ok () =>
          if config.connection.hosts = [] then .error .noHosts
          else if config.maxDepth = some 0 then .error .noDepth
          else .ok ()

/-- The validator of requests. -/
def validator (config : Config) : Validator :=
  match config.maxDepth with
  | some limit => .depthLimit limit.toNat
  | none => .noop

/-- A configuration asks for one of the provided validators. -/
theorem validator_provided (config : Config) : config.validator.Provided := by
  unfold validator
  cases config.maxDepth with
  | none => exact .noop
  | some limit => exact .depthLimit limit.toNat

/-- The registry of a configuration that passes the check. -/
def registry (config : Config) : Except ConfigError Registry :=
  match config.check with
  | .error cause => .error cause
  | .ok () => Registry.ofSettings config.index config.validator

end Config
end FilterQuery
