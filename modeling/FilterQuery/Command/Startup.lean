import FilterQuery.Command.Arguments
import FilterQuery.Text.Basic

/-!
# Starting up

A run reads its arguments and its configuration, reports what it is going to do,
and builds the registry. Any failure ends it.
-/

namespace FilterQuery

/-- A line of the log. -/
structure LogLine where
  level : String
  /-- The part of the program that writes it. -/
  target : String
  message : String
deriving DecidableEq

namespace LogLine

/-- The characters of ASCII that steer a terminal: bell, backspace, form feed, escape and delete. -/
def steering : List Char := ['\x07', '\x08', '\x0c', '\x1b', '\x7f']

/-- A character as the log shows it, which is spelled out where it would steer a terminal. -/
def shownChar (c : Char) : List Char :=
  if steering.contains c then
    ['\\', 'x', Nat.digitChar (c.toNat / 16), Nat.digitChar (c.toNat % 16)]
  else if 0x80 ≤ c.toNat ∧ c.toNat ≤ 0x9F then
    ['\\', 'u', '\x7b'] ++ Text.hexDigits c.toNat ++ ['\x7d']
  else [c]

/-- A text as the log shows it. -/
def shown (text : String) : String :=
  String.ofList (text.toList.flatMap shownChar)

/-- A line about the course of a run. -/
def info (target message : String) : LogLine := ⟨"INFO", target, shown message⟩

/-- A line of the program itself. -/
def ofProgram (message : String) : LogLine := info "elastic_dql" message

/-- A line of the server. -/
def ofServer (message : String) : LogLine := info "elastic_dql_api::rest" message

end LogLine

/-- A run that is ready to serve. -/
structure Ready where
  config : Config
  registry : Registry
  /-- Whether the log is written. -/
  isLogged : Bool
  log : List LogLine

namespace Ready

/-- What a run reports when it has been stopped. -/
def farewell : LogLine := .ofProgram "Shutting down..."

/-- The log of a run that has been stopped. -/
def stopped (ready : Ready) : List LogLine :=
  if ready.isLogged then ready.log ++ [farewell] else ready.log

end Ready

/-- How a run ends before it serves. -/
inductive Halt where
  | help
  | usage
  | failed (log : List LogLine) (cause : ConfigError)

namespace Startup

/-- The configuration of a run: that of a file, or the defaults. A file that cannot be read has the
reason in place of its text. -/
def configOf (file : String → Except String String) (arguments : Arguments) :
    Except ConfigError Config :=
  match arguments.config with
  | none => .ok (arguments.apply {})
  | some path =>
      match file path with
      | .error reason => .error (.unreadable path reason)
      | .ok text => (Config.parse text).map arguments.apply

/-- Whether the log has lines about the course of a run; an unknown level is read as that. -/
def isLogged (arguments : Arguments) : Bool :=
  match arguments.logLevel with
  | some level => level ≠ "warn" && level ≠ "error"
  | none => true

/-- Where requests get their index from. -/
def indexSource (access : AccessSettings) : String :=
  match access.acceptsIndex, access.defaultIndex with
  | false, some index => "Fixed index: " ++ index
  | _, _ => "Index taken from the request"

/-- What a run reports before it builds the registry. -/
def preface (config : Config) : List LogLine :=
  [.ofProgram "Starting elastic-dql v0.1.0",
    .ofProgram ("Search engine: " ++ ", ".intercalate config.connection.hosts),
    .ofProgram (indexSource config.access)]

/-- What a run reports before it listens. -/
def listening (server : ServerSettings) : LogLine :=
  .ofServer ("Starting HTTP server on " ++ server.host ++ ":" ++ toString server.port.toNat)

/-- The reason for which a run ends that cannot listen. -/
def listenFailure : String := "start failed"

/-- Start a run with the arguments it is given. -/
def start (file : String → Except String String) (arguments : List String) : Except Halt Ready :=
  match Arguments.read arguments with
  | .error .help => .error .help
  | .error .usage => .error .usage
  | .ok arguments =>
      match configOf file arguments with
      | .error cause => .error (.failed [] cause)
      | .ok config =>
          let logged := isLogged arguments
          let shown (log : List LogLine) : List LogLine := if logged then log else []
          match config.registry with
          | .error cause => .error (.failed (shown (preface config)) cause)
          | .ok registry =>
              .ok ⟨config, registry, logged, shown (preface config ++ [listening config.server])⟩

end Startup
end FilterQuery
