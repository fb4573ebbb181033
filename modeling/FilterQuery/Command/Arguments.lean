import FilterQuery.Number.Numeral
import FilterQuery.Settings.Config

/-!
# Command-line arguments

An option takes a value, which is attached to it or is the next argument. Only
the hosts of the engine may be given more than once.
-/

namespace FilterQuery

/-- What is set on the command line. -/
structure Arguments where
  config : Option String := none
  host : Option String := none
  port : Option UInt16 := none
  engineHosts : List String := []
  defaultIndex : Option String := none
  logLevel : Option String := none
deriving DecidableEq

namespace Arguments

/-- Why the program does not go on with its arguments. -/
inductive Refusal where
  /-- Help was asked for. -/
  | help
  /-- The arguments cannot be used. -/
  | usage
deriving DecidableEq

/-- The options that take a value. -/
inductive Setting where
  | config
  | host
  | port
  | engineHost
  | defaultIndex
  | logLevel
deriving DecidableEq

namespace Setting

/-- The option of a long name. -/
def ofName? : String → Option Setting
  | "config" => some config
  | "host" => some host
  | "port" => some port
  | "engine-host" => some engineHost
  | "default-index" => some defaultIndex
  | "log-level" => some logLevel
  | _ => none

end Setting

/-- Read a port: a whole number, with or without a sign, of 16 bits. -/
def port? (text : String) : Option UInt16 := do
  let numeral ← Numeral.split? text.toList
  let number ← numeral.integer?
  if 0 ≤ number ∧ number < UInt16.size then some (UInt16.ofNat number.toNat) else none

/-- Set what has not been set. -/
def once (old : Option α) (value : α) : Option (Option α) :=
  match old with
  | none => some (some value)
  | some _ => none

/-- Store the value of an option, if it may have that value. -/
def store? (arguments : Arguments) (value : String) : Setting → Option Arguments
  | .config => do
      if value = "" then none
      return { arguments with config := ← once arguments.config value }
  | .host => do return { arguments with host := ← once arguments.host value }
  | .port => do
      let port ← port? value
      return { arguments with port := ← once arguments.port port }
  | .engineHost => some { arguments with engineHosts := arguments.engineHosts ++ [value] }
  | .defaultIndex => do
      return { arguments with defaultIndex := ← once arguments.defaultIndex value }
  | .logLevel => do return { arguments with logLevel := ← once arguments.logLevel value }

/-- What a single argument is. -/
inductive Word where
  | help
  | option (setting : Setting) (attached : Option String)
  /-- Nothing more may follow. -/
  | finish
  /-- No option: a value, or something unknown. -/
  | other

namespace Word

/-- What an argument behind two hyphens is. -/
def ofLong (text : List Char) : Word :=
  let name := text.takeWhile (· != '=')
  let attached :=
    match text.drop name.length with
    | _ :: value => some (String.ofList value)
    | [] => none
  if name = "help".toList ∧ attached = none then help
  else
    match Setting.ofName? (String.ofList name) with
    | some setting => option setting attached
    | none => other

/-- The value that is attached to an option of one letter. -/
def attachedToLetter : List Char → Option String
  | [] => none
  | '=' :: value => some (String.ofList value)
  | value => some (String.ofList value)

/-- What an argument is. -/
def ofText (text : List Char) : Word :=
  match text with
  | ['-', '-'] => finish
  | '-' :: '-' :: rest => ofLong rest
  | '-' :: 'h' :: _ => help
  | '-' :: 'c' :: rest => option .config (attachedToLetter rest)
  | _ => other

end Word

/-- Whether an argument can be the value of the option before it. A hyphen alone can. -/
def isValue (argument : String) : Bool :=
  argument = "-" || argument.toList.head? ≠ some '-'

/-- Read arguments one after the other. -/
def readFrom (arguments : Arguments) : List String → Except Refusal Arguments
  | [] => .ok arguments
  | argument :: rest =>
      match Word.ofText argument.toList, rest with
      | .help, _ => .error .help
      | .other, _ => .error .usage
      | .finish, [] => .ok arguments
      | .finish, _ :: _ => .error .usage
      | .option _ none, [] => .error .usage
      | .option setting none, value :: rest =>
          match if isValue value then arguments.store? value setting else none with
          | some arguments => readFrom arguments rest
          | none => .error .usage
      | .option setting (some value), rest =>
          match arguments.store? value setting with
          | some arguments => readFrom arguments rest
          | none => .error .usage

/-- Read the arguments of a run. -/
def read (arguments : List String) : Except Refusal Arguments :=
  readFrom {} arguments

/-- A configuration with what the command line sets. An index from there is the only one. -/
def apply (arguments : Arguments) (config : Config) : Config :=
  { config with
    server := {
      host := arguments.host.getD config.server.host
      port := arguments.port.getD config.server.port }
    connection := { config.connection with
      hosts := if arguments.engineHosts = [] then config.connection.hosts
        else arguments.engineHosts }
    access :=
      match arguments.defaultIndex with
      | some index => ⟨false, some index⟩
      | none => config.access }

end Arguments
end FilterQuery
