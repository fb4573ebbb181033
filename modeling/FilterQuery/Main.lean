import FilterQuery.Command.Startup
import FilterQuery.Engine.Wire
import FilterQuery.Http.Service
import FilterQuery.Json.Printer
import Std.Http

/-!
# The program

Serves field listings, value suggestions and the compilation of filter
expressions over HTTP. Here files are read, sockets are opened and the log is
written; what is done with all of it is decided elsewhere.
-/

namespace FilterQuery
namespace Program

/-- What is printed on request, or when the arguments cannot be used. -/
def usage : String :=
  "Compile filter expressions into search-engine bool queries\n\n" ++
  "Usage: elastic-dql [OPTIONS]\n\n" ++
  "Options:\n" ++
  "  -c, --config <CONFIG>                Path to a JSON configuration file\n" ++
  "      --host <HOST>                    HTTP listen address (overrides the config file)\n" ++
  "      --port <PORT>                    HTTP port (overrides the config file)\n" ++
  "      --engine-host <ENGINE_HOSTS>     Search-engine URL; repeat for several hosts " ++
    "(overrides the config file)\n" ++
  "      --default-index <DEFAULT_INDEX>  Always query this index and ignore the request\n" ++
  "      --log-level <LOG_LEVEL>          Log level [default: info]\n" ++
  "  -h, --help                           Print help"

/-- Why a file could not be read. -/
def reason : IO.Error → String
  | .noFileOrDirectory .. => "No such file or directory (os error 2)"
  | .permissionDenied .. => "Permission denied (os error 13)"
  | other => toString other

/-- The text of a file, or the reason why there is none. -/
def readText (path : String) : IO (Except String String) := do
  try
    let octets ← IO.FS.readBinFile path
    match String.fromUTF8? octets with
    | some text => return .ok text
    | none => return .error "stream did not contain valid UTF-8"
  catch failure => return .error (reason failure)

/-- Read the one file that the arguments name. -/
def fileOf (arguments : List String) : IO (String → Except String String) := do
  match Arguments.read arguments with
  | .ok ⟨some path, _, _, _, _, _⟩ =>
      let text ← readText path
      return fun _ => text
  | _ => return fun path => .error path

/-- Write lines of the log. -/
def writeLog (log : List LogLine) : IO Unit := do
  for line in log do
    IO.println (line.level ++ " " ++ line.target ++ ": " ++ line.message)

/-- The first address of a host. -/
def resolveHost (host : String) (port : UInt16) : Std.Async.Async Std.Net.SocketAddress := do
  let addresses : Array Std.Net.IPAddr ← Std.Async.DNS.getAddrInfo host (toString port.toNat)
  match addresses.toList with
  | .v4 address :: _ => return .v4 ⟨address, port⟩
  | .v6 address :: _ => return .v6 ⟨address, port⟩
  | [] => throw (IO.userError ("no address for " ++ host))

/-- All octets that a peer sends until it closes the connection. -/
partial def receiveAll (socket : Std.Async.TCP.Socket.Client) (received : ByteArray) :
    Std.Async.Async ByteArray := do
  match ← socket.recv? 65536 with
  | some octets => receiveAll socket (received ++ octets)
  | none => return received

/-- Send a request and wait for the response. -/
def exchange (endpoint : Endpoint) (request : EngineRequest) : Std.Async.Async (List UInt8) := do
  let socket ← Std.Async.TCP.Socket.Client.mk
  socket.connect (← resolveHost endpoint.host endpoint.port)
  socket.send (Wire.render endpoint request).toUTF8
  let octets ← receiveAll socket .empty
  return octets.toList

/-- Send a request to the engine. -/
def send (request : EngineRequest) : IO (Except String Json) := do
  let address := request.url.render
  match Endpoint.ofUrl? request.url with
  | none => return .error ("error sending request for url (" ++ address ++ ")")
  | some endpoint =>
      try
        return Wire.response address (← (exchange endpoint request).block)
      catch _ => return .error ("error sending request for url (" ++ address ++ ")")

/-- Requests go over sockets, which are opened when a request is sent. -/
def transport : Transport IO where
  setUp _ := pure (.ok ())
  send := send

/-- A server at work: requests take turns with the registry. -/
structure Running where
  access : AccessSettings
  state : Std.Mutex (Registry × Remote)

/-- Answer a request and keep what has been learnt. -/
def Running.answer (running : Running) (request : Request) : IO Response :=
  running.state.atomically do
    let (registry, remote) ← get
    let ((response, registry), remote) ←
      (Service.answer (Remote.engine transport) running.access registry request).run remote
    set (registry, remote)
    return response

/-- A request as it came over the network. -/
def requestOf (head : Std.Http.Request.Head) (body : ByteArray) : Request where
  method := toString head.method
  target := toString head.uri
  contentType := (head.headers.get? .contentType).map fun value => value.value
  body := String.fromUTF8? body

instance : Std.Http.Server.Handler Running where
  onRequest running request := do
    let body : ByteArray ← request.body.readAll
    let response ← running.answer (requestOf request.line body)
    let status := (Std.Http.Status.ofCode none (UInt16.ofNat response.status)).getD .badRequest
    let reply := Std.Http.Response.withStatus status
    match response.body with
    | some json => do
        let full ← reply.json json.render
        return { full with body := .ofBody full.body }
    | none => do
        let empty ← reply.text ""
        return { empty with body := .ofBody empty.body }

/-- Serve until the process is asked to stop. -/
def serve (ready : Ready) : Std.Async.Async Unit := do
  let settings := ready.config.server
  let address ← resolveHost settings.host settings.port
  let state ← Std.Mutex.new (ready.registry, ({ settings := ready.config.connection } : Remote))
  let server ← Std.Http.Server.serve address (Running.mk ready.config.access state)
  let terminated ← Std.Async.Signal.Waiter.mk .sigterm false
  let interrupted ← Std.Async.Signal.Waiter.mk .sigint false
  Std.Async.Selectable.one
    #[.case terminated.selector fun _ => pure (), .case interrupted.selector fun _ => pure ()]
  server.shutdownAndWait

end Program
end FilterQuery

open FilterQuery in
/-- Run the program. -/
def main (arguments : List String) : IO UInt32 := do
  match Startup.start (← Program.fileOf arguments) arguments with
  | .error .help =>
      IO.println Program.usage
      return 0
  | .error .usage =>
      IO.eprintln Program.usage
      return 2
  | .error (.failed log cause) =>
      Program.writeLog log
      IO.eprintln ("Error: " ++ cause.message)
      return 1
  | .ok ready =>
      Program.writeLog ready.log
      try
        (Program.serve ready).block
        Program.writeLog (ready.stopped.drop ready.log.length)
        return 0
      catch _ =>
        IO.eprintln ("Error: " ++ Startup.listenFailure)
        return 1
