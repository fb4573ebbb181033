import FilterQuery.Engine.Basic
import FilterQuery.Index
import FilterQuery.Settings.Sections
import FilterQuery.Url.Reader

/-!
# Engines behind a network

Requests go to the hosts in turn, each connection with a turn of its own. A
request that cannot be built fails here; sending it is left to a transport,
which is set up for every connection.
-/

namespace FilterQuery

/-- A request that is ready to be sent. -/
structure EngineRequest where
  url : Url
  /-- The credentials that the host was configured with. -/
  credentials : Option Url.Credentials
  /-- The body of a search; a mapping is asked for without one. -/
  body : Option Json
  settings : ConnectionSettings

/-- The means by which requests are sent. -/
structure Transport (m : Type → Type) where
  /-- Get ready for requests that may take so many seconds, or say why that is not possible. -/
  setUp (timeout : Option UInt64) : m (Except String Unit)
  /-- Send a request and wait for the response. -/
  send (request : EngineRequest) : m (Except String Json)

/-- The connections to an engine. -/
structure Remote where
  settings : ConnectionSettings
  /-- How many requests each connection has made. -/
  turns : List Nat := []
  /-- How often a connection was asked for. -/
  attempts : Nat := 0
deriving DecidableEq

namespace Remote

/-- Whether a character may stand in a header. -/
def isHeaderChar (c : Char) : Bool :=
  c == '\t' || (0x20 ≤ c.toNat && c.toNat != 0x7F)

/-- Whether the key, where there is one, can be sent. -/
def keyFits (settings : ConnectionSettings) : Bool :=
  match settings.apiKey with
  | some key => key.toList.all isHeaderChar
  | none => true

/-- A host without the slashes at its end. -/
def trimHost (host : String) : String :=
  String.ofList (host.toList.reverse.dropWhile (· == '/')).reverse

/-- The host whose turn it is, where there are hosts at all. -/
def host? (settings : ConnectionSettings) (turn : Nat) : Option String :=
  (settings.hosts[turn % settings.hosts.length]?).map trimHost

/-- The address of a request about an index. -/
def address (host index name : String) : String :=
  host ++ "/" ++ index ++ "/" ++ name

/-- Build a request, or say why it cannot be built. -/
def build (settings : ConnectionSettings) (turn : Nat) (index name : String) (body : Option Json) :
    Except String EngineRequest :=
  let refusal (url : Url) : String := "builder error for url (" ++ url.render ++ ")"
  match Url.read? (address ((host? settings turn).getD "") index name) with
  | none => .error "builder error"
  | some url =>
      if !url.hasHost then .error (refusal url)
      else if !keyFits settings then .error "builder error"
      else
        let (credentials, url) := url.takeCredentials
        if url.isHttp then .ok ⟨url, credentials, body, settings⟩ else .error (refusal url)

/-- Open a connection; there must be a host to connect to and a means to send requests. -/
def connect [Monad m] (transport : Transport m) : StateT Remote m (Except Error Connection) :=
  fun remote =>
    let remote := { remote with attempts := remote.attempts + 1 }
    if remote.settings.hosts.isEmpty then pure (.error (.config .noHosts), remote)
    else do
      match ← transport.setUp remote.settings.timeoutSeconds with
      | .error reason => pure (.error (.config (.noClient reason)), remote)
      | .ok () =>
          pure (.ok ⟨remote.turns.length⟩, { remote with turns := remote.turns ++ [0] })

/-- Build the next request of a connection. The name is checked first, and only a good name takes a
turn; `failure` words the reasons for which a request cannot be made. -/
def prepare (remote : Remote) (connection : Connection) (failure : String → SchemaError)
    (index name : String) (body : Option Json) : Except Error EngineRequest × Remote :=
  match Index.checkName index with
  | .error cause => (.error cause, remote)
  | .ok () =>
      let turn := remote.turns.getD connection.number 0
      let request := build remote.settings turn index name body
      (request.mapError fun reason => .schema (failure reason),
        { remote with turns := remote.turns.set connection.number (turn + 1) })

/-- Make the next request of a connection. -/
def ask [Monad m] (transport : Transport m) (connection : Connection)
    (failure : String → SchemaError) (index name : String) (body : Option Json) :
    StateT Remote m (Except Error Json) := fun remote =>
  match remote.prepare connection failure index name body with
  | (.error cause, remote) => pure (.error cause, remote)
  | (.ok request, remote) => do
      let response ← transport.send request
      pure (response.mapError fun reason => .schema (failure reason), remote)

/-- The body of a search: no documents, only the aggregations. -/
def searchBody (query aggregations : Json) : Json :=
  .object [("size", .int 0), ("query", query), ("aggs", aggregations)]

/-- The engine that a transport reaches. -/
def engine [Monad m] (transport : Transport m) : Engine (StateT Remote m) where
  connect := connect transport
  mapping connection index := ask transport connection .mappingFetch index "_mapping" none
  search connection index query aggregations :=
    ask transport connection .search index "_search" (some (searchBody query aggregations))

end Remote
end FilterQuery
