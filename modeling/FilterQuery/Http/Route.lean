import FilterQuery.Text.Basic
import FilterQuery.Url.Percent

/-!
# Routes

A route is a method and a path. A target may name its server in full, which
does not matter here. The path is decoded before it is matched, save for the
escapes that would change its shape. The query string is a list of names and
values; a name that a route knows may stand in it once, and all others are
passed over.
-/

namespace FilterQuery

/-! ## Query strings -/

namespace Parameters

/-- Decode a name or a value: a plus sign is a blank. -/
def decode (text : String) : String :=
  Utf8.decode (Percent.decode ((Utf8.encode text).map fun octet =>
    if octet = 0x2B then 0x20 else octet))

/-- The name and the value of a piece; without an equals sign the value is empty. -/
def ofPiece (piece : List Char) : String × String :=
  let name := piece.takeWhile (· != '=')
  (decode (String.ofList name), decode (String.ofList ((piece.drop name.length).drop 1)))

/-- The names and values of a query string. -/
def read (query : String) : List (String × String) :=
  ((Text.splitAt '&' query.toList).filter fun piece => !piece.isEmpty).map ofPiece

/-- Whether each of `names` stands at most once. -/
def standOnce (names : List String) (parameters : List (String × String)) : Bool :=
  names.all fun name => parameters.countP (fun parameter => parameter.1 == name) ≤ 1

end Parameters

/-! ## Requests -/

/-- A request as it arrives. -/
structure Request where
  method : String
  /-- A path, which a query string and a fragment may follow, or the whole address of one. -/
  target : String
  contentType : Option String
  /-- The body, if it is a text at all. -/
  body : Option String
deriving DecidableEq

namespace Request

/-- Whether a character may stand in a scheme. -/
def isSchemeChar (c : Char) : Bool :=
  c.isAlphanum || c == '+' || c == '-' || c == '.'

/-- Whether a character may stand in the name of a server. -/
def isServerChar (c : Char) : Bool :=
  c != '/' && c != '?' && c != '#'

/-- What is behind the server of an absolute target. A target that is neither a path nor absolute
names a server only. -/
def behindServer (target : List Char) : List Char :=
  match target.dropWhile isSchemeChar with
  | ':' :: '/' :: '/' :: rest => rest.dropWhile isServerChar
  | _ => []

/-- The target without its server and its fragment. -/
def resource (request : Request) : List Char :=
  let target := request.target.toList
  let resource := if target.head? = some '/' then target else behindServer target
  resource.takeWhile (· != '#')

/-- The path as it was sent. -/
def path (request : Request) : List Char :=
  request.resource.takeWhile (· != '?')

/-- The query string as it was sent. -/
def query (request : Request) : List Char :=
  (request.resource.drop request.path.length).drop 1

/-- The names and values of the query string. -/
def parameters (request : Request) : List (String × String) :=
  Parameters.read (String.ofList request.query)

end Request

/-- What a request is about. -/
inductive Route where
  /-- The fields of an index. -/
  | mappings
  /-- The values of a field. -/
  | suggestions (field : String)
  /-- The document of an expression. -/
  | query
deriving DecidableEq

namespace Route

/-- The octets whose escapes stay when a path is decoded: percent sign, slash and plus sign. -/
def kept : List UInt8 := [0x25, 0x2F, 0x2B]

/-- A path with most of its escapes replaced. -/
def decodePath (path : List Char) : String :=
  Utf8.decode (Percent.decodeExcept kept (Utf8.encode (String.ofList path)))

/-- The rest of a text behind another. -/
def behind? : List Char → List Char → Option (List Char)
  | [], text => some text
  | c :: rest, d :: text => if c = d then behind? rest text else none
  | _ :: _, [] => none

/-- The field that a decoded path asks the values of. -/
def suggestionsField? (path : String) : Option String :=
  match behind? "/suggestions/".toList path.toList with
  | some segment =>
      if segment.isEmpty ∨ segment.contains '/' then none
      else some (Percent.decodeText segment)
  | none => none

/-- The route of a request. -/
def ofRequest? (request : Request) : Option Route :=
  let path := decodePath request.path
  if request.method = "GET" then
    if path = "/mappings" then some mappings else (suggestionsField? path).map suggestions
  else if request.method = "POST" ∧ path = "/query" then some query
  else none

/-- The parameters that a route knows. -/
def names : Route → List String
  | mappings | query => ["index"]
  | suggestions _ => ["index", "search"]

end Route
end FilterQuery
