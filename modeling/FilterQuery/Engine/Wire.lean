import FilterQuery.Engine.Remote
import FilterQuery.Json.Printer
import FilterQuery.Json.Written
import FilterQuery.Number.Numeral
import FilterQuery.Text.Utf8

/-!
# Engine requests on the wire

A request is written as an HTTP message that asks for the connection to be
closed, so that the response ends where the connection does.
-/

namespace FilterQuery

/-- The place that a request is sent to. -/
structure Endpoint where
  host : String
  port : UInt16
  /-- What is asked for there. -/
  path : String
deriving DecidableEq

namespace Endpoint

/-- The name or the address of a host. -/
def hostOf : Host → String
  | .name text => text
  | .ipv4 address => address.render
  | .ipv6 address => address.render

/-- The endpoint of an address with the scheme `http`. -/
def ofUrl? (url : Url) : Option Endpoint := do
  let authority ← url.authority
  if url.scheme = "http" then
    return ⟨hostOf authority.host, authority.port.getD 80, url.resource⟩
  else none

end Endpoint

namespace Wire

/-- The digits of a base-64 text. -/
def base64Digits : List Char :=
  "ABCDEFGHIJKLMNOPQRSTUVWXYZabcdefghijklmnopqrstuvwxyz0123456789+/".toList

/-- A number below 64 as a digit. -/
def base64Digit (value : Nat) : Char :=
  base64Digits.getD value '='

/-- Octets in base 64: four digits for every three of them, filled up at the end. -/
def base64 : List UInt8 → List Char
  | a :: b :: c :: rest =>
      let bits := (a.toNat * 256 + b.toNat) * 256 + c.toNat
      base64Digit (bits / 262144) :: base64Digit (bits / 4096 % 64) ::
        base64Digit (bits / 64 % 64) :: base64Digit (bits % 64) :: base64 rest
  | [a, b] =>
      let bits := (a.toNat * 256 + b.toNat) * 4
      [base64Digit (bits / 4096), base64Digit (bits / 64 % 64), base64Digit (bits % 64), '=']
  | [a] =>
      let bits := a.toNat * 16
      [base64Digit (bits / 64), base64Digit (bits % 64), '=', '=']
  | [] => []

/-- The header that proves who is asking by a password. -/
def basic (user : String) (password : Option String) : String :=
  let proof := Utf8.encode (user ++ ":" ++ password.getD "")
  "Authorization: Basic " ++ String.ofList (base64 proof)

/-- The headers that prove who is asking; a key takes precedence over a user name. -/
def authorization (request : EngineRequest) : List String :=
  let settings := request.settings
  let ofUrl := request.credentials.toList.map fun given => basic given.user given.password
  match settings.apiKey, settings.username with
  | some key, _ => ofUrl ++ ["Authorization: ApiKey " ++ key]
  | none, some user => ofUrl ++ [basic user settings.password]
  | none, none => ofUrl

/-- A request as it is sent. -/
def render (endpoint : Endpoint) (request : EngineRequest) : String :=
  let line (method : String) : String := method ++ " " ++ endpoint.path ++ " HTTP/1.0"
  let shared := ["Host: " ++ endpoint.host ++ ":" ++ toString endpoint.port.toNat, "Accept: */*"] ++
    authorization request
  let lines :=
    match request.body.map Json.render with
    | none => line "GET" :: shared ++ ["", ""]
    | some body => line "POST" :: shared ++ ["Content-Type: application/json",
        "Content-Length: " ++ toString body.utf8ByteSize, "", body]
  "\r\n".intercalate lines

/-- The octets behind the headers of a response. -/
def bodyOctets : List UInt8 → List UInt8
  | 0x0D :: 0x0A :: 0x0D :: 0x0A :: rest => rest
  | _ :: rest => bodyOctets rest
  | [] => []

/-- The status of a response. -/
def status? (octets : List UInt8) : Option Nat :=
  let code := ((octets.dropWhile (· != 0x20)).drop 1).takeWhile fun octet => octet != 0x20
  let digits := code.map fun octet => Char.ofNat octet.toNat
  if digits.length = 3 ∧ digits.all Char.isDigit then some (Numeral.natOfDigits digits) else none

/-- The JSON in a response of success. -/
def response (address : String) (octets : List UInt8) : Except String Json :=
  match status? octets with
  | none => .error ("error sending request for url (" ++ address ++ ")")
  | some status =>
      if status < 200 ∨ 299 < status then
        .error ("HTTP status " ++ toString status ++ " for url (" ++ address ++ ")")
      else
        match (Utf8.decode? (bodyOctets octets)).bind Json.read? with
        | some json => .ok json
        | none => .error "error decoding response body"

end Wire
end FilterQuery
