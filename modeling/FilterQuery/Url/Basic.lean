import FilterQuery.Url.Host
import FilterQuery.Url.Path

/-!
# Addresses

An address has a scheme and a path, and may have a server with the credentials that
it asks for, a query and a fragment.
-/

namespace FilterQuery
namespace Url

/-- Who asks. -/
structure Credentials where
  user : String
  password : Option String
deriving DecidableEq

/-- The server of an address. User and password are escaped, and empty where there is none. -/
structure Authority where
  user : String := ""
  password : String := ""
  host : Host
  /-- The port, where it is not that of the scheme. -/
  port : Option UInt16 := none
deriving DecidableEq

namespace Authority

/-- User and password as they are written. -/
def renderUser (authority : Authority) : String :=
  let password := if authority.password = "" then "" else ":" ++ authority.password
  if authority.user = "" ∧ authority.password = "" then "" else authority.user ++ password ++ "@"

/-- A port as it is written. -/
def renderPort (authority : Authority) : String :=
  match authority.port with
  | some port => ":" ++ toString port.toNat
  | none => ""

/-- A server as it is written. -/
def render (authority : Authority) : String :=
  "//" ++ authority.renderUser ++ authority.host.render ++ authority.renderPort

/-- The credentials of a server, if the user is a text at all. -/
def credentials? (authority : Authority) : Option Credentials := do
  let user ← Percent.decodeText? authority.user.toList
  let password :=
    if authority.password = "" then none else Percent.decodeText? authority.password.toList
  if user = "" ∧ password = none then none else return ⟨user, password⟩

/-- A server without its user and password. -/
def withoutUser (authority : Authority) : Authority :=
  { authority with user := "", password := "" }

end Authority
end Url

/-- An address. -/
structure Url where
  scheme : String
  authority : Option Url.Authority
  path : Url.Path
  query : Option String
  fragment : Option String
deriving DecidableEq

namespace Url

/-- Whether an address has a server with a host. -/
def hasHost (url : Url) : Bool :=
  url.authority.any (·.host != .empty)

/-- Whether requests can be sent to an address. -/
def isHttp (url : Url) : Bool :=
  url.scheme == "http" || url.scheme == "https"

/-- What stands before the path: a path without a server must not look like one. -/
def renderAuthority (url : Url) : String :=
  match url.authority, url.path with
  | some authority, _ => authority.render
  | none, .segments ("" :: _ :: _) => "/."
  | none, _ => ""

/-- A part of an address behind its mark, where there is one. -/
def renderPart (mark : String) : Option String → String
  | some text => mark ++ text
  | none => ""

/-- What is asked for on the server. -/
def resource (url : Url) : String :=
  url.path.render ++ renderPart "?" url.query

/-- An address as it is written. -/
def render (url : Url) : String :=
  url.scheme ++ ":" ++ url.renderAuthority ++ url.resource ++ renderPart "#" url.fragment

/-- Take the credentials out of an address. Those that are no text stay. -/
def takeCredentials (url : Url) : Option Credentials × Url :=
  match url.authority.bind Authority.credentials? with
  | some credentials =>
      (some credentials, { url with authority := url.authority.map Authority.withoutUser })
  | none => (none, url)

end Url
end FilterQuery
