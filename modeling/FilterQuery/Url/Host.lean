import FilterQuery.Domain.Name
import FilterQuery.Url.Ipv4
import FilterQuery.Url.Ipv6
import FilterQuery.Url.Percent

/-!
# Hosts

A host is a name or an address. Where names are those of domains, they are brought
into the form in which they are sent, and one that ends in a number is an address
of four octets. An address of eight pieces stands in brackets.
-/

namespace FilterQuery

/-- The host of an address. -/
inductive Host where
  | name (text : String)
  | ipv4 (address : Ipv4)
  | ipv6 (address : Ipv6)
deriving DecidableEq

namespace Host

/-- No host at all. -/
def empty : Host := .name ""

/-- A host as it is written. -/
def render : Host → String
  | name text => text
  | ipv4 address => address.render
  | ipv6 address => "[" ++ address.render ++ "]"

/-- The characters that no name may hold, not even one outside of the domains. -/
def forbidden : List Char :=
  ['\x00', '\t', '\n', '\r', ' ', '#', '/', ':', '<', '>', '?', '@', '[', '\\', ']', '^', '|']

/-- Read what stands behind an opening bracket. -/
def bracketed? (text : List Char) : Option Host :=
  if text.getLast? = some ']' then (Ipv6.read? text.dropLast).map ipv6 else none

/-- Read a host in the domains. -/
def read? (text : List Char) : Option Host :=
  match text with
  | '[' :: rest => bracketed? rest
  | _ => do
      let domain ← Domain.toAscii? (Percent.decodeText text).toList
      if domain.isEmpty then none
      else if Ipv4.isMeant domain then (Ipv4.read? domain).map ipv4
      else return name (String.ofList domain)

/-- Read a host whose names mean something only to those who use them. -/
def readPlain? (text : List Char) : Option Host :=
  match text with
  | '[' :: rest => bracketed? rest
  | _ =>
      if text.any forbidden.contains then none
      else some (name (String.ofList (Percent.escape [] text)))

end Host
end FilterQuery
