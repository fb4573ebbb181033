import FilterQuery.Url.Basic

/-!
# Reading addresses

An address is read part by part. The schemes of the network and that of files have
rules of their own: there a backslash is a slash, and hosts are domains.
-/

namespace FilterQuery
namespace Url

/-- The rules that the rest of an address is read by. -/
inductive Rules where
  /-- The rules of files. -/
  | file
  /-- The rules of servers that are reached at a port. -/
  | server (port : UInt16)
  /-- The rules of all other schemes. -/
  | other
deriving DecidableEq

namespace Rules

/-- The rules of a scheme. -/
def ofScheme (scheme : String) : Rules :=
  if scheme = "file" then file
  else if scheme = "http" ∨ scheme = "ws" then server 80
  else if scheme = "https" ∨ scheme = "wss" then server 443
  else if scheme = "ftp" then server 21
  else other

/-- Whether a character is a slash. -/
def isSlash (rules : Rules) (c : Char) : Bool :=
  c == '/' || (c == '\\' && rules != other)

/-- The port that needs not be written. -/
def port? : Rules → Option UInt16
  | server port => some port
  | file | other => none

/-- Read a host. -/
def host? : Rules → List Char → Option Host
  | other => Host.readPlain?
  | file | server _ => Host.read?

/-- The printable characters of ASCII that are escaped in a query. -/
def reserved (rules : Rules) : List Char :=
  let shared := [' ', '"', '#', '<', '>']
  if rules = other then shared else '\'' :: shared

end Rules

/-- The printable characters of ASCII that are escaped in a fragment. -/
def fragmentReserved : List Char := [' ', '"', '<', '>', '`']

/-- The printable characters of ASCII that are escaped in a user and a password. -/
def userReserved : List Char :=
  Path.reserved ++ ['/', ':', ';', '=', '@', '[', '\\', ']', '^', '|']

/-- Whether a character is dropped at both ends of an address. -/
def isEdge (c : Char) : Bool :=
  c.toNat ≤ 0x20

/-- Whether a character is dropped everywhere. -/
def isDropped (c : Char) : Bool :=
  c == '\t' || c == '\n' || c == '\r'

/-- The characters of an address that matter. -/
def clean (text : List Char) : List Char :=
  ((text.dropWhile isEdge).reverse.dropWhile isEdge).reverse.filter (!isDropped ·)

/-- Whether a character may stand in a scheme after its first letter. -/
def isSchemeChar (c : Char) : Bool :=
  c.isAlphanum || c == '+' || c == '-' || c == '.'

/-- Split a scheme, in small letters, off the front of a text. -/
def scheme? (text : List Char) : Option (String × List Char) :=
  let scheme := text.takeWhile isSchemeChar
  match scheme, text.drop scheme.length with
  | first :: _, ':' :: rest =>
      if first.isAlpha then some (String.ofList (scheme.map Char.toLower), rest) else none
  | _, _ => none

/-- Split a text at the last place of a character. -/
def atLast? (mark : Char) (text : List Char) : Option (List Char × List Char) :=
  if text.contains mark then
    let behind := (text.reverse.takeWhile (· != mark)).reverse
    some (text.take (text.length - behind.length - 1), behind)
  else none

/-- The characters of a host, which a colon outside of brackets ends. -/
def takeHost (isInside : Bool) : List Char → List Char
  | [] => []
  | c :: rest =>
      if c = ':' ∧ !isInside then []
      else c :: takeHost (if c = '[' then true else if c = ']' then false else isInside) rest

/-- Read what stands behind a host: nothing, or a colon and a port. A backslash ends a port and
begins the path. -/
def port? (rules : Rules) (text : List Char) : Option (Option UInt16 × List Char) :=
  match text with
  | [] => some (none, [])
  | _ :: rest =>
      let digits := rest.takeWhile Char.isDigit
      let behind := rest.drop digits.length
      let number := Numeral.natOfDigits digits
      let port := UInt16.ofNat number
      if (behind.isEmpty ∨ behind.head? = some '\\') ∧ number < UInt16.size then
        some (if digits.isEmpty ∨ rules.port? = some port then none else some port, behind)
      else none

/-- Read a server. A host may be missing only if nothing else is there. -/
def authority? (rules : Rules) (text : List Char) : Option (Authority × List Char) := do
  let parts := atLast? '@' text
  let (userinfo, server) := parts.getD ([], text)
  let user := userinfo.takeWhile (· != ':')
  let host := takeHost false server
  let behind := server.drop host.length
  if host.isEmpty ∧ (parts.isSome ∨ !behind.isEmpty) then none
  let (port, rest) ← port? rules behind
  let written (text : List Char) : String := String.ofList (Percent.escape userReserved text)
  return (⟨written user, written (userinfo.drop (user.length + 1)), ← rules.host? host, port⟩, rest)

/-- A path that is read after a server: what is behind its first slash. -/
def pathAfter (rules : Rules) (text : List Char) : Path :=
  match text with
  | [] => .ofSegments (if rules = .other then [] else [[]])
  | c :: rest =>
      let relative := if rules.isSlash c then rest else text
      .ofSegments (Path.resolve false (Path.split rules.isSlash relative))

/-- The segments of a path of a file. -/
def fileSegments (text : List Char) : List (List Char) :=
  let relative := if text.head?.any Rules.file.isSlash then text.drop 1 else text
  Path.resolve true (Path.split Rules.file.isSlash relative)

/-- A path of a file, which does not start with empty segments. -/
def filePath (segments : List (List Char)) : Path :=
  let segments := segments.dropWhile List.isEmpty
  .ofSegments (if segments.isEmpty then [[]] else segments)

/-- Read the server and the path of a file. The own machine is no server, and no server has
drives. -/
def file? (text : List Char) : Option (Authority × Path) :=
  let isSlash := Rules.file.isSlash
  match text with
  | first :: second :: rest =>
      if isSlash first && isSlash second then do
        let name := rest.takeWhile (!isSlash ·)
        if Path.isDrive name then return (⟨"", "", .empty, none⟩, filePath (fileSegments rest))
        let host ← if name.isEmpty then some .empty else Host.read? name
        let segments := fileSegments (rest.drop name.length)
        let isLocal := host = .name "localhost" ∨ segments.head?.any Path.isDrive
        return (⟨"", "", if isLocal then .empty else host, none⟩, filePath segments)
      else some (⟨"", "", .empty, none⟩, filePath (fileSegments text))
  | _ => some (⟨"", "", .empty, none⟩, filePath (fileSegments text))

/-- Read the server, if there is one, and the path of an address. -/
def location? (rules : Rules) (text : List Char) : Option (Option Authority × Path) :=
  let serverAndPath (text : List Char) : Option (Option Authority × Path) := do
    let server := text.takeWhile (!rules.isSlash ·)
    let (authority, behind) ← authority? rules server
    return (some authority, pathAfter rules (behind ++ text.drop server.length))
  match rules, text with
  | .file, _ => (file? text).map fun (authority, path) => (some authority, path)
  | .server _, _ => serverAndPath (text.dropWhile rules.isSlash)
  | .other, '/' :: '/' :: rest => serverAndPath rest
  | .other, '/' :: _ => some (none, pathAfter rules text)
  | .other, _ => some (none, .whole (String.ofList (Percent.escape [] text)))

/-- Read an address. -/
def read? (text : String) : Option Url := do
  let (scheme, rest) ← scheme? (clean text.toList)
  let rules := Rules.ofScheme scheme
  let location := rest.takeWhile fun c => c != '?' && c != '#'
  let (authority, path) ← location? rules location
  let behind := rest.drop location.length
  let marked := behind.takeWhile (· != '#')
  let written (reserved text : List Char) : String := String.ofList (Percent.escape reserved text)
  let query :=
    match marked with
    | _ :: query => some (written rules.reserved query)
    | [] => none
  let fragment :=
    match behind.drop marked.length with
    | _ :: fragment => some (written fragmentReserved fragment)
    | [] => none
  return ⟨scheme, authority, path, query, fragment⟩

end Url
end FilterQuery
