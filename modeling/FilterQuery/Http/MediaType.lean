import FilterQuery.Text.Basic

/-!
# Media types

A media type is a type, a subtype that may end in a suffix, and parameters.
-/

namespace FilterQuery

/-- A media type as far as it tells JSON from other formats, in small letters. -/
structure MediaType where
  subtype : List Char
  suffix : Option (List Char)
deriving DecidableEq

namespace MediaType

/-- Whether a character may stand in a token. -/
def isTokenChar (c : Char) : Bool :=
  c.isAlphanum || "!#$%&'*+-.^_`|~".toList.contains c

/-- Whether a character may stand between quotes. -/
def isQuotedChar (c : Char) : Bool :=
  0x20 ≤ c.toNat && c.toNat < 0x7F

/-- Where the reading of parameters stands. -/
inductive Awaiting where
  /-- A name, blanks before it, or the end. -/
  | name
  /-- The rest of a name. -/
  | equals
  /-- A value, which may be empty at the end only. -/
  | value
  /-- The rest of a value. -/
  | separator
  /-- The first character between quotes, which may be a quote. -/
  | opened
  /-- The rest of a value between quotes. -/
  | quote
  /-- What follows a value between quotes. -/
  | closed

/-- Read one character of the parameters. -/
def Awaiting.step? : Awaiting → Char → Option Awaiting
  | name, c => if c = ' ' then some name else if isTokenChar c then some equals else none
  | equals, c => if c = '=' then some value else if isTokenChar c then some equals else none
  | value, c => if c = '"' then some opened else if isTokenChar c then some separator else none
  | separator, c => if c = ';' then some name else if isTokenChar c then some separator else none
  | opened, c => if isQuotedChar c then some quote else none
  | quote, c => if c = '"' then some closed else if isQuotedChar c then some quote else none
  | closed, c => if c = ';' then some name else if c = ' ' then some closed else none

/-- Whether the parameters may end here. -/
def Awaiting.mayEnd : Awaiting → Bool
  | name | value | separator | closed => true
  | equals | opened | quote => false

/-- Whether a text is a list of parameters. -/
def areParameters (text : List Char) : Bool :=
  match text.foldlM Awaiting.step? .name with
  | some awaiting => awaiting.mayEnd
  | none => false

/-- Split a subtype at its last plus sign, which is not its first character. -/
def ofSubtype (text : List Char) : MediaType :=
  let suffix := (text.reverse.takeWhile (· != '+')).reverse
  if suffix.length + 1 < text.length then
    ⟨text.take (text.length - suffix.length - 1), some suffix⟩
  else ⟨text, none⟩

/-- Read a media type. Parameters follow a semicolon, and nothing else ends a subtype. -/
def read? (text : String) : Option MediaType :=
  let letters := text.toList.map Char.toLower
  let type := letters.takeWhile isTokenChar
  match type, letters.drop type.length with
  | _ :: _, '/' :: rest =>
      let subtype := rest.takeWhile isTokenChar
      match rest.drop subtype.length with
      | [] => some (ofSubtype subtype)
      | mark :: parameters =>
          if mark = ';' ∧ !subtype.isEmpty ∧ areParameters parameters then
            some (ofSubtype subtype)
          else none
  | _, _ => none

/-- The format of JSON. -/
def json : List Char := "json".toList

/-- Whether a media type is one of JSON. -/
def isJson (mediaType : MediaType) : Bool :=
  mediaType.subtype == json || mediaType.suffix == some json

end MediaType
end FilterQuery
