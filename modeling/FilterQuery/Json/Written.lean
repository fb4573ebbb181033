import FilterQuery.Json.Basic
import FilterQuery.Json.Token

/-!
# Reading JSON text

Between the tokens and the value stands the written form: it has the shape of
the text, and its numbers and strings are as they were written. A part that
nobody asks for need not have a value, so it may hold a number out of range or
half of a surrogate pair.
-/

namespace FilterQuery
namespace Json

/-- A JSON text with its shape recognised and its scalars unread. -/
inductive Written where
  | null
  | bool (value : Bool)
  | number (numeral : Numeral)
  | string (pieces : List Piece)
  | array (items : List Written)
  | object (members : List (List Piece × Written))
deriving Inhabited

namespace Written

/-- A container that is being read; its parts are listed from the last one back. -/
inductive Frame where
  | array (items : List Written)
  | object (members : List (List Piece × Written))
  /-- An object that is inside its member called `name`. -/
  | member (members : List (List Piece × Written)) (name : List Piece)

/-- What may come next. -/
inductive Awaiting where
  | value
  /-- A value, or the end of an array that has just begun. -/
  | item
  | name
  /-- A name, or the end of an object that has just begun. -/
  | member
  | colon (name : List Piece)
  /-- A comma, or the end of the innermost container. -/
  | delimiter
  | nothing (root : Written)

/-- Where the reading of a text stands: the open containers, innermost first, and what may come
next. -/
structure Progress where
  frames : List Frame
  awaiting : Awaiting

namespace Progress

/-- Nothing has been read. -/
def start : Progress := ⟨[], .value⟩

/-- A value has been read. -/
def put? (value : Written) : List Frame → Option Progress
  | [] => some ⟨[], .nothing value⟩
  | .array items :: frames => some ⟨.array (value :: items) :: frames, .delimiter⟩
  | .member members name :: frames => some ⟨.object ((name, value) :: members) :: frames, .delimiter⟩
  | .object _ :: _ => none

/-- Read a token where a value may stand. -/
def value? (frames : List Frame) : Token → Option Progress
  | .openArray => some ⟨.array [] :: frames, .item⟩
  | .openObject => some ⟨.object [] :: frames, .member⟩
  | .null => put? .null frames
  | .bool value => put? (.bool value) frames
  | .number numeral => put? (.number numeral) frames
  | .string pieces => put? (.string pieces) frames
  | _ => none

/-- Read the end of the innermost container. -/
def close? : List Frame → Token → Option Progress
  | .array items :: frames, .closeArray => put? (.array items.reverse) frames
  | .object members :: frames, .closeObject => put? (.object members.reverse) frames
  | _, _ => none

/-- Read a token after a value inside a container. -/
def delimiter? : List Frame → Token → Option Progress
  | .array items :: frames, .comma => some ⟨.array items :: frames, .value⟩
  | .object members :: frames, .comma => some ⟨.object members :: frames, .name⟩
  | frames, token => close? frames token

/-- Read one token. -/
def step? (progress : Progress) (token : Token) : Option Progress :=
  match progress.awaiting, token, progress.frames with
  | .value, token, frames => value? frames token
  | .item, .closeArray, frames => close? frames .closeArray
  | .item, token, frames => value? frames token
  | .name, .string pieces, frames => some ⟨frames, .colon pieces⟩
  | .member, .string pieces, frames => some ⟨frames, .colon pieces⟩
  | .member, token, frames => close? frames token
  | .colon name, .colon, .object members :: frames => some ⟨.member members name :: frames, .value⟩
  | .delimiter, token, frames => delimiter? frames token
  | _, _, _ => none

/-- Read tokens one after the other. -/
def run? (progress : Progress) : List Token → Option Progress
  | [] => some progress
  | token :: rest =>
      match step? progress token with
      | some next => run? next rest
      | none => none

end Progress

/-- Read the one value that a text holds. -/
def read? (text : String) : Option Written := do
  let tokens ← Token.scan? text.toList
  match ← Progress.start.run? tokens with
  | ⟨_, .nothing root⟩ => some root
  | _ => none

/-- The character of a surrogate pair. -/
def ofSurrogates (high low : Nat) : Char :=
  Char.ofNat (0x10000 + (high - 0xD800) * 0x400 + (low - 0xDC00))

/-- The characters that the pieces of a string make up; half of a surrogate pair is none. -/
def characters? : List Piece → Option (List Char)
  | [] => some []
  | .char c :: rest => (characters? rest).map (c :: ·)
  | .unit value :: rest =>
      if value < 0xD800 ∨ 0xDFFF < value then (characters? rest).map (Char.ofNat value :: ·)
      else
        match rest with
        | .unit low :: others =>
            if value ≤ 0xDBFF ∧ 0xDC00 ≤ low ∧ low ≤ 0xDFFF then
              (characters? others).map (ofSurrogates value low :: ·)
            else none
        | _ => none

/-- The text of a written string. -/
def text? (pieces : List Piece) : Option String :=
  (characters? pieces).map String.ofList

/-- The value of a numeral: a whole number when it is written as one and fits into 64 bits, a
double otherwise; zero with a minus sign is a double, and a number out of range is none. -/
def number? (numeral : Numeral) : Option Json :=
  let double := numeral.scaled?.map Json.float
  match numeral.integer? with
  | some whole =>
      if whole = 0 ∧ numeral.isNegative then double
      else if -9223372036854775808 ≤ whole ∧ whole < UInt64.size then some (.int whole)
      else double
  | none => double

mutual
/-- Levels of arrays and objects. -/
def nesting : Written → Nat
  | array items => 1 + itemsNesting items
  | object members => 1 + membersNesting members
  | _ => 0

/-- The nesting of the deepest item. -/
def itemsNesting : List Written → Nat
  | [] => 0
  | item :: rest => max (nesting item) (itemsNesting rest)

/-- The nesting of the deepest member. -/
def membersNesting : List (List Piece × Written) → Nat
  | [] => 0
  | (_, value) :: rest => max (nesting value) (membersNesting rest)
end

mutual
/-- The value of a written form; names may repeat in it. -/
def json? : Written → Option Json
  | null => some .null
  | bool value => some (.bool value)
  | number numeral => number? numeral
  | string pieces => (text? pieces).map .string
  | array items => (itemsJson? items).map .array
  | object members => (membersJson? members).map .object

/-- The values of items. -/
def itemsJson? : List Written → Option (List Json)
  | [] => some []
  | item :: rest => do
      let value ← json? item
      let values ← itemsJson? rest
      return value :: values

/-- The names and values of members. -/
def membersJson? : List (List Piece × Written) → Option (List (String × Json))
  | [] => some []
  | (name, item) :: rest => do
      let text ← text? name
      let value ← json? item
      let values ← membersJson? rest
      return (text, value) :: values
end

/-- The most levels a text may have. -/
def nestingLimit : Nat := 127

/-- The value of a written form of bounded nesting. -/
def bounded? (written : Written) : Option Json :=
  if written.nesting ≤ nestingLimit then written.json? else none

/-- Leave out the members of an object that are called none of `names`. A name without a value
stays: it makes the whole text unreadable. -/
def restrict (names : List String) : Written → Written
  | object members => object (members.filter fun (name, _) =>
      match text? name with
      | some text => names.contains text
      | none => true)
  | other => other

/-- Change the values of the members called `name`. -/
def mapMember (name : String) (change : Written → Written) : Written → Written
  | object members => object (members.map fun (pieces, value) =>
      (pieces, if text? pieces = some name then change value else value))
  | other => other

end Written

/-! ## Texts and values -/

/-- Read a text; every part of it must have a value, and repeated names stay. -/
def readWhole? (text : String) : Option Json := do
  let written ← Written.read? text
  written.bounded?

/-- Read a text; a repeated name keeps its first place and its last value. -/
def read? (text : String) : Option Json :=
  (readWhole? text).map settled

/-- Read a record with the given member names: members of other names are left out unread. -/
def readRecord? (names : List String) (text : String) : Option Json := do
  let written ← Written.read? text
  (written.restrict names).bounded?

end Json
end FilterQuery
