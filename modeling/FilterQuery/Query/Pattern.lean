/-!
# Wildcard patterns

In a pattern `*` stands for any characters, `?` for any one character, and a
backslash takes the meaning from the character after it. Text from outside is
escaped before it goes into a pattern, so that it stands for itself.
-/

namespace FilterQuery
namespace Pattern

/-- Whether a character has a meaning of its own in a pattern. -/
def isSpecial (c : Char) : Bool :=
  c = '*' || c = '?' || c = '\\'

/-- A character that stands for itself. -/
def escapeChar (c : Char) : List Char :=
  if isSpecial c then ['\\', c] else [c]

/-- A text that stands for itself. -/
def escape (text : String) : String :=
  String.ofList (text.toList.flatMap escapeChar)

/-- The pattern of the texts that contain a given one. -/
def containing (text : String) : String :=
  "*" ++ escape text ++ "*"

/-- The pattern of the texts that end in a given one. -/
def endingIn (text : String) : String :=
  "*" ++ escape text

/-- `Matches pattern text` says that the characters of a text fit a pattern. -/
inductive Matches : List Char → List Char → Prop where
  | nil : Matches [] []
  | any (gap : List Char) {pattern text : List Char} :
      Matches pattern text → Matches ('*' :: pattern) (gap ++ text)
  | one (c : Char) {pattern text : List Char} :
      Matches pattern text → Matches ('?' :: pattern) (c :: text)
  | escaped (c : Char) {pattern text : List Char} :
      Matches pattern text → Matches ('\\' :: c :: pattern) (c :: text)
  | plain (c : Char) {pattern text : List Char} :
      isSpecial c = false → Matches pattern text → Matches (c :: pattern) (c :: text)
  | loneBackslash : Matches ['\\'] ['\\']

@[simp] theorem escapeChar_special {c : Char} (special : isSpecial c = true) :
    escapeChar c = ['\\', c] := by
  simp [escapeChar, special]

@[simp] theorem escapeChar_plain {c : Char} (plain : isSpecial c = false) :
    escapeChar c = [c] := by
  simp [escapeChar, plain]

end Pattern
end FilterQuery
