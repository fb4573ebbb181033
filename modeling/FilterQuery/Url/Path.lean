import FilterQuery.Text.Basic
import FilterQuery.Url.Percent

/-!
# Paths of addresses

A path is a row of segments. A single dot stands for the place where it is, two
dots for the one above it. Paths of files may start with the letter of a drive,
which nothing leads above.
-/

namespace FilterQuery
namespace Url

/-- Where an address leads on its host. -/
inductive Path where
  /-- A text without segments. -/
  | whole (text : String)
  /-- Segments, each of which is written behind a slash. -/
  | segments (parts : List String)
deriving DecidableEq

namespace Path

/-- The printable characters of ASCII that are escaped in a segment. -/
def reserved : List Char := [' ', '"', '#', '<', '>', '?', '`', '{', '}']

/-- Whether a segment stands for its own place. -/
def isHere (segment : List Char) : Bool :=
  [".", "%2e"].contains (String.ofList (segment.map Char.toLower))

/-- Whether a segment stands for the place above. -/
def isAbove (segment : List Char) : Bool :=
  ["..", ".%2e", "%2e.", "%2e%2e"].contains (String.ofList (segment.map Char.toLower))

/-- Whether a segment is the letter of a drive. -/
def isDrive : List Char → Bool
  | [letter, mark] => letter.isAlpha && (mark == ':' || mark == '|')
  | _ => false

/-- The place above, where `walked` holds the segments that lead here, last first. Nothing leads
above a drive. -/
def above : List (List Char) → List (List Char)
  | [] => []
  | last :: rest => if isDrive last then last :: rest else rest

/-- A segment in its place: the letter of a drive that comes first has a colon behind it. -/
def placed (isFile : Bool) (walked : List (List Char)) (segment : List Char) : List Char :=
  match walked, segment with
  | [], [letter, _] => if isFile && isDrive segment then [letter, ':'] else segment
  | _, _ => segment

/-- Follow segments from the place that `walked` leads to. A path that ends in dots ends in an empty
segment. -/
def walk (isFile : Bool) (walked : List (List Char)) : List (List Char) → List (List Char)
  | [] => walked
  | segment :: rest =>
      let walked :=
        if isAbove segment then above walked
        else if isHere segment then walked
        else placed isFile walked segment :: walked
      if rest.isEmpty && (isAbove segment || isHere segment) then [] :: walked
      else walk isFile walked rest

/-- Escape segments and follow them. -/
def resolve (isFile : Bool) (segments : List (List Char)) : List (List Char) :=
  (walk isFile [] (segments.map (Percent.escape reserved))).reverse

/-- Split a text into segments. -/
def split (isSlash : Char → Bool) (text : List Char) : List (List Char) :=
  Text.splitAt '/' (text.map fun c => if isSlash c then '/' else c)

/-- A path of segments. -/
def ofSegments (segments : List (List Char)) : Path :=
  .segments (segments.map String.ofList)

/-- A path as it is written. -/
def render : Path → String
  | whole text => text
  | segments parts => String.join (parts.map ("/" ++ ·))

end Path
end Url
end FilterQuery
