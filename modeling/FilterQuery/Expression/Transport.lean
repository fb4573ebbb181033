import FilterQuery.Expression.Basic
import FilterQuery.Json.Record
import FilterQuery.Json.Written

/-!
# Expressions in JSON

A node is an object with a `type`, or an array that starts with it. Reading
accepts both forms at every level and passes over members that it does not
know; writing produces objects.
-/

namespace FilterQuery

namespace Connective

/-- The name of a connective. -/
def name : Connective → String
  | and => "and"
  | or => "or"

/-- The connective of a name. -/
def ofName? (name : String) : Option Connective :=
  if name = "and" then some and else if name = "or" then some or else none

/-- Read a connective from JSON. -/
def ofJson? (json : Json) : Option Connective := do
  ofName? (← json.choice? Json.isVoid)

@[simp] theorem ofName?_name (connective : Connective) : ofName? connective.name = some connective := by
  cases connective <;> rfl

end Connective

namespace Operator

/-- Read an operator from JSON. -/
def ofJson? (json : Json) : Option Operator := do
  ofToken? (← json.choice? Json.isVoid)

end Operator

namespace Name

/-- Read a name from JSON. -/
def ofJson? (json : Json) : Option Name :=
  json.string?.map ofPath

end Name

namespace Expr

/-- The type of a node. -/
inductive NodeType where
  | logical
  | comparison
deriving DecidableEq, Inhabited

namespace NodeType

/-- The name of a node type. -/
def name : NodeType → String
  | logical => "logical"
  | comparison => "comparison"

/-- The node type of a name. -/
def ofName? (name : String) : Option NodeType :=
  if name = "logical" then some logical else if name = "comparison" then some comparison else none

/-- Read a node type from JSON. Below the root it may also be given by its position among the
types, counted from zero. -/
def ofJson? (belowRoot : Bool) : Json → Option NodeType
  | .string name => ofName? name
  | .int position =>
      if belowRoot then
        if position = 0 then some logical else if position = 1 then some comparison else none
      else none
  | _ => none

end NodeType

/-- The names of a node's members. -/
def memberNames : List String := ["type", "left", "operator", "right"]

/-- Read a comparison from its parts. -/
def comparisonOf? (name operator value : Json) : Option Expr := do
  let name ← Name.ofJson? name
  let operator ← Operator.ofJson? operator
  let value ← Literal.ofJson? value
  return comparison name operator value

mutual
/-- Read a node, at the root of an expression or below it. -/
def decode? (belowRoot : Bool) : Json → Option Expr
  | .object members =>
      if Json.standOnce memberNames members then do
        match ← NodeType.ofJson? belowRoot (← members.lookup "type") with
        | .logical =>
            let connective ← Connective.ofJson? (← members.lookup "operator")
            let left ← child? "left" members
            let right ← child? "right" members
            return logical connective left right
        | .comparison =>
            comparisonOf? (← members.lookup "left") (← members.lookup "operator")
              (← members.lookup "right")
      else none
  | .array [tag, second, third, fourth] => do
      match ← NodeType.ofJson? belowRoot tag with
      | .logical =>
          let connective ← Connective.ofJson? second
          let left ← decode? true third
          let right ← decode? true fourth
          return logical connective left right
      | .comparison => comparisonOf? second third fourth
  | _ => none

/-- Read the first member called `name` as a node. -/
def child? (name : String) : List (String × Json) → Option Expr
  | [] => none
  | (key, value) :: rest => if key = name then decode? true value else child? name rest
end

/-- Read an expression from JSON. -/
def ofJson? (json : Json) : Option Expr := decode? false json

/-- Read an expression from JSON text; every part of the text must have a value. -/
def ofText? (text : String) : Option Expr := do
  ofJson? (← Json.readWhole? text)

/-- Write an expression as JSON. -/
def toJson : Expr → Json
  | logical connective left right =>
      .object [("type", .string "logical"), ("operator", .string connective.name),
        ("left", left.toJson), ("right", right.toJson)]
  | comparison name operator value =>
      .object [("type", .string "comparison"), ("left", .string name.dotted),
        ("operator", .string operator.token), ("right", value.toJson)]

end Expr
end FilterQuery
