/-!
# JSON values

Whole numbers and floating numbers are kept apart, and an object is the list
of its members in the order in which they were written.
-/

namespace FilterQuery

/-- A JSON value. -/
inductive Json where
  | null
  | bool (value : Bool)
  | int (value : Int)
  | float (value : Float)
  | string (value : String)
  | array (items : List Json)
  | object (members : List (String × Json))
deriving Inhabited

namespace Json

/-- The members of an object. -/
def members? : Json → Option (List (String × Json))
  | object members => some members
  | _ => none

/-- The items of an array. -/
def items? : Json → Option (List Json)
  | array items => some items
  | _ => none

/-- The text of a string. -/
def string? : Json → Option String
  | string value => some value
  | _ => none

/-- The truth value of a boolean. -/
def bool? : Json → Option Bool
  | bool value => some value
  | _ => none

/-- A whole number that is not negative and lies below `bound`. -/
def nat? (bound : Nat) : Json → Option Nat
  | int value => if 0 ≤ value ∧ value < bound then some value.toNat else none
  | _ => none

/-- An array all of whose items are strings. -/
def strings? : Json → Option (List String)
  | array items => items.mapM string?
  | _ => none

/-- The value of the first member called `name` of an object. -/
def member? (name : String) : Json → Option Json
  | object members => members.lookup name
  | _ => none

/-- An array of strings. -/
def ofStrings (texts : List String) : Json :=
  array (texts.map string)

/-- A string, or null where there is none. -/
def ofString? : Option String → Json
  | some text => string text
  | none => null

@[simp] theorem string?_string (value : String) : string? (string value) = some value := rfl
@[simp] theorem bool?_bool (value : Bool) : bool? (bool value) = some value := rfl
@[simp] theorem items?_array (items : List Json) : items? (array items) = some items := rfl
@[simp] theorem members?_object (members : List (String × Json)) :
    members? (object members) = some members := rfl

@[simp] theorem member?_object (name : String) (members : List (String × Json)) :
    member? name (object members) = members.lookup name := rfl

/-- An array built from texts gives them back. -/
@[simp] theorem strings?_ofStrings (texts : List String) :
    strings? (ofStrings texts) = some texts := by
  simp only [strings?, ofStrings]
  induction texts with
  | nil => rfl
  | cons head tail inductionHypothesis =>
      simp [List.mapM_cons, inductionHypothesis]

mutual
/-- Levels of arrays and objects: a scalar has none, a container one more than its deepest part. -/
def nesting : Json → Nat
  | array items => 1 + itemsNesting items
  | object members => 1 + membersNesting members
  | _ => 0

/-- The nesting of the deepest item. -/
def itemsNesting : List Json → Nat
  | [] => 0
  | item :: rest => max (nesting item) (itemsNesting rest)

/-- The nesting of the deepest member. -/
def membersNesting : List (String × Json) → Nat
  | [] => 0
  | (_, value) :: rest => max (nesting value) (membersNesting rest)
end

/-- Give `name` a value: in place where the name is already in use, at the end otherwise. -/
def put (members : List (String × Json)) (name : String) (value : Json) : List (String × Json) :=
  if members.any (fun member => member.1 == name) then
    members.map fun member => if member.1 == name then (name, value) else member
  else
    members ++ [(name, value)]

mutual
/-- Let every name stand once in each object: at its first place, with its last value. -/
def settled : Json → Json
  | array items => array (settledItems items)
  | object members => object (settledMembers [] members)
  | scalar => scalar

/-- Settle each item. -/
def settledItems : List Json → List Json
  | [] => []
  | item :: rest => settled item :: settledItems rest

/-- Settle members from the left, given those that are settled already. -/
def settledMembers (done : List (String × Json)) : List (String × Json) → List (String × Json)
  | [] => done
  | (name, value) :: rest => settledMembers (put done name (settled value)) rest
end

end Json
end FilterQuery
