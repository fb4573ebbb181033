import FilterQuery.Json.Basic

/-!
# Records and choices in JSON

A record is an object in which every declared name stands at most once, or an
array of the values in declared order whose end may be left out. A choice is
one of several names.
-/

namespace FilterQuery
namespace Json

/-- Whether each of `names` is the name of at most one member. -/
def standOnce (names : List String) (members : List (String × Json)) : Bool :=
  names.all fun name => members.countP (fun member => member.1 == name) ≤ 1

/-- The values of a record by declared name, in declared order. -/
def record? (names : List String) : Json → Option (List (Option Json))
  | object members =>
      if standOnce names members then some (names.map fun name => members.lookup name) else none
  | array items =>
      if items.length ≤ names.length then
        some (items.map some ++ List.replicate (names.length - items.length) none)
      else none
  | _ => none

/-- Read a member that must be there. -/
def required (read : Json → Option α) : Option Json → Option α
  | some value => read value
  | none => none

/-- Read a member that has a default. -/
def defaulted (default : α) (read : Json → Option α) : Option Json → Option α
  | some value => read value
  | none => some default

/-- Read a member that may be missing or null. -/
def optional (read : Json → Option α) : Option Json → Option (Option α)
  | none => some none
  | some null => some none
  | some value => (read value).map some

/-- Whether a value is null. -/
def isNull : Json → Bool
  | null => true
  | _ => false

/-- Whether a value is null or an object without members. -/
def isVoid : Json → Bool
  | null => true
  | object [] => true
  | _ => false

/-- The name of a choice: a string, or the only member of an object whose value is empty. -/
def choice? (isEmpty : Json → Bool) : Json → Option String
  | string name => some name
  | object [(name, value)] => if isEmpty value then some name else none
  | _ => none

@[simp] theorem choice?_string (isEmpty : Json → Bool) (name : String) :
    choice? isEmpty (string name) = some name := rfl

@[simp] theorem required_some (read : Json → Option α) (value : Json) :
    required read (some value) = read value := rfl

@[simp] theorem defaulted_some (default : α) (read : Json → Option α) (value : Json) :
    defaulted default read (some value) = read value := rfl

@[simp] theorem defaulted_none (default : α) (read : Json → Option α) :
    defaulted default read none = some default := rfl

end Json
end FilterQuery
