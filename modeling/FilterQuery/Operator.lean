/-!
# Comparison operators

Every operator is written as one token. Ten of them come in pairs, of which
the second is the negation of the first.
-/

namespace FilterQuery

/-- A comparison operator. -/
inductive Operator where
  | equal
  | notEqual
  | greater
  | greaterOrEqual
  | less
  | lessOrEqual
  | contains
  | notContains
  | isIn
  | notIn
  | startsWith
  | notStartsWith
  | endsWith
  | notEndsWith
deriving DecidableEq, Inhabited

namespace Operator

/-- All operators. -/
def all : List Operator :=
  [equal, notEqual, greater, greaterOrEqual, less, lessOrEqual, contains, notContains,
    isIn, notIn, startsWith, notStartsWith, endsWith, notEndsWith]

/-- The token of an operator. -/
def token : Operator → String
  | equal => "="
  | notEqual => "!="
  | greater => ">"
  | greaterOrEqual => ">="
  | less => "<"
  | lessOrEqual => "<="
  | contains => "~"
  | notContains => "!~"
  | isIn => "in"
  | notIn => "not in"
  | startsWith => "startswith"
  | notStartsWith => "not startswith"
  | endsWith => "endswith"
  | notEndsWith => "not endswith"

/-- The operator that a token is. -/
def ofToken? (token : String) : Option Operator :=
  all.find? fun operator => operator.token == token

/-- Whether the value on the right is a list. -/
def takesList : Operator → Bool
  | isIn => true
  | notIn => true
  | _ => false

/-- The operator of opposite meaning; an order comparison has none. -/
def twin? : Operator → Option Operator
  | equal => some notEqual
  | notEqual => some equal
  | contains => some notContains
  | notContains => some contains
  | isIn => some notIn
  | notIn => some isIn
  | startsWith => some notStartsWith
  | notStartsWith => some startsWith
  | endsWith => some notEndsWith
  | notEndsWith => some endsWith
  | _ => none

/-- Every operator is listed. -/
@[simp] theorem mem_all (operator : Operator) : operator ∈ all := by
  cases operator <;> decide

/-- The token of an operator reads back as that operator. -/
@[simp] theorem ofToken?_token (operator : Operator) : ofToken? operator.token = some operator := by
  cases operator <;> decide

end Operator
end FilterQuery
