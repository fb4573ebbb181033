import FilterQuery.Literal.Basic
import FilterQuery.Operator
import FilterQuery.Query.Basic
import FilterQuery.Query.Pattern

/-!
# Query fragments

The query of one comparison. The engine knows no negated conditions, so a
negated operator gives the same query as its positive twin, marked as inverted.
-/

namespace FilterQuery

/-- The kind of condition that an operator asks for. -/
inductive Form where
  | equals
  | range (bound : Bound)
  | contains
  | oneOf
  | startsWith
  | endsWith
deriving DecidableEq, Inhabited

namespace Operator

/-- The kind of condition that an operator asks for. -/
def form : Operator → Form
  | equal | notEqual => .equals
  | greater => .range .greater
  | greaterOrEqual => .range .greaterOrEqual
  | less => .range .less
  | lessOrEqual => .range .lessOrEqual
  | contains | notContains => .contains
  | isIn | notIn => .oneOf
  | startsWith | notStartsWith => .startsWith
  | endsWith | notEndsWith => .endsWith

/-- Whether an operator asks for the opposite of its condition. -/
def isNegated : Operator → Bool
  | notEqual | notContains | notIn | notStartsWith | notEndsWith => true
  | _ => false

/-- Twins ask for the same condition. -/
theorem form_twin
    {operator twin : Operator}
    (twins : operator.twin? = some twin) :
    twin.form = operator.form := by
  cases operator <;> simp [twin?] at twins <;> subst twins <;> rfl

/-- Of two twins exactly one is negated. -/
theorem isNegated_twin
    {operator twin : Operator}
    (twins : operator.twin? = some twin) :
    twin.isNegated = !operator.isNegated := by
  cases operator <;> simp [twin?] at twins <;> subst twins <;> rfl

end Operator

namespace Form

/-- The query of a condition on a field. A single value asked for by membership is a list of
one. -/
def query (field : String) (value : Literal) : Form → BoolQuery
  | equals => .leaf (.equals field value.toJson)
  | range bound => .leaf (.range field bound value.toJson)
  | contains => .leaf (.wildcard field (Pattern.containing value.text))
  | endsWith => .leaf (.wildcard field (Pattern.endingIn value.text))
  | startsWith => .leaf (.startsWith field value.toJson)
  | oneOf =>
      match value with
      | .list items => .oneOf field (items.map Literal.toJson)
      | single => .oneOf field [single.toJson]

end Form

/-- A query together with whether its opposite is meant. -/
structure Fragment where
  query : BoolQuery
  inverted : Bool
deriving Inhabited

namespace Fragment

/-- The fragment of a comparison whose value is already in the field's own type. -/
def ofComparison (field : String) (operator : Operator) (value : Literal) : Fragment :=
  ⟨operator.form.query field value, operator.isNegated⟩

/-- The fragment of a comparison with null: the field has no value, or it has one. -/
def ofAbsence (field : String) (absent : Bool) : Fragment :=
  ⟨.leaf (.hasValue field), absent⟩

end Fragment
end FilterQuery
