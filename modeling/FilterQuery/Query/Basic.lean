import FilterQuery.Json.Basic

/-!
# Bool queries

The queries that the search engine executes: conditions on one field at the
leaves, joined by lists of clauses. A query has a JSON form, and it has a truth
value once every leaf has one.
-/

namespace FilterQuery

/-- A bound of a range. -/
inductive Bound where
  | greater
  | greaterOrEqual
  | less
  | lessOrEqual
deriving DecidableEq, Inhabited

namespace Bound

/-- The key of a bound. -/
def key : Bound → String
  | greater => "gt"
  | greaterOrEqual => "gte"
  | less => "lt"
  | lessOrEqual => "lte"

end Bound

/-- A condition on one field. -/
inductive Leaf where
  /-- The field has the value. -/
  | equals (field : String) (value : Json)
  /-- The field lies beyond the bound. -/
  | range (field : String) (bound : Bound) (value : Json)
  /-- The field starts with the value. -/
  | startsWith (field : String) (value : Json)
  /-- The field fits the pattern. -/
  | wildcard (field : String) (pattern : String)
  /-- The field has any value at all. -/
  | hasValue (field : String)
deriving Inhabited

namespace Leaf

/-- The field that a condition is about. -/
def field : Leaf → String
  | equals field _ => field
  | range field _ _ => field
  | startsWith field _ => field
  | wildcard field _ => field
  | hasValue field => field

/-- The JSON form of a condition. -/
def toJson : Leaf → Json
  | equals field value => .object [("match", .object [(field, value)])]
  | range field bound value =>
      .object [("range", .object [(field, .object [(bound.key, value)])])]
  | startsWith field value =>
      .object [("prefix", .object [(field, .object [("value", value)])])]
  | wildcard field pattern =>
      .object [("wildcard", .object [(field, .object [("value", .string pattern)])])]
  | hasValue field => .object [("exists", .object [("field", .string field)])]

end Leaf

/-- A query over the documents of an index. -/
inductive BoolQuery where
  | leaf (condition : Leaf)
  /-- The field has one of the values. -/
  | oneOf (field : String) (values : List Json)
  /-- All clauses match. -/
  | filter (clauses : List BoolQuery)
  /-- At least one clause matches. -/
  | should (clauses : List BoolQuery)
  /-- No clause matches. -/
  | mustNot (clauses : List BoolQuery)
deriving Inhabited

namespace BoolQuery

mutual
/-- The JSON form of a query. -/
def toJson : BoolQuery → Json
  | leaf condition => condition.toJson
  | oneOf field values =>
      .object [("bool", .object
        [("should", .array (values.map fun value => (Leaf.equals field value).toJson)),
          ("minimum_should_match", .int 1)])]
  | filter clauses => .object [("bool", .object [("filter", .array (clausesToJson clauses))])]
  | should clauses =>
      .object [("bool", .object
        [("minimum_should_match", .int 1), ("should", .array (clausesToJson clauses))])]
  | mustNot clauses => .object [("bool", .object [("must_not", .array (clausesToJson clauses))])]

/-- The JSON forms of clauses. -/
def clausesToJson : List BoolQuery → List Json
  | [] => []
  | clause :: rest => toJson clause :: clausesToJson rest
end

/-- The document that a query is sent in. -/
def document (query : BoolQuery) : Json :=
  .object [("query", (filter [query]).toJson)]

mutual
/-- Whether a query matches, given which conditions hold. -/
def holds (truth : Leaf → Bool) : BoolQuery → Bool
  | leaf condition => truth condition
  | oneOf field values => values.any fun value => truth (.equals field value)
  | filter clauses => allHold truth clauses
  | should clauses => someHolds truth clauses
  | mustNot clauses => !someHolds truth clauses

/-- Whether all clauses match. -/
def allHold (truth : Leaf → Bool) : List BoolQuery → Bool
  | [] => true
  | clause :: rest => holds truth clause && allHold truth rest

/-- Whether some clause matches. -/
def someHolds (truth : Leaf → Bool) : List BoolQuery → Bool
  | [] => false
  | clause :: rest => holds truth clause || someHolds truth rest
end

@[simp] theorem holds_leaf (truth : Leaf → Bool) (condition : Leaf) :
    (leaf condition).holds truth = truth condition := rfl

@[simp] theorem holds_oneOf (truth : Leaf → Bool) (field : String) (values : List Json) :
    (oneOf field values).holds truth = values.any fun value => truth (.equals field value) := rfl

@[simp] theorem holds_filter (truth : Leaf → Bool) (clauses : List BoolQuery) :
    (filter clauses).holds truth = clauses.all fun clause => clause.holds truth := by
  simp only [holds]
  induction clauses with
  | nil => rfl
  | cons clause rest inductionHypothesis => simp [allHold, inductionHypothesis]

@[simp] theorem holds_should (truth : Leaf → Bool) (clauses : List BoolQuery) :
    (should clauses).holds truth = clauses.any fun clause => clause.holds truth := by
  simp only [holds]
  induction clauses with
  | nil => rfl
  | cons clause rest inductionHypothesis => simp [someHolds, inductionHypothesis]

/-- A query that demands the absence of matches is the opposite of one that demands a match. -/
@[simp] theorem holds_mustNot (truth : Leaf → Bool) (clauses : List BoolQuery) :
    (mustNot clauses).holds truth = !(should clauses).holds truth := rfl

end BoolQuery
end FilterQuery
