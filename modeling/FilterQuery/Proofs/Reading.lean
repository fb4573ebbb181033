import FilterQuery.Query.Basic

/-!
# Reading query documents

The plain reading of the JSON form of a query: an object with the one member
`bool` holds a list of clauses that all match, of which none matches, or of
which at least one matches, and any other object is a condition on one field.
The order of the members does not matter. Reading a written query gives that
query back, except that membership in a list of values is read as the list of
its conditions.
-/

namespace FilterQuery

namespace Bound

/-- The bound of a key. -/
def ofKey? (key : String) : Option Bound :=
  if key = "gt" then some greater
  else if key = "gte" then some greaterOrEqual
  else if key = "lt" then some less
  else if key = "lte" then some lessOrEqual
  else none

@[simp] theorem ofKey?_key (bound : Bound) : ofKey? bound.key = some bound := by
  cases bound <;> decide

end Bound

namespace Leaf

/-- Read a condition. -/
def ofJson? : Json → Option Leaf
  | .object [("match", .object [(field, value)])] => some (equals field value)
  | .object [("range", .object [(field, .object [(key, value)])])] =>
      (Bound.ofKey? key).map fun bound => range field bound value
  | .object [("prefix", .object [(field, .object [("value", value)])])] =>
      some (startsWith field value)
  | .object [("wildcard", .object [(field, .object [("value", .string pattern)])])] =>
      some (wildcard field pattern)
  | .object [("exists", .object [("field", .string field)])] => some (hasValue field)
  | _ => none

@[simp] theorem ofJson?_toJson (condition : Leaf) : ofJson? condition.toJson = some condition := by
  cases condition with
  | range field bound value =>
      change (Bound.ofKey? bound.key).map (fun bound => range field bound value) = _
      rw [Bound.ofKey?_key, Option.map_some]
  | equals field value => rfl
  | startsWith field value => rfl
  | wildcard field pattern => rfl
  | hasValue field => rfl

end Leaf

namespace BoolQuery

mutual
/-- Read a query. -/
def ofJson? : Json → Option BoolQuery
  | .object [(key, .object members)] =>
      if key = "bool" then ofBody? members
      else (Leaf.ofJson? (.object [(key, .object members)])).map leaf
  | _ => none

/-- Read the body of a query that is no condition: one list of clauses. At least one clause
matches only where the least number of matches is given as one. -/
def ofBody? : List (String × Json) → Option BoolQuery
  | [(key, .array clauses)] =>
      if key = "filter" then (clausesOfJson? clauses).map filter
      else if key = "must_not" then (clausesOfJson? clauses).map mustNot
      else none
  | [(first, .array clauses), (second, .int least)] =>
      if first = "should" ∧ second = "minimum_should_match" ∧ least = 1 then
        (clausesOfJson? clauses).map should
      else none
  | [(first, .int least), (second, .array clauses)] =>
      if first = "minimum_should_match" ∧ second = "should" ∧ least = 1 then
        (clausesOfJson? clauses).map should
      else none
  | _ => none

/-- Read clauses. -/
def clausesOfJson? : List Json → Option (List BoolQuery)
  | [] => some []
  | json :: rest =>
      match ofJson? json, clausesOfJson? rest with
      | some clause, some others => some (clause :: others)
      | _, _ => none
end

/-- Read the query that a document is about. -/
def ofDocument? : Json → Option BoolQuery
  | .object [("query", query)] => ofJson? query
  | _ => none

/-- Whether a document matches, given which conditions hold; nothing else than a document has a
truth value. -/
def documentHolds? (truth : Leaf → Bool) (document : Json) : Option Bool :=
  (ofDocument? document).map fun query => query.holds truth

mutual
/-- A query in which membership in a list of values is written out as a list of conditions. -/
def expanded : BoolQuery → BoolQuery
  | leaf condition => leaf condition
  | oneOf field values => should (values.map fun value => leaf (.equals field value))
  | filter clauses => filter (expandedClauses clauses)
  | should clauses => should (expandedClauses clauses)
  | mustNot clauses => mustNot (expandedClauses clauses)

/-- Clauses in which membership is written out. -/
def expandedClauses : List BoolQuery → List BoolQuery
  | [] => []
  | clause :: rest => expanded clause :: expandedClauses rest
end

mutual
/-- The conditions of a query, from the left. -/
def leaves : BoolQuery → List Leaf
  | leaf condition => [condition]
  | oneOf field values => values.map fun value => .equals field value
  | filter clauses => clauseLeaves clauses
  | should clauses => clauseLeaves clauses
  | mustNot clauses => clauseLeaves clauses

/-- The conditions of clauses, from the left. -/
def clauseLeaves : List BoolQuery → List Leaf
  | [] => []
  | clause :: rest => leaves clause ++ clauseLeaves rest
end

/-- An object that is a condition is read as that condition. -/
@[simp] theorem ofJson?_leaf (condition : Leaf) :
    ofJson? condition.toJson = some (leaf condition) := by
  have read := Leaf.ofJson?_toJson condition
  cases condition <;> exact congrArg (Option.map leaf) read

/-- Conditions are read one by one. -/
theorem clausesOfJson?_leaves (conditions : List Leaf) :
    clausesOfJson? (conditions.map Leaf.toJson) = some (conditions.map leaf) := by
  induction conditions with
  | nil => rfl
  | cons condition rest inductionHypothesis =>
      simp [clausesOfJson?, inductionHypothesis]

mutual
/-- A written query is read back with its memberships written out. -/
theorem ofJson?_toJson : (query : BoolQuery) → ofJson? query.toJson = some query.expanded
  | leaf condition => ofJson?_leaf condition
  | oneOf field values => by
      have read := clausesOfJson?_leaves (values.map fun value => .equals field value)
      rw [List.map_map, List.map_map] at read
      simp only [Function.comp_def] at read
      simp [toJson, ofJson?, ofBody?, expanded, read]
  | filter clauses => by
      simp [toJson, ofJson?, ofBody?, expanded, clausesOfJson?_clausesToJson clauses]
  | should clauses => by
      simp [toJson, ofJson?, ofBody?, expanded, clausesOfJson?_clausesToJson clauses]
  | mustNot clauses => by
      simp [toJson, ofJson?, ofBody?, expanded, clausesOfJson?_clausesToJson clauses]

/-- Written clauses are read back with their memberships written out. -/
theorem clausesOfJson?_clausesToJson :
    (clauses : List BoolQuery) → clausesOfJson? (clausesToJson clauses) = some (expandedClauses clauses)
  | [] => rfl
  | clause :: rest => by
      simp [clausesToJson, clausesOfJson?, expandedClauses, ofJson?_toJson clause,
        clausesOfJson?_clausesToJson rest]
end

mutual
/-- Writing memberships out does not change when a query matches. -/
theorem holds_expanded (truth : Leaf → Bool) :
    (query : BoolQuery) → query.expanded.holds truth = query.holds truth
  | leaf condition => rfl
  | oneOf field values => by simp [expanded, List.any_map, Function.comp_def]
  | filter clauses => allHold_expandedClauses truth clauses
  | should clauses => someHolds_expandedClauses truth clauses
  | mustNot clauses => congrArg (!·) (someHolds_expandedClauses truth clauses)

theorem allHold_expandedClauses (truth : Leaf → Bool) :
    (clauses : List BoolQuery) → allHold truth (expandedClauses clauses) = allHold truth clauses
  | [] => rfl
  | clause :: rest => by
      simp [expandedClauses, allHold, holds_expanded truth clause,
        allHold_expandedClauses truth rest]

theorem someHolds_expandedClauses (truth : Leaf → Bool) :
    (clauses : List BoolQuery) → someHolds truth (expandedClauses clauses) = someHolds truth clauses
  | [] => rfl
  | clause :: rest => by
      simp [expandedClauses, someHolds, holds_expanded truth clause,
        someHolds_expandedClauses truth rest]
end

mutual
/-- Writing memberships out does not change the conditions of a query. -/
theorem leaves_expanded : (query : BoolQuery) → query.expanded.leaves = query.leaves
  | leaf condition => rfl
  | oneOf field values => by
      simp only [expanded, leaves]
      induction values with
      | nil => rfl
      | cons value rest inductionHypothesis => simp [clauseLeaves, leaves, inductionHypothesis]
  | filter clauses => clauseLeaves_expandedClauses clauses
  | should clauses => clauseLeaves_expandedClauses clauses
  | mustNot clauses => clauseLeaves_expandedClauses clauses

theorem clauseLeaves_expandedClauses :
    (clauses : List BoolQuery) → clauseLeaves (expandedClauses clauses) = clauseLeaves clauses
  | [] => rfl
  | clause :: rest => by
      simp [expandedClauses, clauseLeaves, leaves_expanded clause,
        clauseLeaves_expandedClauses rest]
end

/-- The document of a query is read as a list with that one clause. -/
theorem ofDocument?_document (query : BoolQuery) :
    ofDocument? query.document = some (filter [query]).expanded :=
  ofJson?_toJson (filter [query])

/-- The document of a query matches exactly when the query does. -/
@[simp] theorem documentHolds?_document (truth : Leaf → Bool) (query : BoolQuery) :
    documentHolds? truth query.document = some (query.holds truth) := by
  rw [documentHolds?, ofDocument?_document, Option.map_some, holds_expanded]
  simp

/-- The document of a query has the conditions of the query. -/
theorem leaves_ofDocument?
    {query read : BoolQuery}
    (isRead : ofDocument? query.document = some read) :
    read.leaves = query.leaves := by
  rw [ofDocument?_document, Option.some.injEq] at isRead
  rw [← isRead, leaves_expanded]
  simp [leaves, clauseLeaves]

end BoolQuery
end FilterQuery
