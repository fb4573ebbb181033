import FilterQuery.Proofs.Duality
import FilterQuery.Proofs.Refusals

/-!
# Bool queries without clauses

A bool query with no clause matches everything for the engine, whatever number
of matches it asks for. Main statement: each bool query of a document has one or
two clauses, or as many as values are listed in a comparison, so the only ones
without a clause are those of comparisons with the empty list; and the engine
takes each such comparison for its opposite.
-/

namespace FilterQuery

namespace BoolQuery

/-! ## Clauses and how the engine takes them -/

mutual
/-- How many clauses each bool query has, from the outermost one on and from the left. -/
def clauseCounts : BoolQuery → List Nat
  | leaf _ => []
  | oneOf _ values => [values.length]
  | filter clauses => clauses.length :: clauseCountsOf clauses
  | should clauses => clauses.length :: clauseCountsOf clauses
  | mustNot clauses => clauses.length :: clauseCountsOf clauses

/-- How many clauses each bool query in some clauses has. -/
def clauseCountsOf : List BoolQuery → List Nat
  | [] => []
  | clause :: rest => clauseCounts clause ++ clauseCountsOf rest
end

mutual
/-- Whether a query matches for the engine, given which conditions hold. Without clauses it does:
that is so by itself where all clauses or none have to match. -/
def holdsInEngine (truth : Leaf → Bool) : BoolQuery → Bool
  | leaf condition => truth condition
  | oneOf field values => values.isEmpty || values.any fun value => truth (.equals field value)
  | filter clauses => allHoldInEngine truth clauses
  | should clauses => clauses.isEmpty || someHoldsInEngine truth clauses
  | mustNot clauses => !someHoldsInEngine truth clauses

/-- Whether all clauses match for the engine. -/
def allHoldInEngine (truth : Leaf → Bool) : List BoolQuery → Bool
  | [] => true
  | clause :: rest => holdsInEngine truth clause && allHoldInEngine truth rest

/-- Whether some clause matches for the engine. -/
def someHoldsInEngine (truth : Leaf → Bool) : List BoolQuery → Bool
  | [] => false
  | clause :: rest => holdsInEngine truth clause || someHoldsInEngine truth rest
end

/-! ## Memberships written out -/

theorem clauseCountsOf_leaves (conditions : List Leaf) :
    clauseCountsOf (conditions.map leaf) = [] := by
  induction conditions with
  | nil => rfl
  | cons condition rest inductionHypothesis =>
      simp [clauseCountsOf, clauseCounts, inductionHypothesis]

theorem someHoldsInEngine_leaves (truth : Leaf → Bool) (conditions : List Leaf) :
    someHoldsInEngine truth (conditions.map leaf) = conditions.any truth := by
  induction conditions with
  | nil => rfl
  | cons condition rest inductionHypothesis =>
      simp [someHoldsInEngine, holdsInEngine, inductionHypothesis]

/-- Clauses are expanded one by one. -/
theorem length_expandedClauses (clauses : List BoolQuery) :
    (expandedClauses clauses).length = clauses.length := by
  induction clauses with
  | nil => rfl
  | cons clause rest inductionHypothesis => simp [expandedClauses, inductionHypothesis]

mutual
/-- Writing memberships out keeps the number of clauses. -/
theorem clauseCounts_expanded :
    (query : BoolQuery) → query.expanded.clauseCounts = query.clauseCounts
  | leaf condition => rfl
  | oneOf field values => by
      have none := clauseCountsOf_leaves (values.map fun value => .equals field value)
      rw [List.map_map] at none
      simp only [expanded, clauseCounts, List.length_map]
      exact congrArg _ none
  | filter clauses | should clauses | mustNot clauses => by
      simp [expanded, clauseCounts, length_expandedClauses,
        clauseCountsOf_expandedClauses clauses]

theorem clauseCountsOf_expandedClauses :
    (clauses : List BoolQuery) →
      clauseCountsOf (expandedClauses clauses) = clauseCountsOf clauses
  | [] => rfl
  | clause :: rest => by
      simp [expandedClauses, clauseCountsOf, clauseCounts_expanded clause,
        clauseCountsOf_expandedClauses rest]
end

mutual
/-- Writing memberships out does not change what the engine matches. -/
theorem holdsInEngine_expanded (truth : Leaf → Bool) :
    (query : BoolQuery) → query.expanded.holdsInEngine truth = query.holdsInEngine truth
  | leaf condition => rfl
  | oneOf field values => by
      have some := someHoldsInEngine_leaves truth (values.map fun value => .equals field value)
      rw [List.map_map, List.any_map] at some
      cases values with
      | nil => rfl
      | cons value rest => exact some
  | filter clauses => allHoldInEngine_expandedClauses truth clauses
  | should clauses => by
      cases clauses with
      | nil => rfl
      | cons clause rest => exact someHoldsInEngine_expandedClauses truth (clause :: rest)
  | mustNot clauses => congrArg (!·) (someHoldsInEngine_expandedClauses truth clauses)

theorem allHoldInEngine_expandedClauses (truth : Leaf → Bool) :
    (clauses : List BoolQuery) →
      allHoldInEngine truth (expandedClauses clauses) = allHoldInEngine truth clauses
  | [] => rfl
  | clause :: rest => by
      simp [expandedClauses, allHoldInEngine, holdsInEngine_expanded truth clause,
        allHoldInEngine_expandedClauses truth rest]

theorem someHoldsInEngine_expandedClauses (truth : Leaf → Bool) :
    (clauses : List BoolQuery) →
      someHoldsInEngine truth (expandedClauses clauses) = someHoldsInEngine truth clauses
  | [] => rfl
  | clause :: rest => by
      simp [expandedClauses, someHoldsInEngine, holdsInEngine_expanded truth clause,
        someHoldsInEngine_expandedClauses truth rest]
end

end BoolQuery

/-! ## Comparisons -/

namespace Operator

/-- The comparison that the engine makes for the one with a value: with the empty list, it makes
the opposite one. -/
def misread (operator : Operator) (value : Literal) : Operator :=
  if value.elements.isEmpty then operator.opposite else operator

/-- Only comparisons with lists are misread. -/
theorem misread_of_isList_eq_false
    {value : Literal}
    (single : value.isList = false)
    (operator : Operator) :
    operator.misread value = operator := by
  rw [misread, Literal.elements_of_isList_eq_false single]
  rfl

/-- No value is listed in the empty list, so the two memberships in it exclude each other. -/
theorem meaning_opposite_none
    {operator : Operator}
    (takesList : operator.takesList = true)
    (truth : Leaf → Bool) (field : String) :
    operator.opposite.meaning truth field (.list []) =
      !operator.meaning truth field (.list []) := by
  cases operator with
  | isIn | notIn => rfl
  | _ => contradiction

end Operator

namespace Fragment

/-- Whether what a fragment means is the case for the engine. -/
def holdsInEngine (truth : Leaf → Bool) (fragment : Fragment) : Bool :=
  fragment.query.holdsInEngine truth ^^ fragment.inverted

/-- A comparison with a list asks for one condition per value. -/
theorem query_ofComparison_list
    {operator : Operator}
    (takesList : operator.takesList = true)
    (field : String) (items : List Literal) :
    (ofComparison field operator (.list items)).query =
      .oneOf field (items.map Literal.toJson) := by
  cases operator with
  | isIn | notIn => rfl
  | _ => contradiction

/-- A comparison with a single value asks for one condition. -/
theorem exists_query_ofComparison_single
    {operator : Operator}
    (takesNone : operator.takesList = false)
    (field : String) (value : Literal) :
    ∃ condition, (ofComparison field operator value).query = .leaf condition := by
  cases operator with
  | isIn | notIn => contradiction
  | _ => exact ⟨_, rfl⟩

end Fragment

namespace Field

variable {field : Field} {operator : Operator} {value : Literal} {fragment : Fragment}

/-- The query of a comparison is a single condition, or one condition per listed value. -/
theorem query_of_lookup (found : field.lookup operator value = .ok fragment) :
    (value.isList = false ∧ ∃ condition, fragment.query = .leaf condition) ∨
      operator.takesList = true ∧ ∃ items others, value = .list items ∧
        List.Forall₂ (fun item other => field.coerce item = .ok other) items others ∧
          fragment.query = .oneOf field.name (others.map Literal.toJson) := by
  obtain ⟨_, ⟨isNull, ofNull⟩ | ⟨_, ofValue⟩⟩ := lookup_eq_ok_iff.mp found
  · left
    obtain rfl := Literal.eq_null_of_isNull isNull
    obtain ⟨_, ⟨_, rfl⟩ | ⟨_, rfl⟩⟩ := lookupNull_eq_ok_iff.mp ofNull
    · exact ⟨rfl, _, rfl⟩
    · exact ⟨rfl, _, rfl⟩
  · obtain ⟨shape, _, converted, coerced, rfl⟩ := lookupValue_eq_ok_iff.mp ofValue
    cases isList : value.isList with
    | false =>
        left
        rw [isList] at shape
        exact ⟨rfl, Fragment.exists_query_ofComparison_single shape field.name converted⟩
    | true =>
        right
        rw [isList] at shape
        obtain ⟨items, rfl⟩ := Literal.eq_list_of_isList isList
        obtain ⟨others, areCoerced, rfl⟩ := coerce_list_eq_ok_iff.mp coerced
        exact ⟨shape, items, others, rfl, areCoerced,
          Fragment.query_ofComparison_list shape field.name others⟩

/-- The engine makes the comparison, or its opposite where the value is the empty list. -/
theorem holdsInEngine_of_lookup (found : field.lookup operator value = .ok fragment) :
    ∃ converted, field.coerce value = .ok converted ∧
      ∀ truth, fragment.holdsInEngine truth =
        (operator.misread value).meaning truth field.name converted := by
  obtain ⟨converted, coerced, means⟩ := meaning_of_lookup found
  refine ⟨converted, coerced, fun truth => ?_⟩
  have meant := means truth
  rw [Fragment.holds] at meant
  rw [Fragment.holdsInEngine]
  obtain ⟨single, condition, isLeaf⟩ | ⟨takesList, items, others, rfl, areCoerced, isOneOf⟩ :=
    query_of_lookup found
  · rw [isLeaf] at meant ⊢
    rw [Operator.misread_of_isList_eq_false single, ← meant]
    rfl
  · rw [isOneOf] at meant ⊢
    cases areCoerced with
    | nil =>
        obtain rfl : converted = .list [] := by
          simpa [coerce, coerceItems] using coerced.symm
        -- A choice of no condition: read plainly it matches nothing, for the engine everything.
        calc (true ^^ fragment.inverted)
            = !(false ^^ fragment.inverted) := by simp
          _ = !operator.meaning truth field.name (.list []) := by rw [← meant]; rfl
          _ = operator.opposite.meaning truth field.name (.list []) :=
              (Operator.meaning_opposite_none takesList truth field.name).symm
    | cons _ _ => exact meant

end Field

namespace Expr

/-- How many clauses the bool queries of an expression have: two where two sides are joined, one
for a comparison, and one for each value that it lists. -/
def clauseCounts : Expr → List Nat
  | logical _ left right => 2 :: (left.clauseCounts ++ right.clauseCounts)
  | comparison _ _ (.list items) => [1, items.length]
  | comparison _ _ _ => [1]

/-- Whether some comparison is with the empty list. -/
def comparesWithNone : Expr → Bool
  | logical _ left right => left.comparesWithNone || right.comparesWithNone
  | comparison _ _ value => value.elements.isEmpty

/-- The expression that the engine takes an expression for. -/
def misread : Expr → Expr
  | logical connective left right => logical connective left.misread right.misread
  | comparison name operator value => comparison name (operator.misread value) value

/-- There is a clause of nothing exactly where something is compared with an empty list. -/
theorem forall_clauseCounts_iff (expr : Expr) :
    (∀ count ∈ expr.clauseCounts, 0 < count) ↔ expr.comparesWithNone = false := by
  induction expr with
  | logical connective left right leftHypothesis rightHypothesis =>
      rw [clauseCounts, List.forall_mem_cons, List.forall_mem_append, leftHypothesis,
        rightHypothesis, comparesWithNone, Bool.or_eq_false_iff]
      exact and_iff_right (by decide)
  | comparison name operator value =>
      cases value with
      | list items =>
          simp [clauseCounts, comparesWithNone, Literal.elements, List.length_pos_iff]
      | _ => simp [clauseCounts, comparesWithNone, Literal.elements]

/-! ## Compiled queries -/

theorem clauseCounts_clause (fragment : Fragment) :
    (clause fragment).clauseCounts = 1 :: fragment.query.clauseCounts := by
  cases inverted : fragment.inverted <;>
    simp [clause, inverted, BoolQuery.clauseCounts, BoolQuery.clauseCountsOf]

/-- Two sides are two clauses of one query. -/
theorem clauseCounts_join (connective : Connective) (left right : BoolQuery) :
    (join connective left right).clauseCounts = 2 :: (left.clauseCounts ++ right.clauseCounts) := by
  cases connective <;> simp [join, BoolQuery.clauseCounts, BoolQuery.clauseCountsOf]

theorem holdsInEngine_clause (truth : Leaf → Bool) (fragment : Fragment) :
    (clause fragment).holdsInEngine truth = fragment.holdsInEngine truth := by
  cases inverted : fragment.inverted <;>
    simp [clause, inverted, Fragment.holdsInEngine, BoolQuery.holdsInEngine,
      BoolQuery.someHoldsInEngine]

/-- The engine takes a joined query as its connective means. -/
theorem holdsInEngine_join
    (truth : Leaf → Bool) (connective : Connective) (left right : BoolQuery) :
    (join connective left right).holdsInEngine truth =
      connective.meaning (left.holdsInEngine truth) (right.holdsInEngine truth) := by
  cases connective <;>
    simp [join, Connective.meaning, BoolQuery.holdsInEngine, BoolQuery.allHoldInEngine,
      BoolQuery.someHoldsInEngine]

/-- How many clauses the queries have can be told from the expression. -/
theorem clauseCounts_of_compile
    {resolve : String → Except Error Field} {expr : Expr} {fragment : Fragment}
    (compiled : expr.compile resolve = .ok fragment) :
    fragment.query.clauseCounts = expr.clauseCounts := by
  induction expr generalizing fragment with
  | logical connective left right leftHypothesis rightHypothesis =>
      obtain ⟨first, second, leftCompiled, rightCompiled, rfl⟩ :=
        compile_logical_eq_ok_iff.mp compiled
      rw [clauseCounts_join, leftHypothesis leftCompiled, rightHypothesis rightCompiled,
        clauseCounts]
  | comparison name operator value =>
      obtain ⟨field, found, _, lookedUp, rfl⟩ := compile_comparison_eq_ok_iff.mp compiled
      rw [clauseCounts_clause]
      obtain ⟨single, condition, isLeaf⟩ | ⟨_, items, others, rfl, areCoerced, isOneOf⟩ :=
        Field.query_of_lookup lookedUp
      · rw [isLeaf]
        cases value with
        | list items => contradiction
        | _ => rfl
      · rw [isOneOf, clauseCounts, BoolQuery.clauseCounts, List.length_map, areCoerced.length_eq]

/-- What the engine makes of a compiled expression is what the misread expression means. -/
theorem meaning?_misread_of_compile
    {resolve : String → Except Error Field} {expr : Expr} {fragment : Fragment}
    (compiled : expr.compile resolve = .ok fragment)
    (truth : Leaf → Bool) :
    expr.misread.meaning? truth resolve = some (fragment.query.holdsInEngine truth) := by
  induction expr generalizing fragment with
  | logical connective left right leftHypothesis rightHypothesis =>
      obtain ⟨first, second, leftCompiled, rightCompiled, rfl⟩ :=
        compile_logical_eq_ok_iff.mp compiled
      simp only [misread, meaning?, leftHypothesis leftCompiled, rightHypothesis rightCompiled,
        holdsInEngine_join]
  | comparison name operator value =>
      obtain ⟨field, found, resolved, lookedUp, rfl⟩ := compile_comparison_eq_ok_iff.mp compiled
      obtain ⟨converted, coerced, means⟩ := Field.holdsInEngine_of_lookup lookedUp
      simp only [misread, meaning?, resolved, coerced, holdsInEngine_clause, means]

/-- The bool queries of a document have the clauses of the envelope and of the expression, so all
of them have some exactly when no comparison is with the empty list. For the engine, the document
matches exactly when the expression is true with each such comparison turned into its opposite. -/
theorem clauseless_iff_comparesWithNone
    (resolve : String → Except Error Field) (expr : Expr) {document : Json}
    (compiled : expr.document resolve = .ok document) :
    ∃ query, BoolQuery.ofDocument? document = some query ∧
      query.clauseCounts = 1 :: expr.clauseCounts ∧
      ((∀ count ∈ query.clauseCounts, 0 < count) ↔ expr.comparesWithNone = false) ∧
      ∀ truth, expr.misread.meaning? truth resolve = some (query.holdsInEngine truth) := by
  obtain ⟨fragment, built, rfl⟩ := document_eq_ok_iff.mp compiled
  have counts : (BoolQuery.filter [fragment.query]).expanded.clauseCounts =
      1 :: expr.clauseCounts := by
    rw [BoolQuery.clauseCounts_expanded, ← clauseCounts_of_compile built]
    simp [BoolQuery.clauseCounts, BoolQuery.clauseCountsOf]
  refine ⟨_, BoolQuery.ofDocument?_document fragment.query, counts, ?_, fun truth => ?_⟩
  · rw [counts, List.forall_mem_cons, forall_clauseCounts_iff]
    exact and_iff_right (by decide)
  · rw [meaning?_misread_of_compile built, BoolQuery.holdsInEngine_expanded]
    simp [BoolQuery.holdsInEngine, BoolQuery.allHoldInEngine]

/-- A comparison with the empty list below an `or`: it is turned into a membership, which adds
nothing, so the engine looks at the prices only. -/
theorem clauseless_iff_comparesWithNone_sample :
    ∃ document query,
      (logical .or (comparison ⟨["price"]⟩ .notEqual (.int 1))
        (comparison ⟨["tag"]⟩ .notIn (.list []))).document Sample.catalog.resolve = .ok document ∧
      BoolQuery.ofDocument? document = some query ∧ query.clauseCounts = [1, 2, 1, 1, 0] ∧
      (¬∀ count ∈ query.clauseCounts, 0 < count) ∧
      ∀ truth, (comparison ⟨["price"]⟩ .notEqual (.int 1)).meaning? truth Sample.catalog.resolve =
        some (query.holdsInEngine truth) := by
  obtain ⟨query, isRead, counts, clauseless, means⟩ :=
    clauseless_iff_comparesWithNone Sample.catalog.resolve
      (logical .or (comparison ⟨["price"]⟩ .notEqual (.int 1))
        (comparison ⟨["tag"]⟩ .notIn (.list []))) rfl
  refine ⟨_, query, rfl, isRead, counts, ?_, fun truth => ?_⟩
  · rw [clauseless]
    decide
  · rw [← means truth]
    exact congrArg some (Bool.or_false _).symm

/-- Membership in the empty list compiles to a query that matches everything for the engine,
although no value is listed there. -/
theorem membership_in_none_matches_all :
    ∃ document query,
      (comparison ⟨["tag"]⟩ .isIn (.list [])).document Sample.catalog.resolve = .ok document ∧
      BoolQuery.ofDocument? document = some query ∧ 0 ∈ query.clauseCounts ∧
      query.holdsInEngine (fun _ => false) = true ∧
      (comparison ⟨["tag"]⟩ .isIn (.list [])).meaning? (fun _ => false) Sample.catalog.resolve =
        some false :=
  ⟨_, _, rfl, rfl, by decide, rfl, rfl⟩

end Expr
end FilterQuery
