import FilterQuery.Proofs.Refusals

/-!
# Compiling comparison by comparison

The comparisons of an expression stand in a row, from the left. Main statement:
an expression compiles exactly when each of its comparisons has a fragment, it
fails with the first comparison of the row that has none, and its document holds
the fragments of the row in the same order, each of them once and under a list of
clauses that must not match exactly when it is inverted.
-/

namespace FilterQuery

/-! ## Reading the fragments off a document -/

namespace Json

/-- The queries of single comparisons in a compiled query, from the left, each with whether it must
not match. Two clauses are the sides of a connective; one clause is the query of a comparison, in
which nothing else is looked for. -/
def comparisonClauses : Json → List (Json × Bool)
  | .object [("bool", .object [("filter", .array [left, right])])] =>
      left.comparisonClauses ++ right.comparisonClauses
  | .object [("bool", .object
      [("minimum_should_match", .int 1), ("should", .array [left, right])])] =>
      left.comparisonClauses ++ right.comparisonClauses
  | .object [("bool", .object
      [("minimum_should_match", .int 1), ("should", .array [query])])] => [(query, false)]
  | .object [("bool", .object [("must_not", .array [query])])] => [(query, true)]
  | _ => []

/-- The queries of single comparisons in a document, below its envelope. -/
def documentClauses : Json → List (Json × Bool)
  | .object [("query", .object [("bool", .object [("filter", .array [query])])])] =>
      query.comparisonClauses
  | _ => []

end Json

namespace Fragment

/-- A fragment as a compiled query holds it. -/
def written (fragment : Fragment) : Json × Bool :=
  (fragment.query.toJson, fragment.inverted)

end Fragment

namespace Expr

theorem comparisonClauses_clause (fragment : Fragment) :
    (clause fragment).toJson.comparisonClauses = [fragment.written] := by
  unfold clause Fragment.written
  cases fragment.inverted <;> rfl

theorem comparisonClauses_join (connective : Connective) (left right : BoolQuery) :
    (join connective left right).toJson.comparisonClauses =
      left.toJson.comparisonClauses ++ right.toJson.comparisonClauses := by
  cases connective <;> rfl

end Expr

/-! ## Comparisons in a row -/

/-- A comparison by itself. -/
structure Comparison where
  name : Name
  operator : Operator
  value : Literal

namespace Comparison

variable {resolve : String → Except Error Field} {comparison : Comparison}

/-- The fragment of a comparison: its name is resolved, and the field has this fragment for the
operator and the value. -/
def Yields (resolve : String → Except Error Field) (comparison : Comparison)
    (fragment : Fragment) : Prop :=
  ∃ field, resolve comparison.name.dotted = .ok field ∧
    field.lookup comparison.operator comparison.value = .ok fragment

/-- Why a comparison has no fragment. The field is asked only where there is one. -/
inductive Fails (resolve : String → Except Error Field) (comparison : Comparison) :
    Error → Prop where
  | name {cause : Error} : resolve comparison.name.dotted = .error cause →
      Fails resolve comparison cause
  | field {field : Field} {cause : FieldError} : resolve comparison.name.dotted = .ok field →
      field.lookup comparison.operator comparison.value = .error cause →
        Fails resolve comparison (.field cause)

/-- What becomes of a comparison. -/
def outcome (resolve : String → Except Error Field) (comparison : Comparison) :
    Except Error Fragment :=
  Expr.lookup resolve comparison.name comparison.operator comparison.value

theorem outcome_eq_ok_iff {fragment : Fragment} :
    comparison.outcome resolve = .ok fragment ↔ comparison.Yields resolve fragment := by
  unfold outcome Expr.lookup Yields
  cases resolve comparison.name.dotted with
  | error cause => simp
  | ok field =>
      cases found : field.lookup comparison.operator comparison.value <;> simp [found]

theorem outcome_eq_error_iff {cause : Error} :
    comparison.outcome resolve = .error cause ↔ comparison.Fails resolve cause := by
  unfold outcome Expr.lookup
  constructor
  · intro fails
    split at fails
    · next unresolved =>
        cases fails
        exact .name unresolved
    · next resolved =>
        split at fails
        · next refused =>
            cases fails
            exact .field resolved refused
        · contradiction
  · rintro (unresolved | ⟨resolved, refused⟩)
    · simp [unresolved]
    · simp [resolved, refused]

end Comparison

namespace Expr

variable {resolve : String → Except Error Field} {expr : Expr}

/-- The comparisons of an expression, from the left. -/
def comparisons : Expr → List Comparison
  | logical _ left right => left.comparisons ++ right.comparisons
  | comparison name operator value => [⟨name, operator, value⟩]

/-- A comparison is compiled to the clause of its fragment. -/
theorem compile_comparison_eq
    (resolve : String → Except Error Field) (name : Name) (operator : Operator) (value : Literal) :
    (comparison name operator value).compile resolve =
      (Comparison.outcome resolve ⟨name, operator, value⟩).map
        fun fragment => ⟨clause fragment, fragment.inverted⟩ := by
  unfold compile Comparison.outcome
  cases lookup resolve name operator value <;> rfl

/-- Both sides of a connective are compiled, left before right, and joined. -/
theorem compile_logical_eq
    (resolve : String → Except Error Field) (connective : Connective) (left right : Expr) :
    (logical connective left right).compile resolve =
      (left.compile resolve).bind fun first => (right.compile resolve).map fun second =>
        ⟨join connective first.query second.query, false⟩ := by
  rw [compile]
  cases left.compile resolve with
  | error cause => rfl
  | ok first => cases right.compile resolve <;> rfl

/-- What is read off a compiled query is what becomes of the comparisons in a row, be it fragments
or an error. -/
theorem comparisonClauses_compile (resolve : String → Except Error Field) (expr : Expr) :
    (expr.compile resolve).map (fun fragment => fragment.query.toJson.comparisonClauses) =
      (expr.comparisons.mapM (Comparison.outcome resolve)).map (List.map Fragment.written) := by
  induction expr with
  | logical connective left right leftHypothesis rightHypothesis =>
      calc ((logical connective left right).compile resolve).map
            (fun fragment => fragment.query.toJson.comparisonClauses)
          = ((left.compile resolve).map fun first => first.query.toJson.comparisonClauses).bind
              fun firsts =>
                ((right.compile resolve).map fun second =>
                  second.query.toJson.comparisonClauses).map (firsts ++ ·) := by
            rw [compile_logical_eq]
            cases left.compile resolve with
            | error cause => rfl
            | ok first =>
                cases right.compile resolve with
                | error cause => rfl
                | ok second =>
                    exact congrArg Except.ok (comparisonClauses_join connective _ _)
        _ = ((left.comparisons.mapM (Comparison.outcome resolve)).map
              (List.map Fragment.written)).bind
              fun firsts =>
                ((right.comparisons.mapM (Comparison.outcome resolve)).map
                  (List.map Fragment.written)).map (firsts ++ ·) := by
            rw [leftHypothesis, rightHypothesis]
        _ = ((logical connective left right).comparisons.mapM (Comparison.outcome resolve)).map
              (List.map Fragment.written) := by
            rw [comparisons, List.mapM_append]
            cases left.comparisons.mapM (Comparison.outcome resolve) with
            | error cause => rfl
            | ok firsts =>
                cases right.comparisons.mapM (Comparison.outcome resolve) with
                | error cause => rfl
                | ok seconds => exact congrArg Except.ok List.map_append.symm
  | comparison name operator value =>
      rw [compile_comparison_eq, comparisons, List.mapM_cons]
      cases Comparison.outcome resolve ⟨name, operator, value⟩ with
      | error cause => rfl
      | ok fragment => exact congrArg Except.ok (comparisonClauses_clause fragment)

/-- An expression fails to compile with the first comparison of the row that fails. -/
theorem compile_eq_error_iff {cause : Error} :
    expr.compile resolve = .error cause ↔
      FirstFault (Comparison.Fails resolve) expr.comparisons cause := by
  rw [← mapM_eq_error_iff_firstFault fun _ _ _ => Comparison.outcome_eq_error_iff]
  have same := comparisonClauses_compile resolve expr
  cases compiled : expr.compile resolve <;>
    cases row : expr.comparisons.mapM (Comparison.outcome resolve) <;>
    simp_all [Except.map]

/-- The document of an expression that compiles holds the fragments of its comparisons. -/
theorem documentClauses_of_compile
    {fragment : Fragment}
    (compiled : expr.compile resolve = .ok fragment) :
    ∃ found, List.Forall₂ (Comparison.Yields resolve) expr.comparisons found ∧
      fragment.query.document.documentClauses = found.map Fragment.written := by
  have same := comparisonClauses_compile resolve expr
  rw [compiled] at same
  cases row : expr.comparisons.mapM (Comparison.outcome resolve) with
  | error cause => simp [row, Except.map] at same
  | ok found =>
      refine ⟨found, ?_, ?_⟩
      · exact (mapM_eq_ok_iff_forall₂.mp row).imp fun _ _ => Comparison.outcome_eq_ok_iff.mp
      · rw [row] at same
        exact Except.ok.inj same

/-- An expression is compiled comparison by comparison, from the left. It compiles exactly when
every comparison has a fragment, and fails with the first one that has none: with its name before
its field. The document of what compiles holds the fragments of all comparisons in order, and a
connective at the root leaves nothing to be inverted. -/
theorem compiles_comparison_by_comparison (resolve : String → Except Error Field) (expr : Expr) :
    ((∃ fragment, expr.compile resolve = .ok fragment) ↔
      ∀ comparison ∈ expr.comparisons, ∃ found, comparison.Yields resolve found) ∧
    (∀ cause, expr.compile resolve = .error cause ↔
      FirstFault (Comparison.Fails resolve) expr.comparisons cause) ∧
    ∀ fragment, expr.compile resolve = .ok fragment →
      expr.document resolve = .ok fragment.query.document ∧
      (∃ found, List.Forall₂ (Comparison.Yields resolve) expr.comparisons found ∧
        fragment.query.document.documentClauses = found.map Fragment.written) ∧
      ∀ connective left right, expr = logical connective left right →
        fragment.inverted = false := by
  refine ⟨?_, fun _ => compile_eq_error_iff, fun fragment compiled => ⟨?_, ?_, ?_⟩⟩
  · -- Success is the absence of an error, for the expression as for its comparisons.
    simp only [← Comparison.outcome_eq_ok_iff, ← exists_mapM_eq_ok_iff]
    rw [exists_eq_ok_iff, exists_eq_ok_iff]
    simp only [ne_eq, compile_eq_error_iff,
      mapM_eq_error_iff_firstFault fun _ _ _ => Comparison.outcome_eq_error_iff]
  · exact document_eq_ok_iff.mpr ⟨fragment, compiled, rfl⟩
  · exact documentClauses_of_compile compiled
  · rintro connective left right rfl
    obtain ⟨_, _, _, _, rfl⟩ := compile_logical_eq_ok_iff.mp compiled
    rfl

end Expr

namespace Sample

/-- Three comparisons in a row, of which the second one is negated. -/
def row : Expr :=
  .logical .and
    (.logical .or (.comparison ⟨["price"]⟩ .greater (.int 1))
      (.comparison ⟨["tag"]⟩ .notEqual (.string "x")))
    (.comparison ⟨["tag"]⟩ .isIn (.list [.string "y"]))

/-- A comparison that its field refuses, before one whose name is unknown. -/
def faulty : Expr :=
  .logical .or row
    (.logical .and (.comparison ⟨["price"]⟩ .contains (.int 1))
      (.comparison ⟨["missing"]⟩ .equal (.int 1)))

end Sample

namespace Expr

/-- The refusal counts although a name to the right of it is unknown. -/
theorem compiles_comparison_by_comparison_sample :
    Sample.faulty.compile Sample.catalog.resolve =
      .error (.field (.operatorNotAllowed ⟨"price", .long, "integer", none, false⟩ .contains)) ∧
    ∃ fragment found, Sample.row.compile Sample.catalog.resolve = .ok fragment ∧
      List.Forall₂ (Comparison.Yields Sample.catalog.resolve) Sample.row.comparisons found ∧
      fragment.query.document.documentClauses = found.map Fragment.written ∧
      fragment.query.document.documentClauses =
        [((BoolQuery.leaf (.range "price" .greater (.int 1))).toJson, false),
          ((BoolQuery.leaf (.equals "tag" (.string "x"))).toJson, true),
          ((BoolQuery.oneOf "tag" [.string "y"]).toJson, false)] ∧
      fragment.inverted = false := by
  constructor
  · apply ((compiles_comparison_by_comparison Sample.catalog.resolve Sample.faulty).2.1 _).mpr
    refine ⟨Sample.row.comparisons, _, _, rfl, ?_, .field rfl rfl⟩
    intro earlier isEarlier other fails
    have compiles : ∃ fragment, Sample.row.compile Sample.catalog.resolve = .ok fragment :=
      ⟨_, rfl⟩
    obtain ⟨found, yields⟩ := (compiles_comparison_by_comparison Sample.catalog.resolve
      Sample.row).1.mp compiles earlier isEarlier
    rw [← Comparison.outcome_eq_error_iff] at fails
    rw [← Comparison.outcome_eq_ok_iff, fails] at yields
    contradiction
  · obtain ⟨_, ⟨found, yield, areWritten⟩, upright⟩ :=
      (compiles_comparison_by_comparison Sample.catalog.resolve Sample.row).2.2 _ rfl
    exact ⟨_, found, rfl, yield, areWritten, rfl, upright _ _ _ rfl⟩

end Expr
end FilterQuery
