import FilterQuery.Proofs.Meaning

/-!
# Duality of expressions

The dual of an expression has `and` for `or` and each operator replaced by its
twin. Order comparisons have no twins. Main statement: without order
comparisons, an expression and its dual compile alike, and the document of one
matches exactly when that of the other does not.
-/

namespace FilterQuery

namespace Operator

/-- Whether an operator compares by order. -/
def isOrder : Operator → Bool
  | greater | greaterOrEqual | less | lessOrEqual => true
  | _ => false

/-- The twin of an operator; an order comparison stays as it is. -/
def opposite (operator : Operator) : Operator :=
  operator.twin?.getD operator

theorem twin?_eq_some_opposite
    {operator : Operator}
    (notOrder : operator.isOrder = false) :
    operator.twin? = some operator.opposite := by
  cases operator with
  | greater | greaterOrEqual | less | lessOrEqual => contradiction
  | _ => rfl

@[simp] theorem opposite_opposite (operator : Operator) : operator.opposite.opposite = operator := by
  cases operator <;> rfl

@[simp] theorem isOrder_opposite (operator : Operator) :
    operator.opposite.isOrder = operator.isOrder := by
  cases operator <;> rfl

/-- Being twins is mutual. -/
theorem twin?_symm
    {operator twin : Operator}
    (twins : operator.twin? = some twin) :
    twin.twin? = some operator := by
  cases operator <;> simp only [twin?, Option.some.injEq, reduceCtorEq] at twins <;>
    subst twins <;> rfl

/-- Twins take values of the same shape. -/
theorem takesList_twin
    {operator twin : Operator}
    (twins : operator.twin? = some twin) :
    twin.takesList = operator.takesList := by
  cases operator <;> simp only [twin?, Option.some.injEq, reduceCtorEq] at twins <;>
    subst twins <;> rfl

end Operator

namespace Connective

/-- The other connective. -/
def dual : Connective → Connective
  | and => or
  | or => and

@[simp] theorem dual_dual (connective : Connective) : connective.dual.dual = connective := by
  cases connective <;> rfl

/-- De Morgan's law for joined statements. -/
theorem meaning_dual (connective : Connective) (left right : Bool) :
    connective.dual.meaning (!left) (!right) = !connective.meaning left right := by
  cases connective <;> simp [dual, meaning]

end Connective

namespace Fragment

/-- The same query with the opposite meaning. -/
def opposite (fragment : Fragment) : Fragment :=
  ⟨fragment.query, !fragment.inverted⟩

@[simp] theorem opposite_opposite (fragment : Fragment) : fragment.opposite.opposite = fragment := by
  simp [opposite]

@[simp] theorem holds_opposite (truth : Leaf → Bool) (fragment : Fragment) :
    fragment.opposite.holds truth = !fragment.holds truth := by
  simp [opposite, holds]

/-- A comparison and its twin are the same query, taken once as it is and once negated. -/
theorem ofComparison_twin
    {operator twin : Operator}
    (twins : operator.twin? = some twin)
    (field : String) (value : Literal) :
    ofComparison field twin value = (ofComparison field operator value).opposite := by
  simp [ofComparison, opposite, Operator.form_twin twins, Operator.isNegated_twin twins]

end Fragment

namespace Field

/-- A comparison with null that is accepted is accepted, and means the opposite, for the twin. -/
theorem lookupNull_twin
    {field : Field} {operator twin : Operator} {fragment : Fragment}
    (twins : operator.twin? = some twin)
    (found : field.lookupNull operator = .ok fragment) :
    field.lookupNull twin = .ok fragment.opposite := by
  -- Only the two equalities are accepted, and each is the twin of the other.
  obtain ⟨nullable, ⟨rfl, rfl⟩ | ⟨rfl, rfl⟩⟩ := lookupNull_eq_ok_iff.mp found
  · obtain rfl := Option.some.inj twins
    exact lookupNull_eq_ok_iff.mpr ⟨nullable, .inr ⟨rfl, rfl⟩⟩
  · obtain rfl := Option.some.inj twins
    exact lookupNull_eq_ok_iff.mpr ⟨nullable, .inl ⟨rfl, rfl⟩⟩

/-- Whether a value fits does not depend on the sign of the comparison. -/
theorem lookupValue_twin
    {field : Field} {operator twin : Operator} {value : Literal} {fragment : Fragment}
    (twins : operator.twin? = some twin)
    (found : field.lookupValue operator value = .ok fragment) :
    field.lookupValue twin value = .ok fragment.opposite := by
  obtain ⟨shape, checked, converted, coerced, rfl⟩ := lookupValue_eq_ok_iff.mp found
  refine lookupValue_eq_ok_iff.mpr ⟨?_, checked, converted, coerced, ?_⟩
  · rw [Operator.takesList_twin twins, shape]
  · rw [Fragment.ofComparison_twin twins]

/-- A comparison that compiles has a twin that compiles to the opposite. -/
theorem lookup_twin_of_ok
    {field : Field} {operator twin : Operator} {value : Literal} {fragment : Fragment}
    (twins : operator.twin? = some twin)
    (found : field.lookup operator value = .ok fragment) :
    field.lookup twin value = .ok fragment.opposite := by
  obtain ⟨allowed, outcome⟩ := lookup_eq_ok_iff.mp found
  refine lookup_eq_ok_iff.mpr ⟨(FieldKind.mem_operators_twin twins field.kind).mpr allowed, ?_⟩
  exact outcome.imp (fun ⟨isNull, ofNull⟩ => ⟨isNull, lookupNull_twin twins ofNull⟩)
    fun ⟨notNull, ofValue⟩ => ⟨notNull, lookupValue_twin twins ofValue⟩

/-- Twins are accepted alike, with the same query and opposite inversion. -/
theorem lookup_eq_ok_iff_twin
    {field : Field} {operator twin : Operator} {value : Literal} {fragment : Fragment}
    (twins : operator.twin? = some twin) :
    field.lookup operator value = .ok fragment ↔
      field.lookup twin value = .ok fragment.opposite := by
  refine ⟨lookup_twin_of_ok twins, fun found => ?_⟩
  simpa using lookup_twin_of_ok (Operator.twin?_symm twins) found

end Field

namespace Expr

/-- The expression with the other connectives and the opposite comparisons. -/
def dual : Expr → Expr
  | logical connective left right => logical connective.dual left.dual right.dual
  | comparison name operator value => comparison name operator.opposite value

/-- Whether no comparison is by order. -/
def isOrderFree : Expr → Bool
  | logical _ left right => left.isOrderFree && right.isOrderFree
  | comparison _ operator _ => !operator.isOrder

/-- To negate twice gives the expression back, order comparisons included. -/
@[simp] theorem dual_dual (expr : Expr) : expr.dual.dual = expr := by
  induction expr with
  | logical connective left right leftHypothesis rightHypothesis =>
      simp [dual, leftHypothesis, rightHypothesis]
  | comparison name operator value => simp [dual]

/-- Twins of comparisons without order are without order. -/
@[simp] theorem isOrderFree_dual (expr : Expr) : expr.dual.isOrderFree = expr.isOrderFree := by
  induction expr with
  | logical connective left right leftHypothesis rightHypothesis =>
      simp [dual, isOrderFree, leftHypothesis, rightHypothesis]
  | comparison name operator value => simp [dual, isOrderFree]

/-- If an expression without order comparisons compiles, so does its dual, and the two queries are
opposite. -/
theorem compile_dual_of_ok
    {resolve : String → Except Error Field} {expr : Expr} {fragment : Fragment}
    (orderFree : expr.isOrderFree = true)
    (compiled : expr.compile resolve = .ok fragment) :
    ∃ other, expr.dual.compile resolve = .ok other ∧
      ∀ truth, other.query.holds truth = !fragment.query.holds truth := by
  induction expr generalizing fragment with
  | logical connective left right leftHypothesis rightHypothesis =>
      obtain ⟨leftFree, rightFree⟩ := Bool.and_eq_true_iff.mp orderFree
      obtain ⟨first, second, leftCompiled, rightCompiled, rfl⟩ :=
        compile_logical_eq_ok_iff.mp compiled
      obtain ⟨firstOther, firstDual, firstOpposite⟩ := leftHypothesis leftFree leftCompiled
      obtain ⟨secondOther, secondDual, secondOpposite⟩ := rightHypothesis rightFree rightCompiled
      refine ⟨_, compile_logical_eq_ok_iff.mpr ⟨_, _, firstDual, secondDual, rfl⟩, fun truth => ?_⟩
      simp only [holds_join, firstOpposite, secondOpposite, Connective.meaning_dual]
  | comparison name operator value =>
      obtain ⟨field, found, resolved, lookedUp, rfl⟩ := compile_comparison_eq_ok_iff.mp compiled
      have notOrder : operator.isOrder = false := by simpa [isOrderFree] using orderFree
      have lookedUpTwin :=
        Field.lookup_twin_of_ok (Operator.twin?_eq_some_opposite notOrder) lookedUp
      refine ⟨_, compile_comparison_eq_ok_iff.mpr ⟨field, _, resolved, lookedUpTwin, rfl⟩, ?_⟩
      intro truth
      simp only [holds_clause, Fragment.holds_opposite]

/-- The dual of an expression has a document exactly when the expression has one, and then exactly
one of the two documents matches. Twins are accepted alike for every field and every value, and
give the same query with opposite inversion. -/
theorem document_dual (resolve : String → Except Error Field) :
    (∀ expr : Expr, expr.isOrderFree = true →
      ((∃ document, expr.dual.document resolve = .ok document) ↔
        ∃ document, expr.document resolve = .ok document) ∧
      ∀ document dualDocument, expr.document resolve = .ok document →
        expr.dual.document resolve = .ok dualDocument → ∀ truth, ∃ value,
          BoolQuery.documentHolds? truth document = some value ∧
            BoolQuery.documentHolds? truth dualDocument = some (!value)) ∧
    ∀ (field : Field) (value : Literal) (operator twin : Operator), operator.twin? = some twin →
      ∀ query inverted, field.lookup operator value = .ok ⟨query, inverted⟩ ↔
        field.lookup twin value = .ok ⟨query, !inverted⟩ := by
  refine ⟨fun expr orderFree => ⟨⟨?_, ?_⟩, ?_⟩, ?_⟩
  · rintro ⟨document, built⟩
    obtain ⟨fragment, compiled, -⟩ := document_eq_ok_iff.mp built
    have dualFree : expr.dual.isOrderFree = true := by rw [isOrderFree_dual, orderFree]
    obtain ⟨other, compiledDual, -⟩ := compile_dual_of_ok dualFree compiled
    rw [dual_dual] at compiledDual
    exact ⟨_, document_eq_ok_iff.mpr ⟨other, compiledDual, rfl⟩⟩
  · rintro ⟨document, built⟩
    obtain ⟨fragment, compiled, -⟩ := document_eq_ok_iff.mp built
    obtain ⟨other, compiledDual, -⟩ := compile_dual_of_ok orderFree compiled
    exact ⟨_, document_eq_ok_iff.mpr ⟨other, compiledDual, rfl⟩⟩
  · intro document dualDocument built builtDual truth
    obtain ⟨fragment, compiled, rfl⟩ := document_eq_ok_iff.mp built
    obtain ⟨other, compiledDual, rfl⟩ := document_eq_ok_iff.mp builtDual
    obtain ⟨found, compiledAgain, opposite⟩ := compile_dual_of_ok orderFree compiled
    obtain rfl : other = found := Except.ok.inj (compiledDual.symm.trans compiledAgain)
    refine ⟨fragment.query.holds truth, BoolQuery.documentHolds?_document truth _, ?_⟩
    rw [BoolQuery.documentHolds?_document, opposite]
  · intro field value operator twin twins query inverted
    exact Field.lookup_eq_ok_iff_twin twins

theorem document_dual_sample :
    Sample.expr.isOrderFree = true ∧
    (∃ document dualDocument, Sample.expr.document Sample.catalog.resolve = .ok document ∧
      Sample.expr.dual.document Sample.catalog.resolve = .ok dualDocument ∧
      ∃ value,
        BoolQuery.documentHolds? (fun condition => condition.field == "tag") document =
            some value ∧
          BoolQuery.documentHolds? (fun condition => condition.field == "tag") dualDocument =
            some (!value)) ∧
    Operator.equal.twin? = some .notEqual ∧
    (Field.lookup ⟨"tag", .keyword, "keyword", none, true⟩ .equal .null =
        .ok ⟨.leaf (.hasValue "tag"), true⟩ ↔
      Field.lookup ⟨"tag", .keyword, "keyword", none, true⟩ .notEqual .null =
        .ok ⟨.leaf (.hasValue "tag"), false⟩) := by
  obtain ⟨trees, comparisons⟩ := document_dual Sample.catalog.resolve
  refine ⟨rfl, ⟨_, _, rfl, rfl, ?_⟩, rfl, ?_⟩
  · exact (trees Sample.expr rfl).2 _ _ rfl rfl _
  · exact comparisons _ .null .equal .notEqual rfl _ true

end Expr
end FilterQuery
