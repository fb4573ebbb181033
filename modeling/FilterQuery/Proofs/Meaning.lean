import FilterQuery.Compile
import FilterQuery.Proofs.Lookup
import FilterQuery.Proofs.Reading

/-!
# The meaning of expressions

An expression is true or false once it is known which conditions hold: a
comparison says something about the conditions on its field, and the connectives
are those of logic. Main statement: the document of an expression can be read,
and it matches exactly when the expression is true.
-/

namespace FilterQuery

namespace Literal

/-- The values that a literal lists; a single value lists itself. -/
def elements : Literal → List Literal
  | list items => items
  | single => [single]

end Literal

namespace Operator

/-- Whether a comparison with a value of the field's own type is true. -/
def meaning (truth : Leaf → Bool) (field : String) : Operator → Literal → Bool
  | equal, .null => !truth (.hasValue field)
  | notEqual, .null => truth (.hasValue field)
  | equal, value => truth (.equals field value.toJson)
  | notEqual, value => !truth (.equals field value.toJson)
  | greater, value => truth (.range field .greater value.toJson)
  | greaterOrEqual, value => truth (.range field .greaterOrEqual value.toJson)
  | less, value => truth (.range field .less value.toJson)
  | lessOrEqual, value => truth (.range field .lessOrEqual value.toJson)
  | contains, value => truth (.wildcard field (Pattern.containing value.text))
  | notContains, value => !truth (.wildcard field (Pattern.containing value.text))
  | isIn, value => value.elements.any fun element => truth (.equals field element.toJson)
  | notIn, value => !value.elements.any fun element => truth (.equals field element.toJson)
  | startsWith, value => truth (.startsWith field value.toJson)
  | notStartsWith, value => !truth (.startsWith field value.toJson)
  | endsWith, value => truth (.wildcard field (Pattern.endingIn value.text))
  | notEndsWith, value => !truth (.wildcard field (Pattern.endingIn value.text))

end Operator

namespace Connective

/-- Whether two joined statements are true. -/
def meaning : Connective → Bool → Bool → Bool
  | and, left, right => left && right
  | or, left, right => left || right

end Connective

namespace Fragment

/-- Whether what a fragment means is the case. -/
def holds (truth : Leaf → Bool) (fragment : Fragment) : Bool :=
  fragment.query.holds truth ^^ fragment.inverted

/-- A fragment for a value other than null means what its comparison means. -/
theorem holds_ofComparison
    (truth : Leaf → Bool) (field : String) (operator : Operator) {value : Literal}
    (present : value.isNull = false) :
    (ofComparison field operator value).holds truth = operator.meaning truth field value := by
  cases operator with
  | isIn | notIn =>
      cases value <;>
        simp [holds, ofComparison, Operator.form, Operator.isNegated, Form.query,
          Operator.meaning, Literal.elements, List.any_map, Function.comp_def]
  | equal | notEqual =>
      cases value with
      | null => simp [Literal.isNull] at present
      | bool _ | int _ | float _ | string _ | list _ =>
          simp [holds, ofComparison, Operator.form, Operator.isNegated, Form.query,
            Operator.meaning]
  | greater | greaterOrEqual | less | lessOrEqual | contains | notContains | startsWith
  | notStartsWith | endsWith | notEndsWith =>
      simp [holds, ofComparison, Operator.form, Operator.isNegated, Form.query, Operator.meaning]

end Fragment

namespace Field

/-- The fragment of a comparison means what the comparison with the converted value means. -/
theorem meaning_of_lookup
    {field : Field} {operator : Operator} {value : Literal} {fragment : Fragment}
    (found : field.lookup operator value = .ok fragment) :
    ∃ converted, field.coerce value = .ok converted ∧
      ∀ truth, fragment.holds truth = operator.meaning truth field.name converted := by
  obtain ⟨_, ⟨isNull, ofNull⟩ | ⟨notNull, ofValue⟩⟩ := lookup_eq_ok_iff.mp found
  · obtain rfl := Literal.eq_null_of_isNull isNull
    refine ⟨.null, rfl, fun truth => ?_⟩
    obtain ⟨_, ⟨rfl, rfl⟩ | ⟨rfl, rfl⟩⟩ := lookupNull_eq_ok_iff.mp ofNull
    · simp [Fragment.holds, Fragment.ofAbsence, Operator.meaning]
    · simp [Fragment.holds, Fragment.ofAbsence, Operator.meaning]
  · obtain ⟨_, _, converted, coerced, rfl⟩ := lookupValue_eq_ok_iff.mp ofValue
    refine ⟨converted, coerced, fun truth => ?_⟩
    apply Fragment.holds_ofComparison
    rw [(shape_of_coerce coerced).1, notNull]

end Field

namespace Expr

/-- Whether an expression is true, given which conditions hold. There is no answer where a name
cannot be resolved or a value cannot be converted. -/
def meaning? (truth : Leaf → Bool) (resolve : String → Except Error Field) : Expr → Option Bool
  | logical connective left right =>
      match left.meaning? truth resolve, right.meaning? truth resolve with
      | some first, some second => some (connective.meaning first second)
      | _, _ => none
  | comparison name operator value =>
      match resolve name.dotted with
      | .error _ => none
      | .ok field =>
          match field.coerce value with
          | .error _ => none
          | .ok converted => some (operator.meaning truth field.name converted)

/-! ## What compiles -/

/-- Both sides of a connective have to compile. -/
theorem compile_logical_eq_ok_iff
    {resolve : String → Except Error Field} {connective : Connective} {left right : Expr}
    {fragment : Fragment} :
    (logical connective left right).compile resolve = .ok fragment ↔
      ∃ first second, left.compile resolve = .ok first ∧ right.compile resolve = .ok second ∧
        fragment = ⟨join connective first.query second.query, false⟩ := by
  simp only [compile]
  cases left.compile resolve with
  | error cause => simp
  | ok first => cases right.compile resolve <;> simp [eq_comm]

/-- The name of a comparison has to be resolved and the comparison with its field accepted. -/
theorem compile_comparison_eq_ok_iff
    {resolve : String → Except Error Field} {name : Name} {operator : Operator} {value : Literal}
    {fragment : Fragment} :
    (comparison name operator value).compile resolve = .ok fragment ↔
      ∃ field found, resolve name.dotted = .ok field ∧ field.lookup operator value = .ok found ∧
        fragment = ⟨clause found, found.inverted⟩ := by
  simp only [compile, lookup]
  cases resolve name.dotted with
  | error cause => simp
  | ok field => cases found : field.lookup operator value <;> simp [found, eq_comm]

/-- The document of an expression is that of its query. -/
theorem document_eq_ok_iff
    {resolve : String → Except Error Field} {expr : Expr} {document : Json} :
    expr.document resolve = .ok document ↔
      ∃ fragment, expr.compile resolve = .ok fragment ∧ document = fragment.query.document := by
  simp only [Expr.document]
  cases expr.compile resolve <;> simp [Except.map, eq_comm]

/-! ## What compiled queries mean -/

/-- The clause of a comparison takes the inversion of its fragment in. -/
@[simp] theorem holds_clause (truth : Leaf → Bool) (fragment : Fragment) :
    (clause fragment).holds truth = fragment.holds truth := by
  cases inverted : fragment.inverted <;> simp [clause, Fragment.holds, inverted]

@[simp] theorem holds_join (truth : Leaf → Bool) (connective : Connective) (left right : BoolQuery) :
    (join connective left right).holds truth =
      connective.meaning (left.holds truth) (right.holds truth) := by
  cases connective <;> simp [join, Connective.meaning]

/-- A compiled query matches exactly when its expression is true. -/
theorem meaning?_of_compile
    {resolve : String → Except Error Field} {expr : Expr} {fragment : Fragment}
    (compiled : expr.compile resolve = .ok fragment)
    (truth : Leaf → Bool) :
    expr.meaning? truth resolve = some (fragment.query.holds truth) := by
  induction expr generalizing fragment with
  | logical connective left right leftHypothesis rightHypothesis =>
      obtain ⟨first, second, leftCompiled, rightCompiled, rfl⟩ :=
        compile_logical_eq_ok_iff.mp compiled
      simp only [meaning?, leftHypothesis leftCompiled, rightHypothesis rightCompiled, holds_join]
  | comparison name operator value =>
      obtain ⟨field, found, resolved, lookedUp, rfl⟩ := compile_comparison_eq_ok_iff.mp compiled
      obtain ⟨converted, coerced, means⟩ := Field.meaning_of_lookup lookedUp
      simp only [meaning?, resolved, coerced, holds_clause, means]

/-- The document of an expression is a query, and it matches exactly when the expression is true. -/
theorem documentHolds?_eq_meaning?
    (resolve : String → Except Error Field) (expr : Expr) (truth : Leaf → Bool) {document : Json}
    (compiled : expr.document resolve = .ok document) :
    ∃ value, BoolQuery.documentHolds? truth document = some value ∧
      expr.meaning? truth resolve = some value := by
  obtain ⟨fragment, built, rfl⟩ := document_eq_ok_iff.mp compiled
  refine ⟨fragment.query.holds truth, ?_, meaning?_of_compile built truth⟩
  exact BoolQuery.documentHolds?_document truth fragment.query

end Expr

namespace Sample

/-- A number and a string that may be absent. -/
def catalog : Catalog :=
  ⟨[⟨"price", .long, "integer", none, false⟩, ⟨"tag", .keyword, "keyword", none, true⟩]⟩

/-- An expression with negations on both sides of an `or`, below an `and`, and about null. -/
def expr : Expr :=
  .logical .or (.comparison ⟨["price"]⟩ .notEqual (.int 1))
    (.logical .and (.comparison ⟨["tag"]⟩ .notIn (.list [.string "x", .string "y"]))
      (.comparison ⟨["tag"]⟩ .equal .null))

end Sample

namespace Expr

theorem documentHolds?_eq_meaning?_sample :
    ∃ document, Sample.expr.document Sample.catalog.resolve = .ok document ∧
      ∃ value,
        BoolQuery.documentHolds? (fun condition => condition.field == "price") document =
            some value ∧
          Sample.expr.meaning? (fun condition => condition.field == "price")
            Sample.catalog.resolve = some value :=
  ⟨_, rfl, documentHolds?_eq_meaning? Sample.catalog.resolve Sample.expr _ rfl⟩

end Expr
end FilterQuery
