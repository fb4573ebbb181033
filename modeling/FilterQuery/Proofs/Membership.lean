import FilterQuery.Proofs.Refusals

/-!
# Membership in a list

A comparison with a list of values stands for the comparisons with each of the
values. Main statement: membership compiles exactly when every equality with a
listed value does, and it means what these equalities mean when they are joined
by `or`; its negation means what the inequalities mean when joined by `and`.
-/

namespace FilterQuery

namespace Operator

/-- `Unfolds membership single connective` says that a comparison with a list by `membership`
stands for the comparisons with its values by `single`, joined by `connective`. -/
inductive Unfolds : Operator → Operator → Connective → Prop where
  | isIn : Unfolds .isIn .equal .or
  | notIn : Unfolds .notIn .notEqual .and

end Operator

namespace Connective

/-- Whether statements that are all joined by one connective are true. -/
def combine : Connective → List Bool → Bool
  | and, values => values.all id
  | or, values => values.any id

@[simp] theorem combine_singleton (connective : Connective) (value : Bool) :
    connective.combine [value] = value := by
  cases connective <;> simp [combine]

@[simp] theorem combine_append (connective : Connective) (first second : List Bool) :
    connective.combine (first ++ second) =
      connective.meaning (connective.combine first) (connective.combine second) := by
  cases connective <;> simp [combine, meaning]

end Connective

namespace Expr

/-! ## Chains of expressions -/

/-- A chain joins expressions by one connective, in their order and in any grouping. -/
inductive Chain (connective : Connective) : List Expr → Expr → Prop where
  | single (expr : Expr) : Chain connective [expr] expr
  | join {first second : List Expr} {left right : Expr} :
      Chain connective first left → Chain connective second right →
        Chain connective (first ++ second) (.logical connective left right)

theorem exists_chain (connective : Connective) {exprs : List Expr} (isGiven : exprs ≠ []) :
    ∃ chain, Chain connective exprs chain := by
  induction exprs with
  | nil => contradiction
  | cons expr rest inductionHypothesis =>
      cases rest with
      | nil => exact ⟨expr, .single expr⟩
      | cons next others =>
          obtain ⟨chain, isChain⟩ := inductionHypothesis (List.cons_ne_nil next others)
          exact ⟨_, .join (.single expr) isChain⟩

theorem exists_document_logical_iff
    {resolve : String → Except Error Field} {connective : Connective} {left right : Expr} :
    (∃ document, (logical connective left right).document resolve = .ok document) ↔
      (∃ document, left.document resolve = .ok document) ∧
        ∃ document, right.document resolve = .ok document := by
  simp only [document_eq_ok_iff, compile_logical_eq_ok_iff]
  grind

/-- A chain compiles when each of its expressions does. -/
theorem Chain.exists_document_iff
    {connective : Connective} {exprs : List Expr} {chain : Expr}
    (isChain : Chain connective exprs chain)
    (resolve : String → Except Error Field) :
    (∃ document, chain.document resolve = .ok document) ↔
      ∀ expr ∈ exprs, ∃ document, expr.document resolve = .ok document := by
  induction isChain with
  | single expr => simp
  | join _ _ leftHypothesis rightHypothesis =>
      rw [exists_document_logical_iff, leftHypothesis, rightHypothesis, List.forall_mem_append]

/-- A chain means what its expressions mean, joined. -/
theorem Chain.meaning?_eq
    {connective : Connective} {exprs : List Expr} {chain : Expr}
    (isChain : Chain connective exprs chain)
    (truth : Leaf → Bool) (resolve : String → Except Error Field) :
    chain.meaning? truth resolve =
      (exprs.mapM (meaning? truth resolve)).map connective.combine := by
  induction isChain with
  | single expr => cases isMeant : expr.meaning? truth resolve <;> simp [isMeant]
  | @join first second left right _ _ leftHypothesis rightHypothesis =>
      rw [meaning?, leftHypothesis, rightHypothesis, List.mapM_append]
      cases first.mapM (meaning? truth resolve) with
      | none => rfl
      | some values =>
          cases second.mapM (meaning? truth resolve) with
          | none => rfl
          | some others => simp

/-! ## Comparisons with a list and with its values -/

/-- Where the name of a comparison is resolved, the field decides whether it compiles. -/
theorem exists_document_comparison_iff
    {resolve : String → Except Error Field} {name : Name} {field : Field}
    (resolved : resolve name.dotted = .ok field)
    (operator : Operator) (value : Literal) :
    (∃ document, (comparison name operator value).document resolve = .ok document) ↔
      field.Accepts operator value := by
  rw [← Field.exists_lookup_iff]
  simp only [document_eq_ok_iff, compile_comparison_eq_ok_iff, resolved, Except.ok.injEq]
  grind

/-- The document of an expression means what the expression means. -/
theorem documentHolds?_of_document
    {resolve : String → Except Error Field} {expr : Expr} {document : Json}
    (compiled : expr.document resolve = .ok document)
    (truth : Leaf → Bool) :
    BoolQuery.documentHolds? truth document = expr.meaning? truth resolve := by
  obtain ⟨fragment, built, rfl⟩ := document_eq_ok_iff.mp compiled
  rw [meaning?_of_compile built, BoolQuery.documentHolds?_document]

end Expr

namespace Operator.Unfolds

variable {membership single : Operator} {connective : Connective}

theorem accepts_list_iff
    (unfolds : Unfolds membership single connective)
    (field : Field) (values : List Literal) :
    field.Accepts membership (.list values) ↔ ∀ value ∈ values, field.Suits value := by
  have allowed : membership ∈ field.kind.operators := by
    cases unfolds <;> cases field.kind <;> decide
  have takesList : membership.takesList = true := by
    cases unfolds <;> rfl
  constructor
  · intro accepts
    cases accepts with
    | null _ isNull => contradiction
    | value _ _ _ suit => exact suit
  · intro suit
    exact .value allowed rfl takesList suit

/-- Equality is decided by the value alone; no value that suits a field is a list. -/
theorem accepts_single_iff
    (unfolds : Unfolds membership single connective)
    (field : Field) (value : Literal) :
    field.Accepts single value ↔ field.Suits value := by
  have allowed : single ∈ field.kind.operators := by
    cases unfolds <;> cases field.kind <;> decide
  have takesNone : single.takesList = false := by
    cases unfolds <;> rfl
  have isEquality : single = .equal ∨ single = .notEqual := by
    cases unfolds <;> simp
  constructor
  · intro accepts
    cases accepts with
    | null _ isNull nullable =>
        rw [Literal.eq_null_of_isNull isNull]
        exact .null nullable
    | value _ _ shape suit =>
        rw [takesNone] at shape
        exact suit value (by rw [Literal.elements_of_isList_eq_false shape.symm]; simp)
  · intro suits
    cases suits with
    | null nullable => exact .null allowed rfl nullable isEquality
    | scalar present accepted isDate isLong =>
        have isSingle := FieldKind.isList_eq_false_of_accepts accepted
        refine .value allowed present (by rw [takesNone, isSingle]) ?_
        rw [Literal.elements_of_isList_eq_false isSingle]
        intro item isItem
        rw [List.mem_singleton.mp isItem]
        exact .scalar present accepted isDate isLong

theorem meaning_single
    (unfolds : Unfolds membership single connective)
    (truth : Leaf → Bool) (field : String) {value : Literal}
    (present : value.isNull = false) :
    single.meaning truth field value = (truth (.equals field value.toJson) ^^ single.isNegated) := by
  cases unfolds <;> cases value with
  | null => contradiction
  | _ => simp [Operator.meaning, Operator.isNegated]

/-- With converted values other than null, membership means what the single comparisons mean when
they are joined. -/
theorem meaning_list
    (unfolds : Unfolds membership single connective)
    (truth : Leaf → Bool) (field : String) {values : List Literal}
    (present : ∀ value ∈ values, value.isNull = false) :
    membership.meaning truth field (.list values) =
      connective.combine (values.map (single.meaning truth field)) := by
  have singles : values.map (single.meaning truth field) =
      values.map fun value => truth (.equals field value.toJson) ^^ single.isNegated := by
    apply List.map_congr_left
    intro value isValue
    exact unfolds.meaning_single truth field (present value isValue)
  rw [singles]
  cases unfolds with
  | isIn =>
      simp [Operator.meaning, Operator.isNegated, Connective.combine, Literal.elements]
  | notIn =>
      simp [Operator.meaning, Operator.isNegated, Connective.combine, Literal.elements,
        List.not_any_eq_all_not]

end Operator.Unfolds

/-- No value other than null is converted to null. -/
theorem Field.present_of_coerced
    {field : Field} {values converted : List Literal}
    (coerced : List.Forall₂ (fun value other => field.coerce value = .ok other) values converted)
    (present : ∀ value ∈ values, value.isNull = false) :
    ∀ other ∈ converted, other.isNull = false := by
  induction coerced with
  | nil => simp
  | cons isFirst _ inductionHypothesis =>
      rw [List.forall_mem_cons] at present ⊢
      exact ⟨(shape_of_coerce isFirst).1.trans present.1, inductionHypothesis present.2⟩

namespace Expr

theorem mapM_meaning?
    {resolve : String → Except Error Field} {name : Name} {field : Field}
    (resolved : resolve name.dotted = .ok field)
    (truth : Leaf → Bool) (operator : Operator) {values converted : List Literal}
    (coerced : List.Forall₂ (fun value other => field.coerce value = .ok other) values converted) :
    (values.map (comparison name operator)).mapM (meaning? truth resolve) =
      some (converted.map (operator.meaning truth field.name)) := by
  induction coerced with
  | nil => rfl
  | cons isFirst _ inductionHypothesis =>
      rw [List.map_cons, List.mapM_cons, inductionHypothesis]
      simp [meaning?, resolved, isFirst]

/-- Membership means what the comparisons with the values mean when they are joined. -/
theorem meaning?_membership
    {membership single : Operator} {connective : Connective}
    (unfolds : Operator.Unfolds membership single connective)
    {resolve : String → Except Error Field} {name : Name} {field : Field}
    (resolved : resolve name.dotted = .ok field)
    {values : List Literal}
    (suit : ∀ value ∈ values, field.Suits value)
    (present : ∀ value ∈ values, value.isNull = false)
    (truth : Leaf → Bool) :
    ∃ value, (comparison name membership (.list values)).meaning? truth resolve = some value ∧
      ((values.map (comparison name single)).mapM (meaning? truth resolve)).map
        connective.combine = some value := by
  obtain ⟨_, _, coerced⟩ := (@Field.check_and_coerce_iff field (.list values)).mpr suit
  obtain ⟨others, areCoerced, rfl⟩ := Field.coerce_list_eq_ok_iff.mp coerced
  refine ⟨membership.meaning truth field.name (.list others), ?_, ?_⟩
  · simp only [meaning?, resolved, coerced]
  · rw [mapM_meaning? resolved truth single areCoerced, Option.map_some,
      unfolds.meaning_list truth field.name (Field.present_of_coerced areCoerced present)]

/-- Membership in a list of values is a chain of comparisons with the values. It compiles exactly
when each of them does, and its document then matches exactly when that of a chain does, however
the chain is grouped. A field that can be null must not be compared with null in the list, where
null would be a value like any other. -/
theorem membership_means_chain
    {membership single : Operator} {connective : Connective}
    (unfolds : Operator.Unfolds membership single connective)
    {resolve : String → Except Error Field} {name : Name} {field : Field}
    (resolved : resolve name.dotted = .ok field)
    {values : List Literal}
    (listed : values ≠ [])
    (present : field.nullable = false ∨ ∀ value ∈ values, value ≠ .null) :
    ((∃ document, (comparison name membership (.list values)).document resolve = .ok document) ↔
      ∀ value ∈ values, ∃ document,
        (comparison name single value).document resolve = .ok document) ∧
    (∃ chain, Chain connective (values.map (comparison name single)) chain) ∧
    ∀ document, (comparison name membership (.list values)).document resolve = .ok document →
      ∀ chain, Chain connective (values.map (comparison name single)) chain →
        ∃ other, chain.document resolve = .ok other ∧ ∀ truth, ∃ value,
          BoolQuery.documentHolds? truth document = some value ∧
            BoolQuery.documentHolds? truth other = some value := by
  have compiles : (∃ document,
      (comparison name membership (.list values)).document resolve = .ok document) ↔
      ∀ value ∈ values, ∃ document,
        (comparison name single value).document resolve = .ok document := by
    simp only [exists_document_comparison_iff resolved, unfolds.accepts_list_iff,
      unfolds.accepts_single_iff]
  refine ⟨compiles, exists_chain connective (by simpa using listed), ?_⟩
  intro document built chain isChain
  obtain ⟨other, otherBuilt⟩ := (isChain.exists_document_iff resolve).mpr
    (by simpa using compiles.mp ⟨document, built⟩)
  refine ⟨other, otherBuilt, fun truth => ?_⟩
  have suit : ∀ value ∈ values, field.Suits value := by
    rw [← unfolds.accepts_list_iff, ← exists_document_comparison_iff resolved]
    exact ⟨document, built⟩
  have notNull : ∀ value ∈ values, value.isNull = false := by
    intro value isValue
    obtain notNullable | noneNull := present
    · cases suit value isValue with
      | null nullable => simp [nullable] at notNullable
      | scalar isPresent => exact isPresent
    · cases value with
      | null => exact (noneNull _ isValue rfl).elim
      | _ => rfl
  rw [documentHolds?_of_document built, documentHolds?_of_document otherBuilt, isChain.meaning?_eq]
  exact meaning?_membership unfolds resolved suit notNull truth

/-- Two tags that a field which can be null must not have, and a list of prices with a string. -/
theorem membership_means_chain_sample :
    (∃ document other,
      (comparison ⟨["tag"]⟩ .notIn (.list [.string "x", .string "y"])).document
          Sample.catalog.resolve = .ok document ∧
        (logical .and (comparison ⟨["tag"]⟩ .notEqual (.string "x"))
          (comparison ⟨["tag"]⟩ .notEqual (.string "y"))).document
            Sample.catalog.resolve = .ok other ∧
        ∀ truth, ∃ value, BoolQuery.documentHolds? truth document = some value ∧
          BoolQuery.documentHolds? truth other = some value) ∧
    ¬∃ document, (comparison ⟨["price"]⟩ .isIn (.list [.int 1, .string "x"])).document
      Sample.catalog.resolve = .ok document := by
  have tags : ∀ value ∈ [Literal.string "x", .string "y"], value ≠ .null := by simp
  obtain ⟨_, _, alike⟩ := @membership_means_chain _ _ _ .notIn Sample.catalog.resolve ⟨["tag"]⟩ _
    rfl _ (List.cons_ne_nil _ _) (.inr tags)
  obtain ⟨compiles, _, _⟩ := @membership_means_chain _ _ _ .isIn Sample.catalog.resolve
    ⟨["price"]⟩ _ rfl [.int 1, .string "x"] (List.cons_ne_nil _ _) (.inl rfl)
  constructor
  · obtain ⟨other, built, sameTruth⟩ := alike _ rfl _ (.join (.single _) (.single _))
    exact ⟨_, other, rfl, built, sameTruth⟩
  · rw [compiles]
    intro eachCompiles
    obtain ⟨_, built⟩ := eachCompiles (.string "x") (by simp)
    cases built

end Expr
end FilterQuery
