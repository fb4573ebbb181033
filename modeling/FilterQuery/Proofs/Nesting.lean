import FilterQuery.Proofs.Clauses
import FilterQuery.Proofs.RoundTrip

/-!
# How deep expressions and documents are

The depth of an expression is the length of its longest branch, from the root to
a comparison. Main statement: an expression is no deeper than the JSON value that
it is read from, a depth limit lets through the expressions without longer
branches, and a document is three levels deep for each level of its expression,
and six to nine more.
-/

namespace FilterQuery

/-! ## Reading -/

namespace Json

/-- A list is as nested as its most nested item. -/
theorem itemsNesting_le_iff {items : List Json} {limit : Nat} :
    itemsNesting items ≤ limit ↔ ∀ item ∈ items, item.nesting ≤ limit := by
  induction items with
  | nil => simp [itemsNesting]
  | cons item rest inductionHypothesis =>
      rw [itemsNesting, max_le_iff, inductionHypothesis, List.forall_mem_cons]

theorem membersNesting_eq (members : List (String × Json)) :
    membersNesting members = itemsNesting (members.map Prod.snd) := by
  induction members with
  | nil => rfl
  | cons member rest inductionHypothesis =>
      rw [membersNesting, inductionHypothesis, List.map_cons, itemsNesting]

/-- A container is deeper than each of its parts. -/
theorem nesting_lt_of_mem_parts {json part : Json} (isPart : part ∈ json.parts) :
    part.nesting < json.nesting := by
  have isBelow : part.nesting ≤ itemsNesting json.parts :=
    itemsNesting_le_iff.mp (Nat.le_refl _) part isPart
  cases json with
  | array items =>
      rw [nesting, Nat.add_comm]
      exact Nat.lt_succ_of_le isBelow
  | object members =>
      rw [nesting, membersNesting_eq, Nat.add_comm]
      exact Nat.lt_succ_of_le isBelow
  | _ => contradiction

end Json

namespace Expr

/-- The induction is on the expression: each of its nodes is read from a container. -/
theorem depth_le_of_decode?
    {belowRoot : Bool} {json : Json} {expr : Expr}
    (isRead : decode? belowRoot json = some expr) :
    expr.depth ≤ json.nesting := by
  induction expr generalizing belowRoot json with
  | logical connective left right leftHypothesis rightHypothesis =>
      obtain ⟨_, _, _, _, _, _, isComparison⟩ | ⟨_, _, _, first, firstPart, second, secondPart,
        readFirst, readSecond, isLogical⟩ := decode?_eq_some isRead
      · contradiction
      · obtain ⟨rfl, rfl, rfl⟩ := Expr.logical.inj isLogical
        have firstBelow := Json.nesting_lt_of_mem_parts firstPart
        have secondBelow := Json.nesting_lt_of_mem_parts secondPart
        have leftBelow := leftHypothesis readFirst
        have rightBelow := rightHypothesis readSecond
        rw [depth_logical]
        omega
  | comparison name operator value =>
      obtain ⟨_, _, _, part, isPart, _, _⟩ | ⟨_, _, _, _, _, _, _, _, _, isLogical⟩ :=
        decode?_eq_some isRead
      · exact Nat.succ_le_of_lt (Nat.zero_lt_of_lt (Json.nesting_lt_of_mem_parts isPart))
      · contradiction

/-! ## Branches -/

/-- `expr.Branch nodes` says that the nodes lead from the root of an expression to one of its
comparisons. -/
inductive Branch : Expr → List Expr → Prop where
  | comparison (name : Name) (operator : Operator) (value : Literal) :
      Branch (.comparison name operator value) [.comparison name operator value]
  | left {connective : Connective} {left right : Expr} {nodes : List Expr} :
      Branch left nodes → Branch (.logical connective left right)
        (.logical connective left right :: nodes)
  | right {connective : Connective} {left right : Expr} {nodes : List Expr} :
      Branch right nodes → Branch (.logical connective left right)
        (.logical connective left right :: nodes)

/-- No branch is longer than the expression is deep. -/
theorem Branch.length_le {expr : Expr} {nodes : List Expr} (branch : Branch expr nodes) :
    nodes.length ≤ expr.depth := by
  induction branch with
  | comparison name operator value => exact Nat.le_refl 1
  | left _ inductionHypothesis | right _ inductionHypothesis =>
      rw [List.length_cons, depth_logical]
      omega

/-- Some branch is as long as an expression is deep. -/
theorem exists_branch (expr : Expr) : ∃ nodes, expr.Branch nodes ∧ nodes.length = expr.depth := by
  induction expr with
  | logical connective left right leftHypothesis rightHypothesis =>
      obtain ⟨leftNodes, leftBranch, leftLength⟩ := leftHypothesis
      obtain ⟨rightNodes, rightBranch, rightLength⟩ := rightHypothesis
      rcases Nat.le_total left.depth right.depth with isBelow | isBelow
      · refine ⟨_, .right rightBranch, ?_⟩
        rw [List.length_cons, depth_logical, Nat.max_eq_right isBelow, rightLength, Nat.add_comm]
      · refine ⟨_, .left leftBranch, ?_⟩
        rw [List.length_cons, depth_logical, Nat.max_eq_left isBelow, leftLength, Nat.add_comm]
  | comparison name operator value => exact ⟨_, .comparison name operator value, rfl⟩

theorem depth_le_iff_forall_branch {expr : Expr} {limit : Nat} :
    expr.depth ≤ limit ↔ ∀ nodes, expr.Branch nodes → nodes.length ≤ limit := by
  constructor
  · exact fun shallow nodes branch => branch.length_le.trans shallow
  · intro short
    obtain ⟨nodes, branch, isLength⟩ := expr.exists_branch
    rw [← isLength]
    exact short nodes branch

end Expr

/-! ## Queries -/

theorem Literal.nesting_toJson
    {value : Literal}
    (single : value.isList = false) :
    value.toJson.nesting = 0 := by
  cases value with
  | list items => contradiction
  | float x =>
      rw [toJson_float, floatJson]
      split <;> rfl
  | _ => rfl

namespace BoolQuery

/-- A choice among scalars has five levels, or three if there are none. -/
theorem nesting_oneOf
    (field : String) {values : List Json}
    (flat : ∀ value ∈ values, value.nesting = 0) :
    3 ≤ (oneOf field values).toJson.nesting ∧ (oneOf field values).toJson.nesting ≤ 5 := by
  have shallow :
      Json.itemsNesting (values.map fun value => (Leaf.equals field value).toJson) ≤ 2 := by
    rw [Json.itemsNesting_le_iff, List.forall_mem_map]
    intro value isValue
    simp [Leaf.toJson, Json.nesting, Json.membersNesting, flat value isValue]
  simp only [toJson, Json.nesting, Json.membersNesting]
  omega

/-- The document has four levels around the query. -/
theorem nesting_document (query : BoolQuery) :
    query.document.nesting = 4 + query.toJson.nesting := by
  simp only [document, toJson, clausesToJson, Json.nesting, Json.membersNesting, Json.itemsNesting]
  omega

end BoolQuery

/-- The query of a comparison with a single value has two or three levels. -/
theorem Fragment.nesting_ofComparison_single
    {operator : Operator} {value : Literal}
    (takesNone : operator.takesList = false)
    (single : value.isList = false)
    (name : String) :
    2 ≤ (ofComparison name operator value).query.toJson.nesting ∧
      (ofComparison name operator value).query.toJson.nesting ≤ 3 := by
  have flat := Literal.nesting_toJson single
  cases operator with
  | isIn | notIn => contradiction
  | _ =>
      simp [ofComparison, Operator.form, Form.query, BoolQuery.toJson, Leaf.toJson, Json.nesting,
        Json.membersNesting, flat]

namespace Field

variable {field : Field} {operator : Operator} {value : Literal} {fragment : Fragment}

theorem isList_of_suits {item : Literal} (suits : field.Suits item) : item.isList = false := by
  cases suits with
  | null => rfl
  | scalar _ accepted => exact FieldKind.isList_eq_false_of_accepts accepted

/-- The values of a comparison bring no levels of their own into its query. -/
theorem nesting_of_lookup (found : field.lookup operator value = .ok fragment) :
    2 ≤ fragment.query.toJson.nesting ∧ fragment.query.toJson.nesting ≤ 5 := by
  obtain ⟨_, ⟨_, ofNull⟩ | ⟨_, ofValue⟩⟩ := lookup_eq_ok_iff.mp found
  · obtain ⟨_, ⟨_, rfl⟩ | ⟨_, rfl⟩⟩ := lookupNull_eq_ok_iff.mp ofNull <;>
      simp [Fragment.ofAbsence, BoolQuery.toJson, Leaf.toJson, Json.nesting, Json.membersNesting]
  obtain ⟨shape, checked, converted, coerced, rfl⟩ := lookupValue_eq_ok_iff.mp ofValue
  cases isList : value.isList with
  | false =>
      have single := (shape_of_coerce coerced).2.trans isList
      have bounds := Fragment.nesting_ofComparison_single (shape.trans isList) single field.name
      exact ⟨bounds.1, bounds.2.trans (by decide)⟩
  | true =>
      have suit := check_and_coerce_iff.mp ⟨checked, converted, coerced⟩
      obtain ⟨items, rfl⟩ := Literal.eq_list_of_isList isList
      obtain ⟨others, areCoerced, rfl⟩ := coerce_list_eq_ok_iff.mp coerced
      have flat : ∀ other ∈ others.map Literal.toJson, other.nesting = 0 := by
        rw [List.forall_mem_map]
        intro other isOther
        obtain ⟨item, isItem, isCoerced⟩ :=
          exists_mem_of_mapM_eq_ok (mapM_eq_ok_iff_forall₂.mpr areCoerced) isOther
        have single := isList_of_suits (suit item isItem)
        exact Literal.nesting_toJson ((shape_of_coerce isCoerced).2.trans single)
      have bounds := BoolQuery.nesting_oneOf field.name flat
      rw [Fragment.query_ofComparison_list (shape.trans isList)]
      exact ⟨le_trans (by decide) bounds.1, bounds.2⟩

end Field

namespace Expr

/-- A clause has three levels around what it negates or asserts. -/
theorem nesting_clause (fragment : Fragment) :
    (clause fragment).toJson.nesting = 3 + fragment.query.toJson.nesting := by
  cases inverted : fragment.inverted <;>
    simp [clause, inverted, BoolQuery.toJson, BoolQuery.clausesToJson, Json.nesting,
      Json.membersNesting, Json.itemsNesting] <;>
    omega

/-- A joined query has three levels around the more nested of its sides. -/
theorem nesting_join (connective : Connective) (left right : BoolQuery) :
    (join connective left right).toJson.nesting =
      3 + max left.toJson.nesting right.toJson.nesting := by
  cases connective <;>
    simp [join, BoolQuery.toJson, BoolQuery.clausesToJson, Json.nesting, Json.membersNesting,
      Json.itemsNesting] <;>
    omega

/-- Each level of an expression makes three levels of its query. -/
theorem nesting_of_compile
    {resolve : String → Except Error Field} {expr : Expr} {fragment : Fragment}
    (compiled : expr.compile resolve = .ok fragment) :
    3 * expr.depth + 2 ≤ fragment.query.toJson.nesting ∧
      fragment.query.toJson.nesting ≤ 3 * expr.depth + 5 := by
  induction expr generalizing fragment with
  | logical connective left right leftHypothesis rightHypothesis =>
      obtain ⟨first, second, leftCompiled, rightCompiled, rfl⟩ :=
        compile_logical_eq_ok_iff.mp compiled
      have leftBounds := leftHypothesis leftCompiled
      have rightBounds := rightHypothesis rightCompiled
      rw [nesting_join, depth_logical]
      omega
  | comparison name operator value =>
      obtain ⟨field, found, _, lookedUp, rfl⟩ := compile_comparison_eq_ok_iff.mp compiled
      have bounds := Field.nesting_of_lookup lookedUp
      rw [nesting_clause, depth_comparison]
      omega

/-- Each level of the expression has three in the document; the comparisons at the bottom and what
stands around the query have six to nine. -/
theorem nesting_of_document
    {resolve : String → Except Error Field} {expr : Expr} {document : Json}
    (compiled : expr.document resolve = .ok document) :
    3 * expr.depth + 6 ≤ document.nesting ∧ document.nesting ≤ 3 * expr.depth + 9 := by
  obtain ⟨fragment, isFragment, rfl⟩ := document_eq_ok_iff.mp compiled
  have bounds := nesting_of_compile isFragment
  rw [BoolQuery.nesting_document]
  omega

/-- The depth of an expression is bounded by the levels of the JSON value that it is read from, is
limited exactly by a limit on all branches, and bounds the levels of the document from both sides;
so a limit on the depth limits the levels of documents, whatever values are compared. -/
theorem depth_bounds_nesting :
    (∀ json expr, ofJson? json = some expr → expr.depth ≤ json.nesting) ∧
    (∀ limit expr, (Validator.depthLimit limit).check expr = .ok () ↔
      ∀ nodes, expr.Branch nodes → nodes.length ≤ limit) ∧
    (∀ (resolve : String → Except Error Field) (expr : Expr) (document : Json),
      expr.document resolve = .ok document →
        3 * expr.depth + 6 ≤ document.nesting ∧ document.nesting ≤ 3 * expr.depth + 9) ∧
    ∀ (limit : Nat) (resolve : String → Except Error Field) (expr : Expr) (document : Json),
      (Validator.depthLimit limit).check expr = .ok () → expr.document resolve = .ok document →
        document.nesting ≤ 3 * limit + 9 := by
  refine ⟨fun json expr isRead => depth_le_of_decode? isRead, fun limit expr => ?_,
    fun resolve expr document compiled => nesting_of_document compiled,
    fun limit resolve expr document allowed compiled => ?_⟩
  · rw [Validator.check_depthLimit_eq_ok_iff, depth_le_iff_forall_branch]
  · have shallow := (Validator.check_depthLimit_eq_ok_iff limit expr).mp allowed
    have bounds := nesting_of_document compiled
    omega

/-- A list in the deepest comparison takes a document to the upper bound, and a single equality is
at the lower one. -/
theorem depth_bounds_nesting_sample :
    (∃ expr, ofJson? Sample.mixed = some expr ∧ expr.depth ≤ Sample.mixed.nesting) ∧
    (∃ document, (Validator.depthLimit 3).check Sample.expr = .ok () ∧
      Sample.expr.document Sample.catalog.resolve = .ok document ∧
      3 * 3 + 6 ≤ document.nesting ∧ document.nesting ≤ 3 * 3 + 9 ∧ document.nesting = 18) ∧
    ∃ document, (comparison ⟨["price"]⟩ .equal (.int 1)).document Sample.catalog.resolve =
        .ok document ∧
      3 * 1 + 6 ≤ document.nesting ∧ document.nesting = 9 := by
  obtain ⟨reads, -, bounds, bounded⟩ := depth_bounds_nesting
  refine ⟨⟨_, rfl, reads _ _ rfl⟩, ⟨_, rfl, rfl, ?_, ?_, rfl⟩, ⟨_, rfl, ?_, rfl⟩⟩
  · exact (bounds Sample.catalog.resolve Sample.expr _ rfl).1
  · exact bounded 3 Sample.catalog.resolve Sample.expr _ rfl rfl
  · exact (bounds Sample.catalog.resolve (comparison ⟨["price"]⟩ .equal (.int 1)) _ rfl).1

end Expr
end FilterQuery
