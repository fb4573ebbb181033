import FilterQuery.Proofs.Distinctness
import FilterQuery.Proofs.Refusals
import FilterQuery.Proofs.RoundTrip

/-!
# Null in queries

Null enters a query only as a value that a comparison lists. Main statement: the
query of a comparison holds null, at any depth, exactly when a nullable field is
compared with a list that has null in it; and the fields of a mapping are not
nullable, so no document of an expression that was read holds null.
-/

namespace FilterQuery

/-! ## Null at any depth -/

namespace Json

mutual
/-- Whether null stands somewhere in a value. -/
def hasNull : Json → Bool
  | null => true
  | array items => itemsHaveNull items
  | object members => membersHaveNull members
  | _ => false

/-- Whether null stands somewhere in some items. -/
def itemsHaveNull : List Json → Bool
  | [] => false
  | item :: rest => hasNull item || itemsHaveNull rest

/-- Whether null stands somewhere in the values of some members. -/
def membersHaveNull : List (String × Json) → Bool
  | [] => false
  | (_, value) :: rest => hasNull value || membersHaveNull rest
end

@[simp] theorem hasNull_array (items : List Json) : (array items).hasNull = items.any hasNull := by
  rw [hasNull]
  induction items with
  | nil => rfl
  | cons item rest inductionHypothesis => rw [itemsHaveNull, inductionHypothesis, List.any_cons]

@[simp] theorem hasNull_object (members : List (String × Json)) :
    (object members).hasNull = members.any fun member => member.2.hasNull := by
  rw [hasNull]
  induction members with
  | nil => rfl
  | cons member rest inductionHypothesis =>
      rw [membersHaveNull, inductionHypothesis, List.any_cons]

@[simp] theorem hasNull_int (value : Int) : (int value).hasNull = false := rfl

@[simp] theorem hasNull_string (value : String) : (string value).hasNull = false := rfl

end Json

namespace Literal

/-- A finite list has finite items. -/
theorem isFinite_of_mem
    {items : List Literal} {item : Literal}
    (finite : (list items).isFinite = true)
    (member : item ∈ items) :
    item.isFinite = true := by
  rw [isFinite] at finite
  induction items with
  | nil => contradiction
  | cons head rest inductionHypothesis =>
      obtain ⟨headFinite, restFinite⟩ := Bool.and_eq_true_iff.mp finite
      rcases List.mem_cons.mp member with rfl | inRest
      · exact headFinite
      · exact inductionHypothesis restFinite inRest

/-- A single value holds null only where its JSON form is null. -/
theorem hasNull_toJson_of_isList_eq_false
    {value : Literal}
    (single : value.isList = false)
    (isValue : value.toJson ≠ .null) :
    value.toJson.hasNull = false := by
  cases value with
  | null | list _ => contradiction
  | float number =>
      rw [toJson_float, floatJson] at isValue ⊢
      split at isValue
      · next finite => simp [finite, Json.hasNull]
      · contradiction
  | bool _ | int _ | string _ => rfl

theorem hasNull_toJson_list (items : List Literal) :
    (list items).toJson.hasNull = items.any fun item => item.toJson.hasNull := by
  rw [toJson_list, itemsToJson_eq_map, Json.hasNull_array, List.any_map]
  rfl

end Literal

/-! ## Comparisons -/

theorem Operator.takesList_eq_true_iff {operator : Operator} :
    operator.takesList = true ↔ operator = .isIn ∨ operator = .notIn := by
  cases operator <;> simp [takesList]

namespace Form

/-- The query of a comparison holds null where its value does. -/
theorem hasNull_query
    {form : Form} {value : Literal}
    (takes : form.Takes value)
    (field : String) :
    (form.query field value).toJson.hasNull = value.toJson.hasNull := by
  cases form with
  | equals | range _ | startsWith => simp [query, BoolQuery.toJson, Leaf.toJson]
  | contains | endsWith =>
      obtain ⟨text, rfl⟩ := takes
      simp [query, BoolQuery.toJson, Leaf.toJson]
  | oneOf =>
      obtain ⟨items, rfl⟩ := takes
      rw [Literal.hasNull_toJson_list]
      simp [query, BoolQuery.toJson, Leaf.toJson, List.any_map, Function.comp_def]

end Form

namespace Field

variable {field : Field} {operator : Operator} {value : Literal} {fragment : Fragment}

/-- A suitable element holds null after its conversion only if it is null. -/
theorem hasNull_of_suits
    {item other : Literal}
    (suits : field.Suits item)
    (finite : item.isFinite = true)
    (coerced : field.coerce item = .ok other) :
    other.toJson.hasNull = true ↔ item = .null := by
  cases suits with
  | null nullable =>
      obtain rfl : .null = other := Except.ok.inj coerced
      simp [Json.hasNull]
  | scalar present accepted _ _ =>
      have single := FieldKind.isList_eq_false_of_accepts accepted
      have converts := (coerce_eq_ok_iff_convert? present single).mp coerced
      have isValue := toJson_ne_null_of_convert? accepted finite converts
      have single := (isScalar_of_convert? converts).2
      have free := Literal.hasNull_toJson_of_isList_eq_false single isValue
      have notNull : item ≠ .null := by
        rintro rfl
        contradiction
      simp [free, notNull]

/-- Converted elements hold null where null is among the elements. -/
theorem any_hasNull_of_suits
    {items others : List Literal}
    (suit : ∀ item ∈ items, field.Suits item)
    (finite : ∀ item ∈ items, item.isFinite = true)
    (coerced : List.Forall₂ (fun item other => field.coerce item = .ok other) items others) :
    (others.any fun other => other.toJson.hasNull) = true ↔ .null ∈ items := by
  induction coerced with
  | nil => simp
  | @cons item other rest others isCoerced _ inductionHypothesis =>
      obtain ⟨itemSuits, restSuit⟩ := List.forall_mem_cons.mp suit
      obtain ⟨itemFinite, restFinite⟩ := List.forall_mem_cons.mp finite
      rw [List.any_cons, Bool.or_eq_true, hasNull_of_suits itemSuits itemFinite isCoerced,
        inductionHypothesis restSuit restFinite, List.mem_cons, eq_comm]

/-- The query of a comparison holds null where a nullable field is compared with a list of values
with null among them. -/
theorem hasNull_of_lookup
    (finite : value.isFinite = true)
    (found : field.lookup operator value = .ok fragment) :
    fragment.query.toJson.hasNull = true ↔
      (operator = .isIn ∨ operator = .notIn) ∧ field.nullable = true ∧
        ∃ items, value = .list items ∧ .null ∈ items := by
  obtain ⟨converted, coerced, compares⟩ := compares_of_lookup found finite
  cases compares with
  | absent | present => simp [Fragment.ofAbsence, BoolQuery.toJson, Leaf.toJson]
  | value isValue takes =>
      rw [Fragment.ofComparison, Form.hasNull_query takes]
      cases isList : value.isList with
      | false =>
          have single := (shape_of_coerce coerced).2.trans isList
          have free := Literal.hasNull_toJson_of_isList_eq_false single isValue
          have notList (items : List Literal) : value ≠ .list items := by
            rintro rfl
            contradiction
          simp [free, notList]
      | true =>
          obtain ⟨items, rfl⟩ := Literal.eq_list_of_isList isList
          obtain ⟨others, areCoerced, rfl⟩ := coerce_list_eq_ok_iff.mp coerced
          obtain ⟨_, ⟨isNull, _⟩ | ⟨_, ofValue⟩⟩ := lookup_eq_ok_iff.mp found
          · contradiction
          obtain ⟨shape, checked, _⟩ := lookupValue_eq_ok_iff.mp ofValue
          have suit := check_and_coerce_iff.mp ⟨checked, _, coerced⟩
          rw [Literal.hasNull_toJson_list,
            any_hasNull_of_suits suit (fun _ => Literal.isFinite_of_mem finite) areCoerced]
          constructor
          · intro listed
            have nullable : field.nullable = true := by
              cases suit _ listed with
              | null nullable => exact nullable
              | scalar present => contradiction
            exact ⟨Operator.takesList_eq_true_iff.mp shape, nullable, items, rfl, listed⟩
          · rintro ⟨_, _, _, isItems, listed⟩
            rwa [Literal.list.inj isItems]

end Field

/-! ## Documents -/

namespace Expr

theorem hasNull_clause (fragment : Fragment) :
    (clause fragment).toJson.hasNull = fragment.query.toJson.hasNull := by
  cases inverted : fragment.inverted <;>
    simp [clause, inverted, BoolQuery.toJson, BoolQuery.clausesToJson]

/-- A joined query has a `null` where one of its sides has one. -/
theorem hasNull_join (connective : Connective) (left right : BoolQuery) :
    (join connective left right).toJson.hasNull =
      (left.toJson.hasNull || right.toJson.hasNull) := by
  cases connective <;> simp [join, BoolQuery.toJson, BoolQuery.clausesToJson]

/-- Where no field is nullable, no comparison brings null into a query. -/
theorem hasNull_of_compile
    {resolve : String → Except Error Field} {expr : Expr} {fragment : Fragment}
    (notNullable : ∀ name field, resolve name = .ok field → field.nullable = false)
    (finite : expr.isFinite = true)
    (compiled : expr.compile resolve = .ok fragment) :
    fragment.query.toJson.hasNull = false := by
  induction expr generalizing fragment with
  | logical connective left right leftHypothesis rightHypothesis =>
      obtain ⟨leftFinite, rightFinite⟩ := Bool.and_eq_true_iff.mp finite
      obtain ⟨first, second, leftCompiled, rightCompiled, rfl⟩ :=
        compile_logical_eq_ok_iff.mp compiled
      rw [hasNull_join, leftHypothesis leftFinite leftCompiled,
        rightHypothesis rightFinite rightCompiled]
      rfl
  | comparison name operator value =>
      obtain ⟨field, found, resolved, lookedUp, rfl⟩ := compile_comparison_eq_ok_iff.mp compiled
      rw [hasNull_clause, ← Bool.not_eq_true, Field.hasNull_of_lookup finite lookedUp]
      rintro ⟨_, nullable, _⟩
      simp [notNullable _ _ resolved] at nullable

end Expr

namespace Mapping

/-- The fields of a mapping are not nullable. -/
theorem nullable_of_fields
    {mappings : Json} {found : List Field}
    (read : fields mappings = .ok found) :
    ∀ field ∈ found, field.nullable = false := by
  intro field isField
  rw [fields_eq] at read
  obtain ⟨entry, _, ofEntry⟩ := exists_mem_of_mapM_eq_ok read isField
  unfold Entry.field Mapping.field at ofEntry
  split at ofEntry
  · rw [← Except.ok.inj ofEntry]
  · contradiction

end Mapping

namespace Expr

/-- Null reaches the engine only as a listed value. The query of an accepted comparison with finite
numbers holds null exactly where a nullable field is compared with a list in which null stands. The
fields of a mapping are never nullable, so no document holds null that an expression read from JSON
compiles to, whichever of the fields are hidden. -/
theorem null_reaches_engine_only_if_listed :
    (∀ (field : Field) (operator : Operator) (value : Literal) (fragment : Fragment),
      value.isFinite = true → field.lookup operator value = .ok fragment →
        (fragment.query.toJson.hasNull = true ↔
          (operator = .isIn ∨ operator = .notIn) ∧ field.nullable = true ∧
            ∃ items, value = .list items ∧ .null ∈ items)) ∧
    ∀ (mappings : Json) (found : List Field) (hidden : List String) (json : Json) (expr : Expr)
      (document : Json),
      Mapping.fields mappings = .ok found → json.numbersInRange = true →
      ofJson? json = some expr →
      expr.document (Catalog.ofFields found hidden).resolve = .ok document →
        document.hasNull = false := by
  constructor
  · intro field operator value fragment finite found
    exact Field.hasNull_of_lookup finite found
  · intro mappings found hidden json expr document read inRange isRead compiled
    obtain ⟨fragment, built, rfl⟩ := document_eq_ok_iff.mp compiled
    obtain ⟨finite, -⟩ := canonical_of_decode? inRange isRead
    have free : fragment.query.toJson.hasNull = false := by
      refine hasNull_of_compile (fun name field resolved => ?_) finite built
      have listed := (Catalog.resolve_eq_ok resolved).1
      exact Mapping.nullable_of_fields read field (List.mem_filter.mp listed).1
    simp [BoolQuery.document, BoolQuery.toJson, BoolQuery.clausesToJson, free]

end Expr

namespace Sample

/-- A string that may be absent. -/
def label : Field :=
  ⟨"tag", .keyword, "keyword", none, true⟩

/-- A mapping with a price. -/
def priced : Json :=
  .object [("properties", .object [("price", .object [("type", .string "double")])])]

/-- A membership that lists a whole number beyond the signed ones and a double. -/
def listing : Json :=
  .object [("type", .string "comparison"), ("left", .string "price"),
    ("operator", .string "not in"), ("right", .array [.int 18446744073709551615, .float 0.5])]

end Sample

namespace Expr

/-- Null is listed for a tag that may be absent; large numbers for a price are no null. -/
theorem null_reaches_engine_only_if_listed_sample :
    (∃ fragment,
      Sample.label.lookup .notIn (.list [.string "x", .null]) = .ok fragment ∧
        fragment.query.toJson.hasNull = true) ∧
    ∃ found expr document, Mapping.fields Sample.priced = .ok found ∧
      Sample.listing.numbersInRange = true ∧ ofJson? Sample.listing = some expr ∧
      expr.document (Catalog.ofFields found []).resolve = .ok document ∧
      document.hasNull = false := by
  obtain ⟨compared, mapped⟩ := null_reaches_engine_only_if_listed
  constructor
  · refine ⟨_, rfl, (compared Sample.label .notIn (.list [.string "x", .null]) _ rfl rfl).mpr ?_⟩
    exact ⟨.inr rfl, rfl, _, rfl, by simp⟩
  · exact ⟨_, _, _, rfl, by decide, rfl, rfl,
      mapped Sample.priced _ [] Sample.listing _ _ rfl (by decide) rfl rfl⟩

end Expr
end FilterQuery
