import FilterQuery.Proofs.Confinement
import FilterQuery.Proofs.Finiteness

/-!
# Documents tell expressions apart

Main statement: the documents of two expressions are equal as JSON exactly when
the expressions have the same form, with the same names, operators and converted
values at the same places. There is one exception: membership in the empty list
does not name its field.
-/

namespace FilterQuery

/-! ## Equality of JSON -/

namespace Json

mutual
/-- Whether two values are equal as JSON. The members of an object have no order, and a whole
number is not a floating one. -/
def same : Json → Json → Bool
  | null, null => true
  | bool first, bool second => first == second
  | int first, int second => first == second
  | float first, float second => first == second
  | string first, string second => first == second
  | array first, array second => sameItems first second
  | object first, object second => first.length == second.length && sameMembers first second
  | _, _ => false

/-- Whether items are equal one by one. -/
def sameItems : List Json → List Json → Bool
  | [], [] => true
  | first :: rest, second :: others => same first second && sameItems rest others
  | _, _ => false

/-- Whether all members have an equal value among others. -/
def sameMembers : List (String × Json) → List (String × Json) → Bool
  | [], _ => true
  | (name, value) :: rest, others =>
      (match others.lookup name with
        | some other => same value other
        | none => false) && sameMembers rest others
end

@[simp] theorem same_null : same null null = true := rfl

@[simp] theorem same_int (first second : Int) :
    same (int first) (int second) = (first == second) := rfl

@[simp] theorem same_string (first second : String) :
    same (string first) (string second) = (first == second) := rfl

@[simp] theorem same_array (first second : List Json) :
    same (array first) (array second) = sameItems first second := rfl

@[simp] theorem sameItems_cons (first second : Json) (rest others : List Json) :
    sameItems (first :: rest) (second :: others) = (same first second && sameItems rest others) :=
  rfl

/-- Objects with one member each. -/
@[simp] theorem same_single (first second : String) (value other : Json) :
    same (object [(first, value)]) (object [(second, other)]) =
      (first == second && same value other) := by
  cases isSame : first == second <;> simp [same, sameMembers, List.lookup_cons, isSame]

/-- Objects with the same two names. -/
theorem same_pair
    {first second : String}
    (different : first ≠ second)
    (value other value' other' : Json) :
    same (object [(first, value), (second, other)]) (object [(first, value'), (second, other')]) =
      (same value value' && same other other') := by
  have notFirst : (second == first) = false := by simpa using Ne.symm different
  simp [same, sameMembers, List.lookup_cons, notFirst]

@[simp] theorem same_single_pair (member first second : String × Json) :
    same (object [member]) (object [first, second]) = false := rfl

@[simp] theorem same_pair_single (first second member : String × Json) :
    same (object [first, second]) (object [member]) = false := rfl

theorem eq_null_of_null_same {value : Json} (isSame : same null value = true) : value = null := by
  cases value <;> simp_all [same]

theorem eq_null_of_same_null {value : Json} (isSame : same value null = true) : value = null := by
  cases value <;> simp_all [same]

end Json

/-! ## Patterns -/

namespace Pattern

/-- An escaped character ends where the next one starts. -/
theorem escapeChar_append_inj
    {c d : Char} {rest others : List Char}
    (same : escapeChar c ++ rest = escapeChar d ++ others) :
    c = d ∧ rest = others := by
  cases first : isSpecial c <;> cases second : isSpecial d
  · simpa [first, second] using same
  · -- A character that stands alone is not the backslash before another one.
    simp only [escapeChar_plain first, escapeChar_special second, List.cons_append,
      List.cons.injEq] at same
    rw [same.1] at first
    exact absurd first (by decide)
  · simp only [escapeChar_special first, escapeChar_plain second, List.cons_append,
      List.cons.injEq] at same
    rw [← same.1] at second
    exact absurd second (by decide)
  · simpa [first, second] using same

theorem escapeChar_ne_nil (c : Char) : escapeChar c ≠ [] := by
  cases special : isSpecial c <;> simp [special]

/-- Different texts are escaped differently. -/
theorem flatMap_escapeChar_inj
    {text other : List Char}
    (same : text.flatMap escapeChar = other.flatMap escapeChar) :
    text = other := by
  induction text generalizing other with
  | nil =>
      cases other with
      | nil => rfl
      | cons d others => simp [escapeChar_ne_nil] at same
  | cons c rest inductionHypothesis =>
      cases other with
      | nil => simp [escapeChar_ne_nil] at same
      | cons d others =>
          obtain ⟨rfl, sameRest⟩ := escapeChar_append_inj same
          rw [inductionHypothesis sameRest]

/-- No escaped text ends in a star that stands for any characters. -/
theorem flatMap_escapeChar_ne_concat_star (text other : List Char) :
    text.flatMap escapeChar ++ ['*'] ≠ other.flatMap escapeChar := by
  induction text generalizing other with
  | nil =>
      intro same
      cases other with
      | nil => simp at same
      | cons d others =>
          cases special : isSpecial d <;> simp [special] at same
          rw [← same.1] at special
          exact absurd special (by decide)
  | cons c rest inductionHypothesis =>
      intro same
      cases other with
      | nil => simp [escapeChar_ne_nil] at same
      | cons d others =>
          rw [List.flatMap_cons, List.append_assoc, List.flatMap_cons] at same
          exact inductionHypothesis others (escapeChar_append_inj same).2

theorem escape_inj {text other : String} (same : escape text = escape other) : text = other := by
  have sameCharacters := String.ofList_inj.mp same
  exact String.toList_inj.mp (flatMap_escapeChar_inj sameCharacters)

theorem containing_inj {text other : String} (same : containing text = containing other) :
    text = other := by
  unfold containing at same
  rw [String.append_left_inj, String.append_right_inj] at same
  exact escape_inj same

theorem endingIn_inj {text other : String} (same : endingIn text = endingIn other) :
    text = other := by
  unfold endingIn at same
  rw [String.append_right_inj] at same
  exact escape_inj same

/-- To contain a text is never to end in one: only the first pattern ends in a star. -/
theorem containing_ne_endingIn (text other : String) : containing text ≠ endingIn other := by
  intro same
  unfold containing endingIn at same
  rw [String.append_assoc, String.append_right_inj] at same
  have characters := congrArg String.toList same
  simp only [String.toList_append, escape, String.toList_ofList] at characters
  exact flatMap_escapeChar_ne_concat_star _ _ characters

end Pattern

/-! ## Conditions on one field -/

namespace Form

/-- The name of the only member of a condition's JSON form. -/
def key : Form → String
  | equals => "match"
  | range _ => "range"
  | contains | endsWith => "wildcard"
  | startsWith => "prefix"
  | oneOf => "bool"

theorem exists_toJson_query (form : Form) (field : String) (value : Literal) :
    ∃ body, (form.query field value).toJson = .object [(form.key, body)] := by
  cases form with
  | oneOf => cases value <;> exact ⟨_, rfl⟩
  | _ => exact ⟨_, rfl⟩

/-- The values that a condition is put for. -/
def Takes : Form → Literal → Prop
  | oneOf, value => ∃ items, value = .list items
  | contains, value | endsWith, value => ∃ text, value = .string text
  | _, value => value.isList = false

/-- Different forms give different conditions. Those with a pattern have the same members, and the
patterns differ. -/
theorem eq_of_same_query
    {form other : Form} {field name : String} {value literal : Literal}
    (takes : form.Takes value)
    (takesOther : other.Takes literal)
    (isSame : Json.same (form.query field value).toJson (other.query name literal).toJson = true) :
    form = other := by
  have sameKey : form.key = other.key := by
    obtain ⟨body, isBody⟩ := form.exists_toJson_query field value
    obtain ⟨otherBody, isOtherBody⟩ := other.exists_toJson_query name literal
    rw [isBody, isOtherBody, Json.same_single, Bool.and_eq_true_iff, beq_iff_eq] at isSame
    exact isSame.1
  cases form <;> cases other <;> simp [key] at sameKey ⊢
  case range.range bound limit =>
    simp only [query, BoolQuery.toJson, Leaf.toJson, Json.same_single, Bool.and_eq_true_iff,
      beq_iff_eq] at isSame
    have sameBound := congrArg Bound.ofKey? isSame.2.2.1
    simpa using sameBound
  case contains.endsWith =>
    obtain ⟨text, rfl⟩ := takes
    obtain ⟨otherText, rfl⟩ := takesOther
    simp [query, BoolQuery.toJson, Leaf.toJson, Pattern.containing_ne_endingIn] at isSame
  case endsWith.contains =>
    obtain ⟨text, rfl⟩ := takes
    obtain ⟨otherText, rfl⟩ := takesOther
    simp [query, BoolQuery.toJson, Leaf.toJson, (Pattern.containing_ne_endingIn _ _).symm] at isSame

/-- Conditions of membership are equal where the lists are, except that those for the empty list
do not name the field. -/
theorem same_matches_iff (field name : String) (values others : List Json) :
    Json.sameItems (values.map fun value => (Leaf.equals field value).toJson)
        (others.map fun value => (Leaf.equals name value).toJson) = true ↔
      Json.sameItems values others = true ∧ (field = name ∨ values = [] ∧ others = []) := by
  induction values generalizing others with
  | nil => cases others <;> simp [Json.sameItems]
  | cons value rest inductionHypothesis =>
      cases others with
      | nil => simp [Json.sameItems]
      | cons other more =>
          simp only [List.map_cons, Leaf.toJson, Json.sameItems_cons, Json.same_single,
            Bool.and_eq_true_iff, beq_iff_eq] at inductionHypothesis ⊢
          rw [inductionHypothesis]
          grind

/-- The conditions of one form are equal where fields and values are. -/
theorem same_query_iff
    {form : Form} {field name : String} {value literal : Literal}
    (takes : form.Takes value)
    (takesOther : form.Takes literal) :
    Json.same (form.query field value).toJson (form.query name literal).toJson = true ↔
      Json.same value.toJson literal.toJson = true ∧
        (field = name ∨ value = .list [] ∧ literal = .list []) := by
  have notEmpty {value : Literal} (single : value.isList = false) : value ≠ .list [] := by
    rintro rfl
    contradiction
  cases form with
  | equals =>
      simp [query, BoolQuery.toJson, Leaf.toJson, notEmpty takes, and_comm]
  | range bound =>
      simp [query, BoolQuery.toJson, Leaf.toJson, notEmpty takes, and_comm]
  | startsWith =>
      simp [query, BoolQuery.toJson, Leaf.toJson, notEmpty takes, and_comm]
  | contains =>
      obtain ⟨text, rfl⟩ := takes
      obtain ⟨other, rfl⟩ := takesOther
      have sameText : Pattern.containing text = Pattern.containing other ↔ text = other :=
        ⟨Pattern.containing_inj, congrArg _⟩
      simp [query, BoolQuery.toJson, Leaf.toJson, sameText, and_comm]
  | endsWith =>
      obtain ⟨text, rfl⟩ := takes
      obtain ⟨other, rfl⟩ := takesOther
      have sameText : Pattern.endingIn text = Pattern.endingIn other ↔ text = other :=
        ⟨Pattern.endingIn_inj, congrArg _⟩
      simp [query, BoolQuery.toJson, Leaf.toJson, sameText, and_comm]
  | oneOf =>
      obtain ⟨items, rfl⟩ := takes
      obtain ⟨others, rfl⟩ := takesOther
      have isOneOf := same_matches_iff field name (items.map Literal.toJson)
        (others.map Literal.toJson)
      simp (disch := decide) only [query, BoolQuery.toJson, Json.same_single, Json.same_pair,
        Json.same_array, Literal.toJson_list, Literal.itemsToJson_eq_map]
      simpa using isOneOf

end Form

namespace Operator

/-- The operator of a form, negated or not; an order comparison is never negated. -/
def ofForm (negated : Bool) : Form → Operator
  | .equals => if negated then notEqual else equal
  | .range .greater => greater
  | .range .greaterOrEqual => greaterOrEqual
  | .range .less => less
  | .range .lessOrEqual => lessOrEqual
  | .contains => if negated then notContains else contains
  | .oneOf => if negated then notIn else isIn
  | .startsWith => if negated then notStartsWith else startsWith
  | .endsWith => if negated then notEndsWith else endsWith

theorem ofForm_form (operator : Operator) : ofForm operator.isNegated operator.form = operator := by
  cases operator <;> rfl

/-- An operator is known by its form and whether it is negated. -/
theorem eq_of_form
    {operator other : Operator}
    (sameForm : operator.form = other.form)
    (sameNegation : operator.isNegated = other.isNegated) :
    operator = other := by
  rw [← operator.ofForm_form, sameForm, sameNegation, ofForm_form]

end Operator

namespace Fragment

/-- `Compares field operator value fragment` says that a fragment is that of the comparison of a
field with a value in the field's own type. -/
inductive Compares (field : String) : Operator → Literal → Fragment → Prop where
  | absent : Compares field .equal .null (.ofAbsence field true)
  | present : Compares field .notEqual .null (.ofAbsence field false)
  | value {operator : Operator} {value : Literal} :
      value.toJson ≠ .null → operator.form.Takes value →
        Compares field operator value (.ofComparison field operator value)

/-- A comparison with null is not one with a value. -/
theorem same_hasValue_query (field name : String) (form : Form) (value : Literal) :
    Json.same (BoolQuery.leaf (.hasValue field)).toJson (form.query name value).toJson = false ∧
      Json.same (form.query name value).toJson (BoolQuery.leaf (.hasValue field)).toJson = false := by
  obtain ⟨body, isBody⟩ := form.exists_toJson_query name value
  rw [isBody]
  cases form <;> simp [BoolQuery.toJson, Leaf.toJson, Form.key]

/-- The fragments of two comparisons are equal where operators, values and fields are; that of
membership in the empty list does not depend on the field. -/
theorem Compares.same_iff
    {field name : String} {operator other : Operator} {value literal : Literal}
    {first second : Fragment}
    (compares : Compares field operator value first)
    (comparesOther : Compares name other literal second) :
    (first.inverted = second.inverted ∧
        Json.same first.query.toJson second.query.toJson = true) ↔
      operator = other ∧ Json.same value.toJson literal.toJson = true ∧
        (field = name ∨ value = .list [] ∧ literal = .list []) := by
  cases compares with
  | absent =>
      cases comparesOther with
      | absent => simp [ofAbsence, BoolQuery.toJson, Leaf.toJson]
      | present => simp [ofAbsence]
      | value isValue takes =>
          have notNull : Json.same .null literal.toJson ≠ true :=
            fun isSame => isValue (Json.eq_null_of_null_same isSame)
          simp [ofAbsence, ofComparison, same_hasValue_query, notNull]
  | present =>
      cases comparesOther with
      | absent => simp [ofAbsence]
      | present => simp [ofAbsence, BoolQuery.toJson, Leaf.toJson]
      | value isValue takes =>
          have notNull : Json.same .null literal.toJson ≠ true :=
            fun isSame => isValue (Json.eq_null_of_null_same isSame)
          simp [ofAbsence, ofComparison, same_hasValue_query, notNull]
  | value isValue takes =>
      cases comparesOther with
      | absent | present =>
          have notNull : Json.same value.toJson .null ≠ true :=
            fun isSame => isValue (Json.eq_null_of_same_null isSame)
          simp [ofAbsence, ofComparison, same_hasValue_query, notNull]
      | value isOtherValue takesOther =>
          simp only [ofComparison]
          constructor
          · -- The form is read off the query first; with the inversion it gives the operator.
            rintro ⟨sameNegation, isSame⟩
            have sameForm := Form.eq_of_same_query takes takesOther isSame
            obtain rfl := Operator.eq_of_form sameForm sameNegation
            exact ⟨rfl, (Form.same_query_iff takes takesOther).mp isSame⟩
          · rintro ⟨rfl, alike⟩
            exact ⟨rfl, (Form.same_query_iff takes takesOther).mpr alike⟩

end Fragment

/-! ## Accepted comparisons -/

namespace Field

/-- A scalar other than null that passes the check is of a type that the field accepts. -/
theorem accepts_of_check
    {field : Field} {value : Literal}
    (present : value.isNull = false)
    (single : value.isList = false)
    (checked : field.check value = .ok ()) :
    field.kind.accepts value = true := by
  cases value with
  | null | list _ => contradiction
  | bool _ | int _ | float _ | string _ =>
      simp only [check, checkScalar] at checked
      split at checked
      · contradiction
      · next accepted => simpa using accepted

/-- What is converted from a finite value has a JSON form other than null. -/
theorem toJson_ne_null_of_convert?
    {kind : FieldKind} {value converted : Literal}
    (accepted : kind.accepts value = true)
    (finite : value.isFinite = true)
    (converts : convert? kind value = some converted) :
    converted.toJson ≠ .null := by
  cases kind with
  | long =>
      obtain ⟨number, rfl⟩ := eq_int_of_toLong? converts
      simp
  | boolean =>
      obtain ⟨flag, rfl⟩ := eq_bool_of_toBoolean? converts
      simp
  | text | keyword | date =>
      obtain rfl := Option.some.inj converts
      simp
  | float =>
      cases value with
      | int number =>
          obtain rfl := Option.some.inj converts
          have low := number.le_toInt
          have high := number.toInt_lt
          have isFinite : Exact.isFinite (Float.ofInt number.toInt) = true :=
            Exact.isFinite_ofInt (by omega) (by omega)
          simp [Literal.floatJson, isFinite]
      | float number =>
          obtain rfl := Option.some.inj converts
          have isFinite : Exact.isFinite number = true := finite
          simp [Literal.floatJson, isFinite]
      | null | bool _ | string _ | list _ => simp [FieldKind.accepts] at accepted

/-- Patterns are only for kinds whose values are strings. -/
theorem eq_string_of_convert?
    {kind : FieldKind} {operator : Operator} {value converted : Literal}
    (allowed : operator ∈ kind.operators)
    (hasPattern : operator.form = .contains ∨ operator.form = .endsWith)
    (converts : convert? kind value = some converted) :
    ∃ text, converted = .string text := by
  cases kind with
  | text | keyword | date => exact ⟨_, (Option.some.inj converts).symm⟩
  | long | float | boolean =>
      cases operator <;>
        simp [FieldKind.operators, FieldKind.orderOperators, Operator.form] at allowed hasPattern

/-- The fragment of an accepted comparison is about the converted value. -/
theorem compares_of_lookup
    {field : Field} {operator : Operator} {value : Literal} {fragment : Fragment}
    (found : field.lookup operator value = .ok fragment)
    (finite : value.isFinite = true) :
    ∃ converted, field.coerce value = .ok converted ∧
      Fragment.Compares field.name operator converted fragment := by
  obtain ⟨allowed, ⟨isNull, ofNull⟩ | ⟨present, ofValue⟩⟩ := lookup_eq_ok_iff.mp found
  · obtain rfl := Literal.eq_null_of_isNull isNull
    refine ⟨.null, rfl, ?_⟩
    obtain ⟨_, ⟨rfl, rfl⟩ | ⟨rfl, rfl⟩⟩ := lookupNull_eq_ok_iff.mp ofNull
    · exact .absent
    · exact .present
  · obtain ⟨shape, checked, converted, coerced, rfl⟩ := lookupValue_eq_ok_iff.mp ofValue
    refine ⟨converted, coerced, ?_⟩
    cases single : value.isList with
    | true =>
        obtain ⟨items, rfl⟩ : ∃ items, converted = .list items := by
          have isList := (shape_of_coerce coerced).2
          cases converted <;> simp_all [Literal.isList]
        refine .value (by simp) ?_
        rw [single] at shape
        cases operator <;> simp [Operator.takesList] at shape
        · exact ⟨items, rfl⟩
        · exact ⟨items, rfl⟩
    | false =>
        have converts := (coerce_eq_ok_iff_convert? present single).mp coerced
        have accepted := accepts_of_check present single checked
        refine .value (toJson_ne_null_of_convert? accepted finite converts) ?_
        cases form : operator.form with
        | contains => exact eq_string_of_convert? allowed (.inl form) converts
        | endsWith => exact eq_string_of_convert? allowed (.inr form) converts
        | equals | range _ | startsWith => exact (isScalar_of_convert? converts).2
        | oneOf =>
            rw [single] at shape
            cases operator <;> simp [Operator.takesList, Operator.form] at shape form

/-- Only the empty list is converted to the empty list. -/
theorem eq_nil_iff_of_coerce
    {field : Field} {value converted : Literal}
    (converts : field.coerce value = .ok converted) :
    converted = .list [] ↔ value = .list [] := by
  have sameShape := (shape_of_coerce converts).2
  cases value with
  | list items =>
      simp only [coerce] at converts
      cases outcome : field.coerceItems items with
      | error cause => simp [outcome] at converts
      | ok others =>
          obtain rfl : Literal.list others = converted := by simpa [outcome] using converts
          cases items with
          | nil => simp_all [coerceItems]
          | cons item rest =>
              simp only [coerceItems] at outcome
              split at outcome
              · contradiction
              · split at outcome
                · contradiction
                · simp [← Except.ok.inj outcome]
  | _ =>
      constructor
      · rintro rfl
        contradiction
      · simp

end Field

/-! ## Expressions -/

/-- Which clauses of a query have to match. -/
inductive Quorum where
  | all
  | some
  | none

namespace Quorum

/-- The query of clauses. -/
def query : Quorum → List BoolQuery → BoolQuery
  | all, clauses => .filter clauses
  | some, clauses => .should clauses
  | none, clauses => .mustNot clauses

/-- Lists of clauses are equal where the clauses are, and as many of them have to match. -/
theorem same_query_iff (quorum other : Quorum) (clauses others : List BoolQuery) :
    Json.same (quorum.query clauses).toJson (other.query others).toJson = true ↔
      quorum = other ∧ Json.sameItems (BoolQuery.clausesToJson clauses)
        (BoolQuery.clausesToJson others) = true := by
  cases quorum <;> cases other <;>
    simp (disch := decide) [query, BoolQuery.toJson, Json.same_pair]

end Quorum

namespace Connective

/-- Which of two joined clauses have to match. -/
def quorum : Connective → Quorum
  | and => .all
  | or => .some

end Connective

namespace Expr

theorem join_eq (connective : Connective) (left right : BoolQuery) :
    join connective left right = connective.quorum.query [left, right] := by
  cases connective <;> rfl

theorem clause_eq (fragment : Fragment) :
    clause fragment = (if fragment.inverted then Quorum.none else .some).query [fragment.query] := by
  unfold clause
  cases fragment.inverted <;> rfl

theorem same_clause_iff (first second : Fragment) :
    Json.same (clause first).toJson (clause second).toJson = true ↔
      first.inverted = second.inverted ∧
        Json.same first.query.toJson second.query.toJson = true := by
  rw [clause_eq, clause_eq, Quorum.same_query_iff]
  cases first.inverted <;> cases second.inverted <;> simp [BoolQuery.clausesToJson, Json.sameItems]

theorem same_join_iff
    (connective other : Connective) (left right otherLeft otherRight : BoolQuery) :
    Json.same (join connective left right).toJson (join other otherLeft otherRight).toJson = true ↔
      connective = other ∧ Json.same left.toJson otherLeft.toJson = true ∧
        Json.same right.toJson otherRight.toJson = true := by
  rw [join_eq, join_eq, Quorum.same_query_iff]
  cases connective <;> cases other <;> simp [Connective.quorum, BoolQuery.clausesToJson, Json.sameItems]

/-- Two joined queries are not the one clause of a comparison. -/
theorem same_join_clause
    (connective : Connective) (left right : BoolQuery) (fragment : Fragment) :
    Json.same (join connective left right).toJson (clause fragment).toJson = false ∧
      Json.same (clause fragment).toJson (join connective left right).toJson = false := by
  simp only [← Bool.not_eq_true, join_eq, clause_eq, Quorum.same_query_iff]
  simp [BoolQuery.clausesToJson, Json.sameItems]

/-- The value of a comparison in the type of the field that its name is resolved to. -/
def formatted? (resolve : String → Except Error Field) (name : Name) (value : Literal) :
    Option Literal :=
  match resolve name.dotted with
  | .error _ => none
  | .ok field => (field.coerce value).toOption

/-- Two expressions have the same form. Comparisons at the same place have the same operator, the
same converted value and the same name; the name may be another one where both values are the empty
list. -/
def Alike (resolve : String → Except Error Field) : Expr → Expr → Prop
  | logical connective left right, logical other otherLeft otherRight =>
      connective = other ∧ left.Alike resolve otherLeft ∧ right.Alike resolve otherRight
  | comparison name operator value, comparison other otherOperator otherValue =>
      operator = otherOperator ∧
        (∃ first second, formatted? resolve name value = some first ∧
          formatted? resolve other otherValue = some second ∧
          Json.same first.toJson second.toJson = true) ∧
        (name.dotted = other.dotted ∨ value = .list [] ∧ otherValue = .list [])
  | _, _ => False

/-- What the compiled clause of a comparison is about. -/
theorem compares_of_compile
    {catalog : Catalog} {name : Name} {operator : Operator} {value : Literal} {fragment : Fragment}
    (compiled : (comparison name operator value).compile catalog.resolve = .ok fragment)
    (finite : value.isFinite = true) :
    ∃ converted found, formatted? catalog.resolve name value = some converted ∧
      (converted = .list [] ↔ value = .list []) ∧
      Fragment.Compares name.dotted operator converted found ∧ fragment.query = clause found := by
  obtain ⟨field, found, resolved, lookedUp, rfl⟩ := compile_comparison_eq_ok_iff.mp compiled
  obtain ⟨converted, coerced, compares⟩ := Field.compares_of_lookup lookedUp finite
  rw [(Catalog.resolve_eq_ok resolved).2] at compares
  refine ⟨converted, found, ?_, Field.eq_nil_iff_of_coerce coerced, compares, rfl⟩
  simp [formatted?, resolved, coerced, Except.toOption]

/-- Compiled queries are equal as JSON exactly where the expressions are alike. -/
theorem same_compile_iff
    {catalog : Catalog} {expr other : Expr} {fragment otherFragment : Fragment}
    (finite : expr.isFinite = true)
    (otherFinite : other.isFinite = true)
    (compiled : expr.compile catalog.resolve = .ok fragment)
    (otherCompiled : other.compile catalog.resolve = .ok otherFragment) :
    Json.same fragment.query.toJson otherFragment.query.toJson = true ↔
      expr.Alike catalog.resolve other := by
  -- A connective gives two clauses and a comparison one, so trees of different shape never agree.
  induction expr generalizing other fragment otherFragment with
  | logical connective left right leftHypothesis rightHypothesis =>
      obtain ⟨leftFinite, rightFinite⟩ := Bool.and_eq_true_iff.mp finite
      obtain ⟨first, second, leftCompiled, rightCompiled, rfl⟩ :=
        compile_logical_eq_ok_iff.mp compiled
      cases other with
      | logical otherConnective otherLeft otherRight =>
          obtain ⟨otherLeftFinite, otherRightFinite⟩ := Bool.and_eq_true_iff.mp otherFinite
          obtain ⟨otherFirst, otherSecond, otherLeftCompiled, otherRightCompiled, rfl⟩ :=
            compile_logical_eq_ok_iff.mp otherCompiled
          rw [same_join_iff, Alike,
            leftHypothesis leftFinite otherLeftFinite leftCompiled otherLeftCompiled,
            rightHypothesis rightFinite otherRightFinite rightCompiled otherRightCompiled]
      | comparison name operator value =>
          obtain ⟨_, found, _, _, _, isClause⟩ := compares_of_compile otherCompiled otherFinite
          rw [isClause]
          simp [same_join_clause, Alike]
  | comparison name operator value =>
      obtain ⟨converted, found, isFormatted, isEmpty, compares, isClause⟩ :=
        compares_of_compile compiled finite
      rw [isClause]
      cases other with
      | logical otherConnective otherLeft otherRight =>
          obtain ⟨otherFirst, otherSecond, _, _, rfl⟩ := compile_logical_eq_ok_iff.mp otherCompiled
          simp [same_join_clause, Alike]
      | comparison otherName otherOperator otherValue =>
          obtain ⟨otherConverted, otherFound, isOtherFormatted, isOtherEmpty, otherCompares,
            isOtherClause⟩ := compares_of_compile otherCompiled otherFinite
          rw [isOtherClause, same_clause_iff, compares.same_iff otherCompares, isEmpty,
            isOtherEmpty]
          simp [Alike, isFormatted, isOtherFormatted]

/-- The compiler tells expressions apart: the documents of two expressions with finite numbers are
equal as JSON exactly when the expressions are alike. -/
theorem same_document_iff_alike
    {catalog : Catalog} {first second : Expr} {document other : Json}
    (firstFinite : first.isFinite = true)
    (secondFinite : second.isFinite = true)
    (compiled : first.document catalog.resolve = .ok document)
    (otherCompiled : second.document catalog.resolve = .ok other) :
    Json.same document other = true ↔ first.Alike catalog.resolve second := by
  obtain ⟨fragment, built, rfl⟩ := document_eq_ok_iff.mp compiled
  obtain ⟨otherFragment, otherBuilt, rfl⟩ := document_eq_ok_iff.mp otherCompiled
  rw [← same_compile_iff firstFinite secondFinite built otherBuilt]
  simp [BoolQuery.document, BoolQuery.toJson, BoolQuery.clausesToJson, Json.sameItems]

end Expr

namespace Sample

/-- A number that may be absent and two strings. -/
def shelf : Catalog :=
  ⟨[⟨"price", .float, "float", none, true⟩, ⟨"title", .keyword, "keyword", none, false⟩,
    ⟨"owner", .keyword, "keyword", none, false⟩]⟩

/-- A condition on the title, or a price that is listed. -/
def wanted (operator : Operator) (text : String) (price : Literal) : Expr :=
  .logical .or (.comparison ⟨["title"]⟩ operator (.string text))
    (.comparison ⟨["price"]⟩ .isIn (.list [price, .null]))

/-- Membership in the empty list. -/
def amongNone (name : Name) : Expr :=
  .comparison name .isIn (.list [])

end Sample

namespace Expr

/-- A whole price is the same as its double, and a title that contains `a` is not one that ends in
`a*`. -/
theorem same_document_iff_alike_sample :
    (Sample.wanted .contains "a" (.int 2)).Alike Sample.shelf.resolve
        (Sample.wanted .contains "a" (.float 2.0)) ∧
      ¬ (Sample.wanted .contains "a" (.int 2)).Alike Sample.shelf.resolve
        (Sample.wanted .endsWith "a*" (.float 2.0)) :=
  ⟨(same_document_iff_alike (by decide) (by decide) rfl rfl).mp (by decide +kernel),
    mt (same_document_iff_alike (by decide) (by decide) rfl rfl).mpr (by decide +kernel)⟩

/-- Membership in the empty list has the same document for every field. -/
theorem same_document_amongNone :
    ∃ document other,
      (Sample.amongNone ⟨["title"]⟩).document Sample.shelf.resolve = .ok document ∧
      (Sample.amongNone ⟨["owner"]⟩).document Sample.shelf.resolve = .ok other ∧
      Json.same document other = true ∧
      (⟨["title"]⟩ : Name).dotted ≠ (⟨["owner"]⟩ : Name).dotted :=
  ⟨_, _, rfl, rfl, by decide +kernel, by decide +kernel⟩

end Expr
end FilterQuery
