import FilterQuery.Proofs.Leaves
import FilterQuery.Proofs.Meaning

/-!
# Refused comparisons

Which comparisons of a field with a value are refused, and for which reason
where there are several. Main statement: the operator is judged before the
value, null and the shape of a value before its elements, the elements from the
left, and conversion last, where only doubles that are no 64-bit numbers fail.
-/

namespace FilterQuery

namespace Literal

theorem eq_list_of_isList {value : Literal} (isList : value.isList = true) :
    ∃ items, value = .list items := by
  cases value with
  | list items => exact ⟨items, rfl⟩
  | _ => contradiction

theorem elements_of_isList_eq_false {value : Literal} (single : value.isList = false) :
    value.elements = [value] := by
  cases value with
  | list items => contradiction
  | _ => rfl

end Literal

namespace Exact

/-- Whether a double is no 64-bit number, with or without its fraction: it is undefined, infinite
or out of the bounds. -/
def exceedsLong (x : Float) : Bool :=
  match value? x with
  | none => true
  | some exact => exact < (-9223372036854775808 : Rat) ∨ (9223372036854775808 : Rat) ≤ exact

end Exact

@[simp] theorem FieldKind.accepts_list (kind : FieldKind) (items : List Literal) :
    kind.accepts (.list items) = false := by
  cases kind <;> rfl

theorem FieldKind.isList_eq_false_of_accepts
    {kind : FieldKind} {value : Literal}
    (accepted : kind.accepts value = true) :
    value.isList = false := by
  cases value with
  | list items => simp at accepted
  | _ => rfl

namespace Field

/-! ## Faults of one element -/

/-- Why a field refuses an element before it is converted. -/
inductive Offends (field : Field) : Literal → FieldError → Prop where
  | null : field.nullable = false → Offends field .null (.notNullable field)
  /-- The element has a type that the kind does not accept; none accepts a list. -/
  | type {value : Literal} : value.isNull = false → field.kind.accepts value = false →
      Offends field value (.invalidType field value)
  | date {text : String} : field.kind = .date → Date.read? text = none →
      Offends field (.string text) (.invalidDate field (.string text))

/-- Why an element cannot be converted although its type is accepted. -/
inductive Overflows (field : Field) : Literal → FieldError → Prop where
  | float {value : Float} : field.kind = .long → Exact.exceedsLong value = true →
      Overflows field (.float value) (.valueConversion field (.float value))

/-- The check of one element finds its fault. -/
theorem checkScalar_eq_error_iff {field : Field} {value : Literal} {cause : FieldError} :
    field.checkScalar value = .error cause ↔ field.Offends value cause := by
  constructor
  · intro refused
    unfold checkScalar at refused
    split at refused
    · split at refused
      · contradiction
      · next notNullable =>
          cases refused
          exact .null (by simpa using notNullable)
    · next notNull =>
        have present : value.isNull = false := by
          cases value with
          | null => exact (notNull rfl).elim
          | _ => rfl
        split at refused
        · next rejected =>
            cases refused
            exact .type present (by simpa using rejected)
        · split at refused
          · next isDate _ =>
              split at refused
              · contradiction
              · next unread =>
                  cases refused
                  exact .date isDate unread
          · contradiction
  · intro offends
    cases offends with
    | null notNullable => simp [checkScalar, notNullable]
    | type present rejected =>
        cases value with
        | null => contradiction
        | _ => simp [checkScalar, rejected]
    | date isDate unread => simp [checkScalar, isDate, FieldKind.accepts, unread]

/-- An element passes the check when it has no fault. -/
theorem checkScalar_eq_ok_iff {field : Field} {value : Literal} :
    field.checkScalar value = .ok () ↔ ∀ cause, ¬field.Offends value cause := by
  simp only [← checkScalar_eq_error_iff]
  cases field.checkScalar value <;> simp

theorem wholeOfFloat?_eq_none_iff {x : Float} :
    wholeOfFloat? x = none ↔ Exact.exceedsLong x = true := by
  unfold wholeOfFloat? Exact.exceedsLong
  cases Exact.value? x with
  | none => simp
  | some exact =>
      simp only [ite_eq_right_iff, reduceCtorEq, imp_false, decide_eq_true_eq]
      rw [not_and_or, Rat.not_le, Rat.not_lt]

/-- What is converted of an element other than null that is no list. -/
theorem coerce_eq_error_iff_convert?
    {field : Field} {value : Literal} {cause : FieldError}
    (present : value.isNull = false)
    (single : value.isList = false) :
    field.coerce value = .error cause ↔
      convert? field.kind value = none ∧ cause = .valueConversion field value := by
  cases value with
  | null | list _ => contradiction
  | bool _ | int _ | float _ | string _ =>
      simp only [coerce]
      split
      · next converts => simp [converts]
      · next fails => simp [fails, eq_comm]

/-- Of the accepted types only doubles can fail to be converted, and only to whole numbers. -/
theorem convert?_eq_none_iff
    {kind : FieldKind} {value : Literal}
    (accepted : kind.accepts value = true) :
    convert? kind value = none ↔
      kind = .long ∧ ∃ x, value = .float x ∧ Exact.exceedsLong x = true := by
  cases kind <;> cases value <;>
    simp [FieldKind.accepts, convert?, toLong?, toDouble?, toBoolean?, wholeOfFloat?_eq_none_iff]
      at accepted ⊢

/-- An element of an accepted type cannot be converted only if it is too large. -/
theorem coerce_eq_error_iff
    {field : Field} {value : Literal}
    (fine : ∀ other, ¬field.Offends value other)
    (cause : FieldError) :
    field.coerce value = .error cause ↔ field.Overflows value cause := by
  cases present : value.isNull with
  | true =>
      obtain rfl := Literal.eq_null_of_isNull present
      constructor
      · intro fails
        simp [coerce] at fails
      · intro overflows
        cases overflows
  | false =>
      have accepted : field.kind.accepts value = true := by
        by_contra rejected
        exact fine _ (.type present (by simpa using rejected))
      have single := FieldKind.isList_eq_false_of_accepts accepted
      rw [coerce_eq_error_iff_convert? present single, convert?_eq_none_iff accepted]
      constructor
      · rintro ⟨⟨isLong, x, rfl, exceeds⟩, rfl⟩
        exact .float isLong exceeds
      · rintro ⟨isLong, exceeds⟩
        exact ⟨⟨isLong, _, rfl, exceeds⟩, rfl⟩

/-! ## Faults of a value -/

/-- A list among the elements is refused like any other value of a wrong type. -/
theorem checkItems_eq (field : Field) (items : List Literal) :
    field.checkItems items = (items.mapM field.checkScalar).map fun _ => () := by
  induction items with
  | nil => rfl
  | cons item rest inductionHypothesis =>
      have asScalar : (if item.isList then .error (.invalidType field item)
          else field.checkScalar item) = field.checkScalar item := by
        cases item with
        | list items => simp [Literal.isList, checkScalar]
        | _ => rfl
      rw [checkItems, asScalar, inductionHypothesis, List.mapM_cons]
      cases field.checkScalar item with
      | error cause => rfl
      | ok _ => cases rest.mapM field.checkScalar <;> rfl

theorem coerceItems_eq (field : Field) (items : List Literal) :
    field.coerceItems items = items.mapM field.coerce := by
  induction items with
  | nil => simp [coerceItems, pure, Except.pure]
  | cons item rest inductionHypothesis =>
      rw [coerceItems, inductionHypothesis, List.mapM_cons]
      cases field.coerce item with
      | error cause => rfl
      | ok converted => cases rest.mapM field.coerce <;> rfl

/-- A list is converted element by element. -/
theorem coerce_list_eq_ok_iff {field : Field} {items : List Literal} {converted : Literal} :
    field.coerce (.list items) = .ok converted ↔
      ∃ others, List.Forall₂ (fun item other => field.coerce item = .ok other) items others ∧
        converted = .list others := by
  rw [coerce, coerceItems_eq]
  simp only [← mapM_eq_ok_iff_forall₂]
  cases items.mapM field.coerce <;> simp [eq_comm]

/-- A single value is checked like a list of one. -/
theorem check_eq (field : Field) (value : Literal) :
    field.check value = (value.elements.mapM field.checkScalar).map fun _ => () := by
  cases isList : value.isList with
  | true =>
      obtain ⟨items, rfl⟩ := Literal.eq_list_of_isList isList
      exact field.checkItems_eq items
  | false =>
      rw [Literal.elements_of_isList_eq_false isList, List.mapM_cons]
      have asScalar : field.check value = field.checkScalar value := by
        cases value with
        | list items => contradiction
        | _ => rfl
      rw [asScalar]
      cases field.checkScalar value <;> rfl

/-- A value is refused for the first of its elements that offends. -/
theorem check_eq_error_iff {field : Field} {value : Literal} {cause : FieldError} :
    field.check value = .error cause ↔ FirstFault field.Offends value.elements cause := by
  rw [check_eq, ← mapM_eq_error_iff_firstFault fun _ _ _ => checkScalar_eq_error_iff]
  cases value.elements.mapM field.checkScalar <;> simp [Except.map]

theorem check_eq_ok_iff {field : Field} {value : Literal} :
    field.check value = .ok () ↔ ∀ item ∈ value.elements, ∀ cause, ¬field.Offends item cause := by
  have passes : field.check value = .ok () ↔
      ∃ passed, value.elements.mapM field.checkScalar = .ok passed := by
    rw [check_eq]
    cases value.elements.mapM field.checkScalar <;> simp [Except.map]
  rw [passes, exists_mapM_eq_ok_iff]
  simp only [← checkScalar_eq_ok_iff]
  exact forall₂_congr fun item _ => ⟨fun ⟨_, passed⟩ => passed, fun passed => ⟨(), passed⟩⟩

/-- A single value is converted like a list of one. -/
theorem coerce_eq_error_iff_elements {field : Field} {value : Literal} {cause : FieldError} :
    field.coerce value = .error cause ↔ value.elements.mapM field.coerce = .error cause := by
  cases isList : value.isList with
  | true =>
      obtain ⟨items, rfl⟩ := Literal.eq_list_of_isList isList
      rw [coerce, coerceItems_eq, Literal.elements]
      cases items.mapM field.coerce <;> simp
  | false =>
      rw [Literal.elements_of_isList_eq_false isList, List.mapM_cons]
      cases field.coerce value <;> simp [bind, Except.bind, pure, Except.pure]

/-- What passes the check cannot be converted only because of an element that is too large. -/
theorem coerce_eq_error_iff_firstFault
    {field : Field} {value : Literal}
    (checked : field.check value = .ok ())
    (cause : FieldError) :
    field.coerce value = .error cause ↔ FirstFault field.Overflows value.elements cause := by
  rw [coerce_eq_error_iff_elements]
  apply mapM_eq_error_iff_firstFault
  intro item isItem cause
  exact coerce_eq_error_iff (check_eq_ok_iff.mp checked item isItem) cause

/-- A value that a field can be compared with, alone or in a list. -/
inductive Suits (field : Field) : Literal → Prop where
  | null : field.nullable = true → Suits field .null
  | scalar {value : Literal} : value.isNull = false → field.kind.accepts value = true →
      (∀ text, field.kind = .date → value = .string text → ∃ date, Date.read? text = some date) →
      (∀ x, field.kind = .long → value = .float x → Exact.exceedsLong x = false) →
        Suits field value

/-- A value suits if it neither offends nor overflows. -/
theorem suits_iff {field : Field} {value : Literal} :
    field.Suits value ↔
      (∀ cause, ¬field.Offends value cause) ∧ ∀ cause, ¬field.Overflows value cause := by
  constructor
  · intro suits
    cases suits with
    | null nullable =>
        refine ⟨fun cause offends => ?_, fun cause overflows => by cases overflows⟩
        cases offends with
        | null notNullable => simp [nullable] at notNullable
        | type present => contradiction
    | scalar present accepted isDate isLong =>
        constructor
        · intro cause offends
          cases offends with
          | null => contradiction
          | type _ rejected => simp [accepted] at rejected
          | date kind unread =>
              obtain ⟨date, isRead⟩ := isDate _ kind rfl
              simp [isRead] at unread
        · rintro cause ⟨kind, exceeds⟩
          simp [isLong _ kind rfl] at exceeds
  · rintro ⟨fine, small⟩
    cases present : value.isNull with
    | true =>
        obtain rfl := Literal.eq_null_of_isNull present
        apply Suits.null
        by_contra notNullable
        exact fine _ (.null (by simpa using notNullable))
    | false =>
        refine .scalar present ?_ ?_ ?_
        · by_contra rejected
          exact fine _ (.type present (by simpa using rejected))
        · rintro text kind rfl
          rw [← Option.isSome_iff_exists, ← Option.ne_none_iff_isSome]
          intro unread
          exact fine _ (.date kind unread)
        · rintro x kind rfl
          by_contra exceeds
          exact small _ (.float kind (by simpa using exceeds))

/-- What passes the check and can be converted consists of suitable elements. -/
theorem check_and_coerce_iff {field : Field} {value : Literal} :
    (field.check value = .ok () ∧ ∃ converted, field.coerce value = .ok converted) ↔
      ∀ item ∈ value.elements, field.Suits item := by
  have converts : (∃ converted, field.coerce value = .ok converted) ↔
      ∀ item ∈ value.elements, ∃ converted, field.coerce item = .ok converted := by
    rw [← exists_mapM_eq_ok_iff, exists_eq_ok_iff, exists_eq_ok_iff]
    simp only [ne_eq, coerce_eq_error_iff_elements]
  simp only [suits_iff, forall₂_and]
  rw [check_eq_ok_iff, converts]
  refine and_congr_right fun checked => forall₂_congr fun item isItem => ?_
  rw [exists_eq_ok_iff]
  simp only [ne_eq, coerce_eq_error_iff (checked item isItem)]

/-! ## Refusals -/

/-- Why the comparison of a field with a value is refused, in the order in which the reasons
count. -/
inductive Refused (field : Field) (operator : Operator) (value : Literal) : FieldError → Prop where
  | operator : operator ∉ field.kind.operators →
      Refused field operator value (.operatorNotAllowed field operator)
  | notNullable : operator ∈ field.kind.operators → value.isNull = true →
      field.nullable = false → Refused field operator value (.notNullable field)
  /-- Null can be equal or not, and nothing else. -/
  | null : operator ∈ field.kind.operators → value.isNull = true → field.nullable = true →
      operator ≠ .equal → operator ≠ .notEqual →
        Refused field operator value (.invalidType field value)
  /-- A list is given where a single value is asked for, or the reverse: a type that does not fit
  the operator, and worded like one that does not fit the field. -/
  | shape : operator ∈ field.kind.operators → value.isNull = false →
      operator.takesList ≠ value.isList →
        Refused field operator value (.invalidShape field operator value)
  | element {cause : FieldError} : operator ∈ field.kind.operators → value.isNull = false →
      operator.takesList = value.isList → FirstFault field.Offends value.elements cause →
        Refused field operator value cause
  | conversion {cause : FieldError} : operator ∈ field.kind.operators → value.isNull = false →
      operator.takesList = value.isList →
      (∀ item ∈ value.elements, ∀ other, ¬field.Offends item other) →
      FirstFault field.Overflows value.elements cause →
        Refused field operator value cause

/-- When the comparison of a field with a value is accepted. -/
inductive Accepts (field : Field) (operator : Operator) (value : Literal) : Prop where
  | null : operator ∈ field.kind.operators → value.isNull = true → field.nullable = true →
      operator = .equal ∨ operator = .notEqual → Accepts field operator value
  | value : operator ∈ field.kind.operators → value.isNull = false →
      operator.takesList = value.isList → (∀ item ∈ value.elements, field.Suits item) →
        Accepts field operator value

/-- Null is refused by fields that are never null, and by all comparisons but two. -/
theorem lookupNull_eq_error_iff {field : Field} {operator : Operator} {cause : FieldError} :
    field.lookupNull operator = .error cause ↔
      field.nullable = false ∧ cause = .notNullable field ∨
      field.nullable = true ∧ operator ≠ .equal ∧ operator ≠ .notEqual ∧
        cause = .invalidType field .null := by
  simp only [lookupNull, check, checkScalar]
  cases field.nullable <;> cases operator <;> simp [eq_comm]

/-- The shape is checked before the type, and the type before the value is converted. -/
theorem lookupValue_eq_error_iff
    {field : Field} {operator : Operator} {value : Literal} {cause : FieldError} :
    field.lookupValue operator value = .error cause ↔
      operator.takesList ≠ value.isList ∧ cause = .invalidShape field operator value ∨
      operator.takesList = value.isList ∧
        (field.check value = .error cause ∨
          field.check value = .ok () ∧ field.coerce value = .error cause) := by
  simp only [lookupValue]
  by_cases shape : operator.takesList = value.isList
  · cases field.check value with
    | error other => simp [shape]
    | ok _ => cases field.coerce value <;> simp [shape]
  · simp [shape, eq_comm]

theorem lookup_of_allowed
    {field : Field} {operator : Operator}
    (allowed : operator ∈ field.kind.operators)
    (value : Literal) :
    field.lookup operator value =
      if value.isNull then field.lookupNull operator else field.lookupValue operator value := by
  rw [lookup, if_neg (not_not_intro allowed)]

/-- The reasons for which a comparison is refused are those that it fails with. -/
theorem lookup_eq_error_iff
    {field : Field} {operator : Operator} {value : Literal} {cause : FieldError} :
    field.lookup operator value = .error cause ↔ field.Refused operator value cause := by
  constructor
  · intro fails
    by_cases allowed : operator ∈ field.kind.operators
    · rw [lookup_of_allowed allowed] at fails
      cases isNull : value.isNull with
      | true =>
          rw [isNull, if_pos rfl] at fails
          obtain rfl := Literal.eq_null_of_isNull isNull
          obtain ⟨notNullable, rfl⟩ | ⟨nullable, notEqual, notUnequal, rfl⟩ :=
            lookupNull_eq_error_iff.mp fails
          · exact .notNullable allowed isNull notNullable
          · exact .null allowed isNull nullable notEqual notUnequal
      | false =>
          rw [isNull, if_neg Bool.false_ne_true] at fails
          obtain ⟨shape, rfl⟩ | ⟨shape, unchecked | ⟨checked, uncoerced⟩⟩ :=
            lookupValue_eq_error_iff.mp fails
          · exact .shape allowed isNull shape
          · exact .element allowed isNull shape (check_eq_error_iff.mp unchecked)
          · exact .conversion allowed isNull shape (check_eq_ok_iff.mp checked)
              ((coerce_eq_error_iff_firstFault checked cause).mp uncoerced)
    · rw [lookup, if_pos allowed] at fails
      cases fails
      exact .operator allowed
  · intro refused
    cases refused with
    | operator notAllowed => simp [lookup, notAllowed]
    | notNullable allowed isNull notNullable =>
        rw [lookup_of_allowed allowed, if_pos isNull, lookupNull_eq_error_iff]
        exact .inl ⟨notNullable, rfl⟩
    | null allowed isNull nullable notEqual notUnequal =>
        rw [lookup_of_allowed allowed, if_pos isNull, lookupNull_eq_error_iff,
          Literal.eq_null_of_isNull isNull]
        exact .inr ⟨nullable, notEqual, notUnequal, rfl⟩
    | shape allowed present shape =>
        rw [lookup_of_allowed allowed, present, if_neg Bool.false_ne_true, lookupValue_eq_error_iff]
        exact .inl ⟨shape, rfl⟩
    | element allowed present shape first =>
        rw [lookup_of_allowed allowed, present, if_neg Bool.false_ne_true, lookupValue_eq_error_iff]
        exact .inr ⟨shape, .inl (check_eq_error_iff.mpr first)⟩
    | conversion allowed present shape fine first =>
        rw [lookup_of_allowed allowed, present, if_neg Bool.false_ne_true, lookupValue_eq_error_iff]
        have checked := check_eq_ok_iff.mpr fine
        exact .inr ⟨shape, .inr ⟨checked, (coerce_eq_error_iff_firstFault checked _).mpr first⟩⟩

/-- Nothing but what is listed is in the way of a comparison. -/
theorem exists_lookup_iff {field : Field} {operator : Operator} {value : Literal} :
    (∃ fragment, field.lookup operator value = .ok fragment) ↔ field.Accepts operator value := by
  constructor
  · rintro ⟨fragment, found⟩
    obtain ⟨allowed, ⟨isNull, ofNull⟩ | ⟨present, ofValue⟩⟩ := lookup_eq_ok_iff.mp found
    · obtain ⟨nullable, equality⟩ := lookupNull_eq_ok_iff.mp ofNull
      exact .null allowed isNull nullable (equality.imp And.left And.left)
    · obtain ⟨shape, checked, converted, coerced, _⟩ := lookupValue_eq_ok_iff.mp ofValue
      exact .value allowed present shape (check_and_coerce_iff.mp ⟨checked, converted, coerced⟩)
  · intro accepts
    cases accepts with
    | null allowed isNull nullable equality =>
        obtain rfl | rfl := equality
        · exact ⟨_, lookup_eq_ok_iff.mpr ⟨allowed, .inl ⟨isNull,
            lookupNull_eq_ok_iff.mpr ⟨nullable, .inl ⟨rfl, rfl⟩⟩⟩⟩⟩
        · exact ⟨_, lookup_eq_ok_iff.mpr ⟨allowed, .inl ⟨isNull,
            lookupNull_eq_ok_iff.mpr ⟨nullable, .inr ⟨rfl, rfl⟩⟩⟩⟩⟩
    | value allowed present shape suit =>
        obtain ⟨checked, converted, coerced⟩ := check_and_coerce_iff.mpr suit
        exact ⟨_, lookup_eq_ok_iff.mpr ⟨allowed, .inr ⟨present,
          lookupValue_eq_ok_iff.mpr ⟨shape, checked, converted, coerced, rfl⟩⟩⟩⟩

/-- What becomes of the comparison of a field with a value. It fails with the reason that counts
first and for no other, and succeeds exactly when there is none. Once a value has passed the check,
its conversion fails only for whole numbers, at the first double that is no 64-bit number. -/
theorem lookup_judges_in_order (field : Field) (operator : Operator) (value : Literal) :
    (∀ cause, field.lookup operator value = .error cause ↔ field.Refused operator value cause) ∧
    ((∃ fragment, field.lookup operator value = .ok fragment) ↔ field.Accepts operator value) ∧
    (field.check value = .ok () → ∀ cause,
      field.coerce value = .error cause ↔ FirstFault field.Overflows value.elements cause) :=
  ⟨fun _ => lookup_eq_error_iff, exists_lookup_iff, coerce_eq_error_iff_firstFault⟩

/-- A double that is too large counts only if nothing after it is of a wrong type. -/
theorem lookup_judges_in_order_sample :
    lookup (.ofKind "price" .long) .isIn (.list [.float 1e19, .string "x"]) =
      .error (.invalidType (.ofKind "price" .long) (.string "x")) ∧
    (check (.ofKind "price" .long) (.list [.int 1, .float 1e19]) = .ok () ∧
      coerce (.ofKind "price" .long) (.list [.int 1, .float 1e19]) =
        .error (.valueConversion (.ofKind "price" .long) (.float 1e19))) ∧
    ∃ fragment, lookup (.ofKind "price" .long) .less (.float 2.6) = .ok fragment := by
  have exceeds : Exact.exceedsLong 1e19 = true := by decide +kernel
  have within : Exact.exceedsLong 2.6 = false := by decide +kernel
  refine ⟨?_, ⟨rfl, ?_⟩, ?_⟩
  · apply ((lookup_judges_in_order _ _ _).1 _).mpr
    refine .element (by decide) rfl rfl ⟨[.float 1e19], .string "x", [], rfl, ?_, .type rfl rfl⟩
    intro earlier isEarlier
    obtain rfl := List.mem_singleton.mp isEarlier
    exact checkScalar_eq_ok_iff.mp rfl
  · apply ((lookup_judges_in_order _ .isIn _).2.2 rfl _).mpr
    refine ⟨[.int 1], .float 1e19, [], rfl, ?_, .float rfl exceeds⟩
    intro earlier isEarlier other overflows
    obtain rfl := List.mem_singleton.mp isEarlier
    cases overflows
  · apply (lookup_judges_in_order _ _ _).2.1.mpr
    refine .value (by decide) rfl rfl ?_
    intro item isItem
    obtain rfl := List.mem_singleton.mp isItem
    refine .scalar rfl rfl (fun _ isDate => by cases isDate) ?_
    rintro x _ isValue
    obtain rfl := Literal.float.inj isValue
    exact within

end Field
end FilterQuery
