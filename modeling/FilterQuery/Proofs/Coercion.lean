import FilterQuery.Proofs.Refusals

/-!
# Values in the type of a field

A field converts the scalars of a value one by one, at whatever depth they
stand. Main statement: a conversion fails with the first scalar that has no
counterpart in the type of the field; otherwise lists and null stay where they
are and everything else is of that type, and such values are exactly those that
a conversion does not change.
-/

namespace FilterQuery

/-- How lists and null are laid out in a value, whatever its other scalars are. -/
inductive Shape where
  | null
  | scalar
  | list (items : List Shape)

namespace FieldKind

/-- Whether a scalar is of the type that fields of a kind have. -/
def isNative : FieldKind → Literal → Bool
  | long, .int _ | float, .float _ | boolean, .bool _ => true
  | text, .string _ | keyword, .string _ | date, .string _ => true
  | _, _ => false

end FieldKind

/-! ## Scalars at any depth -/

namespace Literal

mutual
/-- A property of single values that lists inherit from their items is one of all values. -/
theorem item_induction {motive : Literal → Prop}
    (single : ∀ value : Literal, value.isList = false → motive value)
    (ofItems : ∀ items, (∀ item ∈ items, motive item) → motive (list items)) :
    (value : Literal) → motive value
  | list items => ofItems items (forall_mem_induction single ofItems items)
  | null => single null rfl
  | bool value => single (bool value) rfl
  | int value => single (int value) rfl
  | float value => single (float value) rfl
  | string value => single (string value) rfl

/-- By recursion on the list, together with the one on literals. -/
theorem forall_mem_induction {motive : Literal → Prop}
    (single : ∀ value : Literal, value.isList = false → motive value)
    (ofItems : ∀ items, (∀ item ∈ items, motive item) → motive (list items)) :
    (items : List Literal) → ∀ item ∈ items, motive item
  | [] => by simp
  | item :: rest =>
      List.forall_mem_cons.mpr
        ⟨item_induction single ofItems item, forall_mem_induction single ofItems rest⟩
end

mutual
/-- The shape of a value. -/
def shape : Literal → Shape
  | null => .null
  | list items => .list (shapes items)
  | _ => .scalar

/-- The shapes of items. -/
def shapes : List Literal → List Shape
  | [] => []
  | item :: rest => shape item :: shapes rest
end

mutual
/-- Whether all scalars in a value other than null are of the type that fields of a kind have. -/
def isNative (kind : FieldKind) : Literal → Bool
  | null => true
  | list items => areNative kind items
  | scalar => kind.isNative scalar

/-- Whether all scalars in items are so. -/
def areNative (kind : FieldKind) : List Literal → Bool
  | [] => true
  | item :: rest => isNative kind item && areNative kind rest
end

mutual
/-- The scalars in a value, from the left. -/
def scalars : Literal → List Literal
  | list items => itemScalars items
  | scalar => [scalar]

/-- The scalars in items, from the left. -/
def itemScalars : List Literal → List Literal
  | [] => []
  | item :: rest => scalars item ++ itemScalars rest
end

theorem shape_list (items : List Literal) : (list items).shape = .list (items.map shape) := by
  rw [shape]
  congr 1
  induction items with
  | nil => rfl
  | cons item rest inductionHypothesis => rw [shapes, inductionHypothesis, List.map_cons]

theorem isNative_list (kind : FieldKind) (items : List Literal) :
    (list items).isNative kind = items.all (isNative kind) := by
  rw [isNative]
  induction items with
  | nil => rfl
  | cons item rest inductionHypothesis => rw [areNative, inductionHypothesis, List.all_cons]

theorem scalars_list (items : List Literal) : (list items).scalars = items.flatMap scalars := by
  rw [scalars]
  induction items with
  | nil => rfl
  | cons item rest inductionHypothesis =>
      rw [itemScalars, inductionHypothesis, List.flatMap_cons]

theorem scalars_of_isList_eq_false {value : Literal} (single : value.isList = false) :
    value.scalars = [value] := by
  cases value with
  | list items => contradiction
  | _ => rfl

theorem isNative_of_isList_eq_false
    {value : Literal}
    (present : value.isNull = false)
    (single : value.isList = false)
    (kind : FieldKind) :
    value.isNative kind = kind.isNative value := by
  cases value with
  | null | list items => contradiction
  | _ => rfl

theorem shape_of_isList_eq_false
    {value : Literal}
    (present : value.isNull = false)
    (single : value.isList = false) :
    value.shape = .scalar := by
  cases value with
  | null | list items => contradiction
  | _ => rfl

end Literal

/-! ## Converting one scalar -/

namespace Field

variable {field : Field} {value converted : Literal}

/-- A converted scalar is of the type that fields of the kind have. -/
theorem isNative_of_convert?
    {kind : FieldKind}
    (converts : convert? kind value = some converted) :
    kind.isNative converted = true := by
  cases kind with
  | long =>
      obtain ⟨number, rfl⟩ := eq_int_of_toLong? converts
      rfl
  | float =>
      obtain ⟨number, rfl⟩ := eq_float_of_toDouble? converts
      rfl
  | boolean =>
      obtain ⟨flag, rfl⟩ := eq_bool_of_toBoolean? converts
      rfl
  | text | keyword | date =>
      obtain rfl := Option.some.inj converts
      rfl

/-- A scalar of that type is converted to itself. -/
theorem convert?_of_isNative
    {kind : FieldKind}
    (native : kind.isNative value = true) :
    convert? kind value = some value := by
  cases kind with
  | long =>
      cases value with
      | int number => rfl
      | _ => contradiction
  | float =>
      cases value with
      | float number => rfl
      | _ => contradiction
  | boolean =>
      cases value with
      | bool flag => rfl
      | _ => contradiction
  | text | keyword | date =>
      cases value with
      | string characters => rfl
      | _ => contradiction

/-- Why a scalar cannot be converted. -/
inductive Inconvertible (field : Field) : Literal → FieldError → Prop where
  | intro {value : Literal} : value.isNull = false → convert? field.kind value = none →
      Inconvertible field value (.valueConversion field value)

/-! ## Converting a value -/

/-- A scalar is refused for exactly the reasons that are listed. -/
theorem coerce_eq_error_iff_inconvertible
    {scalar : Literal} {cause : FieldError}
    (single : scalar.isList = false) :
    field.coerce scalar = .error cause ↔ field.Inconvertible scalar cause := by
  cases present : scalar.isNull with
  | true =>
      obtain rfl := Literal.eq_null_of_isNull present
      constructor
      · intro fails
        simp [coerce] at fails
      · rintro ⟨notNull⟩
        contradiction
  | false =>
      rw [coerce_eq_error_iff_convert? present single]
      constructor
      · rintro ⟨fails, rfl⟩
        exact .intro present fails
      · rintro ⟨_, fails⟩
        exact ⟨fails, rfl⟩

/-- A list fails with what the scalars in its items fail with, one after the other. -/
theorem mapM_scalars_eq_error_iff
    {items : List Literal}
    (agree : ∀ item ∈ items, ∀ cause,
      item.scalars.mapM field.coerce = .error cause ↔ field.coerce item = .error cause)
    (cause : FieldError) :
    (items.flatMap Literal.scalars).mapM field.coerce = .error cause ↔
      items.mapM field.coerce = .error cause := by
  induction items with
  | nil => rfl
  | cons item rest inductionHypothesis =>
      obtain ⟨itemAgrees, restAgrees⟩ := List.forall_mem_cons.mp agree
      have restFails := inductionHypothesis restAgrees
      rw [List.flatMap_cons, List.mapM_append, List.mapM_cons]
      cases itemFails : field.coerce item with
      | error reason =>
          rw [(itemAgrees reason).mpr itemFails]
          rfl
      | ok converted =>
          obtain ⟨found, areFound⟩ : ∃ found, item.scalars.mapM field.coerce = .ok found := by
            rw [exists_eq_ok_iff]
            intro reason fails
            simp [(itemAgrees reason).mp fails] at itemFails
          -- Neither side has failed at this item, so the rest decides.
          have decides {α β : Type} (outcome : Except FieldError α) (told : α → β) :
              (outcome >>= fun value => pure (told value)) = .error cause ↔
                outcome = .error cause := by
            cases outcome <;> simp [bind, Except.bind, pure, Except.pure]
          rw [areFound]
          exact (decides _ _).trans (restFails.trans (decides _ _).symm)

/-- A nested list is refused for the first of its scalars that is. -/
theorem mapM_scalars_eq_error_iff_coerce (field : Field) (value : Literal) :
    ∀ cause, value.scalars.mapM field.coerce = .error cause ↔
      field.coerce value = .error cause := by
  induction value using Literal.item_induction with
  | single value single =>
      intro cause
      rw [Literal.scalars_of_isList_eq_false single, List.mapM_cons]
      cases field.coerce value <;> simp [bind, Except.bind, pure, Except.pure]
  | ofItems items inItems =>
      intro cause
      rw [Literal.scalars_list, mapM_scalars_eq_error_iff inItems, coerce_eq_error_iff_elements]
      rfl

theorem isList_of_mem_scalars
    {scalar : Literal}
    (member : scalar ∈ value.scalars) :
    scalar.isList = false := by
  induction value using Literal.item_induction with
  | single value single =>
      rw [Literal.scalars_of_isList_eq_false single, List.mem_singleton] at member
      rwa [member]
  | ofItems items inItems =>
      rw [Literal.scalars_list] at member
      obtain ⟨item, isItem, inItem⟩ := List.mem_flatMap.mp member
      exact inItems item isItem inItem

/-- A conversion fails with the first scalar that cannot be converted. -/
theorem coerce_eq_error_iff_scalars {cause : FieldError} :
    field.coerce value = .error cause ↔
      FirstFault field.Inconvertible value.scalars cause := by
  rw [← mapM_scalars_eq_error_iff_coerce]
  apply mapM_eq_error_iff_firstFault
  intro scalar member other
  exact coerce_eq_error_iff_inconvertible (isList_of_mem_scalars member)

/-- A conversion keeps lists and null where they are. -/
theorem shape_eq_of_coerce (coerced : field.coerce value = .ok converted) :
    converted.shape = value.shape := by
  induction value using Literal.item_induction generalizing converted with
  | single value single =>
      obtain ⟨sameNull, sameList⟩ := shape_of_coerce coerced
      rw [single] at sameList
      cases present : value.isNull with
      | true =>
          rw [present] at sameNull
          rw [Literal.eq_null_of_isNull sameNull, Literal.eq_null_of_isNull present]
      | false =>
          rw [present] at sameNull
          rw [Literal.shape_of_isList_eq_false sameNull sameList,
            Literal.shape_of_isList_eq_false present single]
  | ofItems items inItems =>
      obtain ⟨others, areCoerced, rfl⟩ := coerce_list_eq_ok_iff.mp coerced
      rw [Literal.shape_list, Literal.shape_list,
        map_eq_of_mapM_eq_ok (mapM_eq_ok_iff_forall₂.mpr areCoerced) inItems]

/-- What is converted is of the type of the field. -/
theorem isNative_of_coerce (coerced : field.coerce value = .ok converted) :
    converted.isNative field.kind = true := by
  induction value using Literal.item_induction generalizing converted with
  | single value single =>
      cases present : value.isNull with
      | true =>
          obtain rfl := Literal.eq_null_of_isNull present
          obtain rfl : .null = converted := Except.ok.inj coerced
          rfl
      | false =>
          obtain ⟨sameNull, sameList⟩ := shape_of_coerce coerced
          rw [Literal.isNative_of_isList_eq_false (sameNull.trans present) (sameList.trans single)]
          exact isNative_of_convert? ((coerce_eq_ok_iff_convert? present single).mp coerced)
  | ofItems items inItems =>
      obtain ⟨others, areCoerced, rfl⟩ := coerce_list_eq_ok_iff.mp coerced
      rw [Literal.isNative_list, List.all_eq_true]
      intro other isOther
      obtain ⟨item, isItem, isCoerced⟩ :=
        exists_mem_of_mapM_eq_ok (mapM_eq_ok_iff_forall₂.mpr areCoerced) isOther
      exact inItems item isItem isCoerced

/-- What is of the type of the field is converted to itself. -/
theorem coerce_of_isNative (native : value.isNative field.kind = true) :
    field.coerce value = .ok value := by
  induction value using Literal.item_induction with
  | single value single =>
      cases present : value.isNull with
      | true =>
          obtain rfl := Literal.eq_null_of_isNull present
          rfl
      | false =>
          rw [Literal.isNative_of_isList_eq_false present single] at native
          exact (coerce_eq_ok_iff_convert? present single).mpr (convert?_of_isNative native)
  | ofItems items inItems =>
      rw [Literal.isNative_list, List.all_eq_true] at native
      refine coerce_list_eq_ok_iff.mpr ⟨items, ?_, rfl⟩
      rw [List.forall₂_same]
      exact fun item isItem => inItems item isItem (native item isItem)

/-- A conversion is a projection onto the values of the field's own type. It fails with the first
scalar that cannot be converted and for no other reason; what it gives has lists and null at the
same places, only scalars of that type beside them, and is not changed by a second conversion. A
list is converted item by item, when all its items can be. The values that are not changed are all
those of the field's own type. -/
theorem coerce_projects_to_native (field : Field) :
    (∀ value cause, field.coerce value = .error cause ↔
      FirstFault field.Inconvertible value.scalars cause) ∧
    (∀ value converted, field.coerce value = .ok converted →
      converted.shape = value.shape ∧ converted.isNative field.kind = true ∧
        field.coerce converted = .ok converted) ∧
    (∀ items, (∃ converted, field.coerce (.list items) = .ok converted) ↔
      ∀ item ∈ items, ∃ other, field.coerce item = .ok other) ∧
    (∀ items converted, field.coerce (.list items) = .ok converted ↔
      ∃ others, List.Forall₂ (fun item other => field.coerce item = .ok other) items others ∧
        converted = .list others) ∧
    ∀ value, field.coerce value = .ok value ↔ value.isNative field.kind = true := by
  refine ⟨fun _ _ => coerce_eq_error_iff_scalars, fun value converted coerced => ?_,
    fun items => ?_, fun _ _ => coerce_list_eq_ok_iff,
    fun value => ⟨isNative_of_coerce, coerce_of_isNative⟩⟩
  · have native := isNative_of_coerce coerced
    exact ⟨shape_eq_of_coerce coerced, native, coerce_of_isNative native⟩
  · rw [← exists_mapM_eq_ok_iff, exists_eq_ok_iff, exists_eq_ok_iff]
    simp only [ne_eq, coerce_eq_error_iff_elements, Literal.elements]

end Field

namespace Sample

/-- A nested list of values that stand for whole numbers in different ways. -/
def numbers : Literal :=
  .list [.bool true, .null, .list [.string " -7 ", .int 3], .list []]

/-- The same list with a value after it that stands for none. -/
def words : Literal :=
  .list [numbers, .list [.null, .string "seven"], .string "eight"]

end Sample

namespace Field

/-- Null and the empty list stay; the first word decides although it stands deeper than the
second. -/
theorem coerce_projects_to_native_sample :
    (∃ converted, coerce (.ofKind "price" .long) Sample.numbers = .ok converted ∧
      converted.shape = .list [.scalar, .null, .list [.scalar, .scalar], .list []] ∧
      converted.isNative .long = true ∧
      coerce (.ofKind "price" .long) converted = .ok converted) ∧
    coerce (.ofKind "price" .long) Sample.words =
      .error (.valueConversion (.ofKind "price" .long) (.string "seven")) := by
  obtain ⟨fails, converts, _⟩ := coerce_projects_to_native (.ofKind "price" .long)
  constructor
  · obtain ⟨sameShape, native, again⟩ := converts Sample.numbers _ rfl
    exact ⟨_, rfl, sameShape, native, again⟩
  · apply (fails Sample.words _).mpr
    refine ⟨Sample.numbers.scalars ++ [.null], .string "seven", [.string "eight"], rfl, ?_,
      .intro rfl rfl⟩
    have fine : ∀ earlier ∈ Sample.numbers.scalars ++ [.null],
        earlier.isNull = true ∨ convert? .long earlier ≠ none := by
      decide
    rintro earlier isEarlier other ⟨present, inconvertible⟩
    rcases fine earlier isEarlier with isNull | convertible
    · simp [present] at isNull
    · exact convertible inconvertible

end Field
end FilterQuery
