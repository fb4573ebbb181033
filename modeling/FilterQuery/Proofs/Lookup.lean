import FilterQuery.Field.Lookup

/-!
# Comparisons that are accepted

What the comparison of a field with a value needs in order to give a fragment,
and which fragment that is. The later theory of comparisons rests on the three
equivalences of this module and does not look into the checks again.
-/

namespace FilterQuery

namespace Literal

theorem eq_null_of_isNull {value : Literal} (isNull : value.isNull = true) : value = .null := by
  cases value <;> simp_all [Literal.isNull]

end Literal

namespace Field

/-! ## Conversion keeps the shape of a value -/

/-- What is converted to a whole number is one. -/
theorem eq_int_of_toLong?
    {value converted : Literal}
    (converts : toLong? value = some converted) :
    ∃ number, converted = .int number := by
  cases value with
  | null | list _ => simp [toLong?] at converts
  | int number =>
      simp only [toLong?, Option.some.injEq] at converts
      exact ⟨number, converts.symm⟩
  | bool flag =>
      simp only [toLong?, Option.some.injEq] at converts
      exact ⟨_, converts.symm⟩
  | float _ | string _ =>
      rw [toLong?, Option.map_eq_some_iff] at converts
      obtain ⟨number, _, same⟩ := converts
      exact ⟨number, same.symm⟩

/-- What is converted to a double is one. -/
theorem eq_float_of_toDouble?
    {value converted : Literal}
    (converts : toDouble? value = some converted) :
    ∃ number, converted = .float number := by
  cases value with
  | null | list _ => simp [toDouble?] at converts
  | int _ | float _ | bool _ =>
      simp only [toDouble?, Option.some.injEq] at converts
      exact ⟨_, converts.symm⟩
  | string _ =>
      rw [toDouble?, Option.map_eq_some_iff] at converts
      obtain ⟨number, _, same⟩ := converts
      exact ⟨number, same.symm⟩

/-- What is converted to a truth value is one. -/
theorem eq_bool_of_toBoolean?
    {value converted : Literal}
    (converts : toBoolean? value = some converted) :
    ∃ flag, converted = .bool flag := by
  have fromChoice {first second : Prop} [Decidable first] [Decidable second] {high low : Bool}
      (chosen : (if first then some (.bool high) else if second then some (.bool low) else none) =
        some converted) : ∃ flag, converted = .bool flag := by
    split at chosen
    · exact ⟨high, (Option.some.inj chosen).symm⟩
    · split at chosen
      · exact ⟨low, (Option.some.inj chosen).symm⟩
      · contradiction
  cases value with
  | null | float _ | list _ => simp [toBoolean?] at converts
  | bool flag =>
      simp only [toBoolean?, Option.some.injEq] at converts
      exact ⟨flag, converts.symm⟩
  | int _ => exact fromChoice converts
  | string _ => exact fromChoice converts

/-- A converted scalar is neither null nor a list. -/
theorem isScalar_of_convert?
    {kind : FieldKind} {value converted : Literal}
    (converts : convert? kind value = some converted) :
    converted.isNull = false ∧ converted.isList = false := by
  cases kind with
  | long =>
      obtain ⟨number, rfl⟩ := eq_int_of_toLong? converts
      exact ⟨rfl, rfl⟩
  | float =>
      obtain ⟨number, rfl⟩ := eq_float_of_toDouble? converts
      exact ⟨rfl, rfl⟩
  | boolean =>
      obtain ⟨flag, rfl⟩ := eq_bool_of_toBoolean? converts
      exact ⟨rfl, rfl⟩
  | text | keyword | date =>
      obtain rfl := Option.some.inj converts
      exact ⟨rfl, rfl⟩

/-- A conversion gives null for null and a list for a list, and neither for anything else. -/
theorem shape_of_coerce
    {field : Field} {value converted : Literal}
    (converts : field.coerce value = .ok converted) :
    converted.isNull = value.isNull ∧ converted.isList = value.isList := by
  cases value with
  | null =>
      simp only [coerce, Except.ok.injEq] at converts
      subst converts
      exact ⟨rfl, rfl⟩
  | list items =>
      simp only [coerce] at converts
      cases outcome : field.coerceItems items with
      | error cause => simp [outcome] at converts
      | ok others =>
          simp only [outcome, Except.ok.injEq] at converts
          subst converts
          exact ⟨rfl, rfl⟩
  | bool _ | int _ | float _ | string _ =>
      simp only [coerce] at converts
      split at converts
      · next found =>
          simp only [Except.ok.injEq] at converts
          subst converts
          exact isScalar_of_convert? found
      · simp at converts

/-- A scalar other than null is converted by the kind of the field. -/
theorem coerce_eq_ok_iff_convert?
    {field : Field} {value converted : Literal}
    (present : value.isNull = false)
    (single : value.isList = false) :
    field.coerce value = .ok converted ↔ convert? field.kind value = some converted := by
  cases value with
  | null | list _ => contradiction
  | bool _ | int _ | float _ | string _ =>
      simp only [coerce]
      split
      · next found => simp [found]
      · next fails => simp [fails]

/-! ## When a comparison gives a fragment -/

/-- A comparison with null gives a fragment for a nullable field and an equality. -/
theorem lookupNull_eq_ok_iff {field : Field} {operator : Operator} {fragment : Fragment} :
    field.lookupNull operator = .ok fragment ↔
      field.nullable = true ∧
        (operator = .equal ∧ fragment = .ofAbsence field.name true ∨
          operator = .notEqual ∧ fragment = .ofAbsence field.name false) := by
  simp only [lookupNull, check, checkScalar]
  cases field.nullable <;> cases operator <;> simp [eq_comm]

/-- A comparison with a value gives a fragment when the value has the shape that the operator asks
for, passes the check and can be converted. -/
theorem lookupValue_eq_ok_iff
    {field : Field} {operator : Operator} {value : Literal} {fragment : Fragment} :
    field.lookupValue operator value = .ok fragment ↔
      operator.takesList = value.isList ∧ field.check value = .ok () ∧
        ∃ converted, field.coerce value = .ok converted ∧
          fragment = .ofComparison field.name operator converted := by
  simp only [lookupValue]
  by_cases shape : operator.takesList = value.isList
  · cases checked : field.check value with
    | error cause => simp [shape]
    | ok _ =>
        cases coerced : field.coerce value with
        | error cause => simp [shape]
        | ok converted => simp [shape, eq_comm]
  · simp [shape]

/-- When the comparison of a field with a value gives a fragment, and which one. -/
theorem lookup_eq_ok_iff
    {field : Field} {operator : Operator} {value : Literal} {fragment : Fragment} :
    field.lookup operator value = .ok fragment ↔
      operator ∈ field.kind.operators ∧
        (value.isNull = true ∧ field.lookupNull operator = .ok fragment ∨
          value.isNull = false ∧ field.lookupValue operator value = .ok fragment) := by
  simp only [lookup]
  by_cases allowed : operator ∈ field.kind.operators
  · cases null : value.isNull <;> simp [allowed]
  · simp [allowed]

end Field
end FilterQuery
