import FilterQuery.Proofs.WholeNumbers

/-!
# Whole numbers compared with doubles

A field of whole numbers is compared with a double as if the double had no
fraction. Main statement: this makes a difference for at most one whole number,
the double without its fraction, and there it depends on the operator and on the
sign of the double whether it does.
-/

namespace FilterQuery

namespace Exact

/-- A number without its fraction. -/
def towardZero (value : ℚ) : ℤ :=
  if 0 ≤ value then ⌊value⌋ else ⌈value⌉

theorem exists_eq_cast_iff {value : ℚ} : (∃ whole : ℤ, value = whole) ↔ ⌈value⌉ = ⌊value⌋ := by
  constructor
  · rintro ⟨whole, rfl⟩
    rw [Int.ceil_intCast, Int.floor_intCast]
  · intro same
    refine ⟨⌊value⌋, le_antisymm ?_ (Int.floor_le value)⟩
    rw [← same]
    exact Int.le_ceil value

end Exact

/-! ## What an operator says of two numbers -/

namespace Operator

/-- What an operator says of two numbers, where it is one of equality or order. -/
def relation? : Operator → Option (ℚ → ℚ → Prop)
  | equal => some fun left right => left = right
  | greater => some fun left right => left > right
  | greaterOrEqual => some fun left right => left ≥ right
  | less => some fun left right => left < right
  | lessOrEqual => some fun left right => left ≤ right
  | _ => none

/-- Whether an operator says the same of the whole number `towardZero value` and a value as of this
whole number and itself. -/
def IgnoresFraction (operator : Operator) (value : ℚ) : Prop :=
  (∃ whole : ℤ, value = whole) ∨
    (0 < value ∧ (operator = greater ∨ operator = lessOrEqual)) ∨
    (value < 0 ∧ (operator = greaterOrEqual ∨ operator = less))

theorem ignoresFraction_iff {operator : Operator} {value : ℚ} :
    operator.IgnoresFraction value ↔
      ⌈value⌉ = ⌊value⌋ ∨
        (0 < ⌈value⌉ ∧ (operator = greater ∨ operator = lessOrEqual)) ∨
        (⌊value⌋ < 0 ∧ (operator = greaterOrEqual ∨ operator = less)) := by
  rw [IgnoresFraction, Exact.exists_eq_cast_iff, Int.ceil_pos, Int.floor_lt, Int.cast_zero]

/-- Dropping a fraction changes what an operator says of at most one whole number. -/
theorem relation_towardZero_iff
    {operator : Operator} {relation : ℚ → ℚ → Prop}
    (relates : operator.relation? = some relation)
    (number : ℤ) (value : ℚ) :
    (relation number (Exact.towardZero value) ↔ relation number value) ↔
      number ≠ Exact.towardZero value ∨ operator.IgnoresFraction value := by
  have ordered : ⌊value⌋ ≤ ⌈value⌉ := Int.floor_le_ceil value
  have near : ⌈value⌉ ≤ ⌊value⌋ + 1 := Int.ceil_le_floor_add_one value
  have isTowardZero : Exact.towardZero value = if 0 ≤ ⌊value⌋ then ⌊value⌋ else ⌈value⌉ := by
    simp only [Exact.towardZero, Int.floor_nonneg]
  rw [ignoresFraction_iff]
  -- To a whole number a value stands as one of the two whole numbers around it does.
  cases operator with
  | equal =>
      cases relates
      have isEqual : (number : ℚ) = value ↔ number ≤ ⌊value⌋ ∧ ⌈value⌉ ≤ number := by
        rw [Int.le_floor, Int.ceil_le, le_antisymm_iff]
      simp only [isEqual, Int.cast_inj, reduceCtorEq, or_self, and_false, or_false]
      omega
  | greater =>
      cases relates
      simp only [gt_iff_lt, reduceCtorEq, or_false, and_true, or_self, and_false]
      rw [Int.cast_lt, ← Int.floor_lt]
      omega
  | greaterOrEqual =>
      cases relates
      simp only [ge_iff_le, reduceCtorEq, or_false, and_true, or_self, and_false, false_or]
      rw [Int.cast_le, ← Int.ceil_le]
      omega
  | less =>
      cases relates
      simp only [reduceCtorEq, false_or, and_true, or_self, and_false]
      rw [Int.cast_lt, ← Int.lt_ceil]
      omega
  | lessOrEqual =>
      cases relates
      simp only [reduceCtorEq, or_false, false_or, and_true, or_self, and_false]
      rw [Int.cast_le, ← Int.le_floor]
      omega
  | _ => contradiction

theorem mem_orderOperators_of_relation?
    {operator : Operator} {relation : ℚ → ℚ → Prop}
    (relates : operator.relation? = some relation) :
    operator ∈ FieldKind.orderOperators ∧ operator.takesList = false := by
  cases operator <;> cases relates <;> exact ⟨by decide, rfl⟩

end Operator

/-! ## Conditions on whole numbers -/

/-- Whether a number lies beyond a bound. -/
def Bound.Admits (limit number : ℤ) : Bound → Prop
  | greater => limit < number
  | greaterOrEqual => limit ≤ number
  | less => number < limit
  | lessOrEqual => number ≤ limit

namespace Leaf

/-- The whole number in a condition. -/
def limit? : Leaf → Option ℤ
  | equals _ (.int limit) => some limit
  | range _ _ (.int limit) => some limit
  | _ => none

/-- Whether a condition holds of a document that has a whole number in the field. -/
def Admits (number : ℤ) : Leaf → Prop
  | equals _ (.int limit) => number = limit
  | range _ bound (.int limit) => bound.Admits limit number
  | _ => False

end Leaf

/-- The fragment of a comparison with a whole number is a condition that says what the operator
does. -/
theorem Fragment.ofComparison_int
    {operator : Operator} {relation : ℚ → ℚ → Prop}
    (relates : operator.relation? = some relation)
    (name : String) (limit : Int64) :
    ∃ condition, ofComparison name operator (.int limit) = ⟨.leaf condition, false⟩ ∧
      condition.field = name ∧ condition.limit? = some limit.toInt ∧
      ∀ number : ℤ, condition.Admits number ↔ relation number limit.toInt := by
  cases operator <;> cases relates <;> refine ⟨_, rfl, rfl, rfl, fun number => ?_⟩
  · exact Int.cast_inj.symm
  · exact Int.cast_lt.symm
  · exact Int.cast_le.symm
  · exact Int.cast_lt.symm
  · exact Int.cast_le.symm

namespace Field

/-- A double that can be converted is compared as a whole number. -/
theorem lookup_float_of_whole
    {field : Field} {operator : Operator} {x : Float} {number : Int64}
    (isLong : field.kind = .long)
    (allowed : operator ∈ FieldKind.orderOperators)
    (single : operator.takesList = false)
    (isWhole : wholeOfFloat? x = some number) :
    field.lookup operator (.float x) = .ok (.ofComparison field.name operator (.int number)) := by
  have isAccepted : field.check (.float x) = .ok () := by
    simp [check, checkScalar, isLong, FieldKind.accepts]
  have converts : field.coerce (.float x) = .ok (.int number) := by
    rw [coerce_eq_ok_iff_convert? rfl rfl, isLong, convert?, toLong?, isWhole]
    rfl
  have isAllowed : operator ∈ field.kind.operators := by
    rw [isLong]
    exact allowed
  refine lookup_eq_ok_iff.mpr ⟨isAllowed, .inr ⟨rfl, ?_⟩⟩
  exact lookupValue_eq_ok_iff.mpr ⟨single, isAccepted, _, converts, rfl⟩

theorem wholeOfFloat?_of_inRange
    {x : Float} {exact : ℚ}
    (isExact : Exact.rational? x.toModel.unpack = some exact)
    (low : -2 ^ 63 ≤ exact)
    (high : exact < 2 ^ 63) :
    ∃ number, wholeOfFloat? x = some number ∧ number.toInt = Exact.towardZero exact := by
  cases isWhole : wholeOfFloat? x with
  | none =>
      rcases wholeOfFloat?_eq_none_iff_rational?.mp isWhole exact isExact with below | above
      · exact absurd low (not_le.mpr below)
      · exact absurd high (not_lt.mpr above)
  | some number =>
      obtain ⟨other, isOther, -, -, isTruncated⟩ := wholeOfFloat?_eq_some_iff.mp isWhole
      obtain rfl := Option.some.inj (isExact.symm.trans isOther)
      exact ⟨number, rfl, isTruncated⟩

/-- A field of whole numbers is compared with a double in range by a condition with a whole number
in it. For every number but one the condition holds exactly if the comparison with the double does;
for the double without its fraction it does so exactly if there is no fraction, the double is
positive and the operator is `>` or `<=`, or it is negative and the operator is `>=` or `<`. -/
theorem lookup_float_exact_but_at_one
    {field : Field} {operator : Operator} {relation : ℚ → ℚ → Prop} {x : Float} {exact : ℚ}
    (isLong : field.kind = .long)
    (relates : operator.relation? = some relation)
    (isExact : Exact.rational? x.toModel.unpack = some exact)
    (low : -2 ^ 63 ≤ exact)
    (high : exact < 2 ^ 63) :
    ∃ condition limit,
      field.lookup operator (.float x) = .ok ⟨.leaf condition, false⟩ ∧
      condition.field = field.name ∧ condition.limit? = some limit ∧
      (∀ number : ℤ, condition.Admits number ↔ relation number limit) ∧
      (∀ number : ℤ, number ≠ Exact.towardZero exact →
        (relation number limit ↔ relation number exact)) ∧
      ((relation (Exact.towardZero exact) limit ↔ relation (Exact.towardZero exact) exact) ↔
        (∃ whole : ℤ, exact = whole) ∨
          (0 < exact ∧ (operator = .greater ∨ operator = .lessOrEqual)) ∨
          (exact < 0 ∧ (operator = .greaterOrEqual ∨ operator = .less))) := by
  obtain ⟨number, isWhole, isTruncated⟩ := wholeOfFloat?_of_inRange isExact low high
  obtain ⟨allowed, single⟩ := Operator.mem_orderOperators_of_relation? relates
  obtain ⟨condition, isCondition, sameField, isLimit, admits⟩ :=
    Fragment.ofComparison_int relates field.name number
  rw [isTruncated] at isLimit admits
  refine ⟨condition, _, ?_, sameField, isLimit, admits, fun other different => ?_, ?_⟩
  · rw [lookup_float_of_whole isLong allowed single isWhole, isCondition]
  · exact (Operator.relation_towardZero_iff relates other exact).mpr (.inl different)
  · rw [Operator.relation_towardZero_iff relates]
    exact or_iff_right (not_not.mpr rfl)

/-- Of the numbers that are compared with 2.6 only 2 is misjudged, which passes for at least 2.6. -/
theorem lookup_float_exact_but_at_one_sample :
    ∃ condition limit,
      Exact.rational? (Float.ofBits 0x4004CCCCCCCCCCCD).toModel.unpack =
        some (5854679515581645 / 2 ^ 51) ∧
      lookup (.ofKind "price" .long) .greaterOrEqual (.float (Float.ofBits 0x4004CCCCCCCCCCCD)) =
        .ok ⟨.leaf condition, false⟩ ∧
      condition.limit? = some limit ∧
      condition.Admits 2 ∧ ¬ (2 : ℚ) ≥ 5854679515581645 / 2 ^ 51 ∧
      ∀ number : ℤ, number ≠ 2 →
        (condition.Admits number ↔ (number : ℚ) ≥ 5854679515581645 / 2 ^ 51) := by
  have isExact : Exact.rational? (Float.ofBits 0x4004CCCCCCCCCCCD).toModel.unpack =
      some (5854679515581645 / 2 ^ 51) := by
    have unpacked : (Float.ofBits 0x4004CCCCCCCCCCCD).toModel.unpack =
        .finite .positive 5854679515581645 (-51) (by decide) := rfl
    rw [unpacked]
    norm_num [Exact.rational?, Float.Model.UnpackedFloat.Sign.apply]
  have isTwo : Exact.towardZero (5854679515581645 / 2 ^ 51) = 2 := by
    norm_num [Exact.towardZero]
  obtain ⟨condition, limit, isFragment, -, isLimit, admits, agrees, misjudges⟩ :=
    @lookup_float_exact_but_at_one (.ofKind "price" .long) .greaterOrEqual _ _ _ rfl rfl isExact
      (by norm_num) (by norm_num)
  rw [isTwo] at agrees misjudges
  have isLarger : ¬ (2 : ℚ) ≥ 5854679515581645 / 2 ^ 51 := by norm_num
  refine ⟨condition, limit, isExact, isFragment, isLimit, ?_, isLarger, ?_⟩
  · by_contra refused
    rw [admits] at refused
    -- A comparison that is refused on both sides is judged rightly, which this one is not.
    rcases misjudges.mp (iff_of_false refused isLarger) with
      isWhole | ⟨-, isOther⟩ | ⟨isNegative, -⟩
    · rw [Exact.exists_eq_cast_iff, Int.ceil_eq_iff] at isWhole
      norm_num at isWhole
    · rcases isOther with isOther | isOther <;> cases isOther
    · norm_num at isNegative
  · intro number different
    rw [admits, agrees number different]

end Field
end FilterQuery
