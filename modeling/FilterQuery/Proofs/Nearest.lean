import FilterQuery.Proofs.ExactValue

/-!
# The nearest double

A whole number that has the topmost of 64 bits is rounded to a double by
dropping its last eleven bits. Main statement: no double is nearer to it, and
where another one is equally near, the mantissa of the chosen one is even.
-/

namespace FilterQuery
namespace Exact

open Float.Model (UnpackedFloat Format totalExponent)
open Float.Model.UnpackedFloat

/-! ## Counting in units -/

/-- Rounding a number to units: to the nearer neighbour, and at half a unit to the even one. -/
inductive RoundsTo (unit number : Nat) : Nat → Prop where
  | down :
      2 * (number % unit) ≤ unit →
      (2 * (number % unit) = unit → number / unit % 2 = 0) →
      RoundsTo unit number (number / unit)
  | up :
      unit ≤ 2 * (number % unit) →
      (2 * (number % unit) = unit → (number / unit + 1) % 2 = 0) →
      RoundsTo unit number (number / unit + 1)

/-- What an extended mantissa knows of a number: how many units there are in it, and how what is
left compares with nothing and with half a unit. -/
structure Summarizes (extended : ExtendedMantissa) (number unit : Nat) : Prop where
  mantissa : extended.mantissa = number / unit
  roundBit : extended.roundBit = true ↔ unit ≤ 2 * (number % unit)
  stickyBit : extended.stickyBit = true ↔ number % unit ≠ 0 ∧ 2 * (number % unit) ≠ unit

theorem summarizes_exact (number : Nat) :
    Summarizes (ExtendedMantissa.ofMantissaAndAccuracy number .exact) number 1 := by
  constructor <;> simp [ExtendedMantissa.ofMantissaAndAccuracy, Nat.mod_one]

/-- Shifting by one bit doubles the unit. -/
theorem Summarizes.shiftRightOne
    {extended : ExtendedMantissa} {number unit : Nat}
    (summary : Summarizes extended number unit)
    (positive : 0 < unit) :
    Summarizes extended.shiftRightOne number (unit * 2) := by
  obtain ⟨isMantissa, isRound, isSticky⟩ := summary
  have left := Nat.mod_lt number positive
  have leftLater := Nat.mod_mul (x := number) (a := unit) (b := 2)
  have lastBit : extended.mantissa % 2 = number / unit % 2 := by rw [isMantissa]
  constructor
  · rw [ExtendedMantissa.shiftRightOne, isMantissa, Nat.div_div_eq_div_mul]
  · simp only [ExtendedMantissa.shiftRightOne, bne_iff_ne, ne_eq, lastBit, leftLater]
    rcases Nat.mod_two_eq_zero_or_one (number / unit) with isEven | isOdd
    · rw [isEven]
      omega
    · rw [isOdd]
      omega
  · simp only [ExtendedMantissa.shiftRightOne, Bool.or_eq_true, isRound, isSticky, leftLater]
    rcases Nat.mod_two_eq_zero_or_one (number / unit) with isEven | isOdd
    · rw [isEven]
      omega
    · rw [isOdd]
      omega

theorem summarizes_shiftRight (number amount : Nat) :
    Summarizes (ExtendedMantissa.ofMantissaAndAccuracy number .exact >>> amount) number
      (2 ^ amount) := by
  induction amount with
  | zero => exact summarizes_exact number
  | succ amount inductionHypothesis =>
      rw [Nat.pow_succ]
      exact inductionHypothesis.shiftRightOne (Nat.two_pow_pos amount)

/-- The bits that were shifted out are enough to round to nearest. -/
theorem Summarizes.roundsTo
    {extended : ExtendedMantissa} {number unit : Nat}
    (summary : Summarizes extended number unit) :
    RoundsTo unit number extended.roundedMantissa := by
  obtain ⟨whole, round, sticky⟩ := extended
  obtain ⟨rfl, isRound, isSticky⟩ := summary
  simp only at isRound isSticky
  cases round with
  | false =>
      have same : (ExtendedMantissa.mk (number / unit) false sticky).roundedMantissa =
          number / unit := by
        cases sticky <;> rfl
      rw [same]
      apply RoundsTo.down <;> grind
  | true =>
      cases sticky with
      | true => apply RoundsTo.up <;> grind
      | false =>
          -- Half a unit is left, so that the even one of the two neighbours is taken.
          have tie : (ExtendedMantissa.mk (number / unit) true false).roundedMantissa =
              number / unit + number / unit % 2 := rfl
          rw [tie]
          rcases Nat.mod_two_eq_zero_or_one (number / unit) with isEven | isOdd
          · rw [isEven]
            apply RoundsTo.down <;> grind
          · rw [isOdd]
            apply RoundsTo.up <;> grind

/-- Counting both in smaller units changes nothing. -/
theorem RoundsTo.of_mul
    {unit number count factor : Nat}
    (rounds : RoundsTo (unit * factor) (number * factor) count)
    (positive : 0 < factor) :
    RoundsTo unit number count := by
  have half : 2 * (number % unit * factor) = 2 * (number % unit) * factor :=
    (Nat.mul_assoc _ _ _).symm
  generalize isUnit : unit * factor = larger at rounds
  generalize isNumber : number * factor = magnified at rounds
  cases rounds with
  | down atMost even =>
      subst isUnit isNumber
      rw [Nat.mul_mod_mul_right, half] at atMost even
      rw [Nat.mul_div_mul_right _ _ positive] at even ⊢
      exact .down (Nat.le_of_mul_le_mul_right atMost positive) fun tie => even (by rw [tie])
  | up atLeast even =>
      subst isUnit isNumber
      rw [Nat.mul_mod_mul_right, half] at atLeast even
      rw [Nat.mul_div_mul_right _ _ positive] at even ⊢
      exact .up (Nat.le_of_mul_le_mul_right atLeast positive) fun tie => even (by rw [tie])

/-- What is not strictly between the two neighbours of a number is no nearer than the chosen one. -/
theorem RoundsTo.distance_le
    {unit number count : Nat} {other : ℚ}
    (rounds : RoundsTo unit number count)
    (positive : 0 < unit)
    (outside : other ≤ (unit * (number / unit) : Nat) ∨
      (unit * (number / unit) + unit : Nat) ≤ other) :
    |(unit * count : Nat) - (number : ℚ)| ≤ |other - number| ∧
      (other ≠ (unit * count : Nat) →
        |other - number| = |(unit * count : Nat) - (number : ℚ)| → count % 2 = 0) := by
  have parts : (number : ℚ) = (unit * (number / unit) : Nat) + (number % unit : Nat) := by
    exact_mod_cast (Nat.div_add_mod number unit).symm
  have left : ((number % unit : Nat) : ℚ) < unit := by exact_mod_cast Nat.mod_lt number positive
  have nonnegative : (0 : ℚ) ≤ (number % unit : Nat) := Nat.cast_nonneg _
  rw [Nat.cast_add] at outside
  have distance : |other - number| =
      if other ≤ (unit * (number / unit) : Nat) then number - other else other - number := by
    split
    · rw [abs_of_nonpos (by linarith), neg_sub]
    · exact abs_of_nonneg (by rcases outside with below | above <;> linarith)
  cases rounds with
  | down atMost even =>
      have half : (2 : ℚ) * (number % unit : Nat) ≤ unit := by exact_mod_cast atMost
      have chosen : |((unit * (number / unit) : Nat) : ℚ) - number| = (number % unit : Nat) := by
        rw [abs_of_nonpos (by linarith)]
        linarith
      rw [chosen, distance]
      constructor
      · split <;> rcases outside with below | above <;> linarith
      · intro different tie
        apply even
        have isHalf : (2 : ℚ) * (number % unit : Nat) = unit := by
          split at tie
          · exact absurd (by linarith) different
          · rcases outside with below | above <;> linarith
        exact_mod_cast isHalf
  | up atLeast even =>
      have half : (unit : ℚ) ≤ 2 * (number % unit : Nat) := by exact_mod_cast atLeast
      have isNext : ((unit * (number / unit + 1) : Nat) : ℚ) =
          (unit * (number / unit) : Nat) + unit := by
        rw [Nat.mul_succ, Nat.cast_add]
      have chosen : |((unit * (number / unit + 1) : Nat) : ℚ) - number| =
          unit - (number % unit : Nat) := by
        rw [isNext, abs_of_nonneg (by linarith)]
        linarith
      rw [chosen, distance, isNext]
      constructor
      · split <;> rcases outside with below | above <;> linarith
      · intro different tie
        apply even
        have isHalf : (2 : ℚ) * (number % unit : Nat) = unit := by
          split at tie
          · linarith
          · rcases outside with below | above
            · linarith
            · exact absurd (by linarith) different
        exact_mod_cast isHalf

/-! ## Rounding wide mantissas -/

theorem le_roundedMantissa (extended : ExtendedMantissa) :
    extended.mantissa ≤ extended.roundedMantissa := by
  obtain ⟨mantissa, round, sticky⟩ := extended
  cases round <;> cases sticky <;>
    simp only [ExtendedMantissa.roundedMantissa, ExtendedMantissa.accuracy,
      Accuracy.roundToNearestEven] <;>
    omega

/-- Of a mantissa that is wide enough the 53 leading bits are kept. -/
theorem shiftToTargetExponent_eq
    {mantissa : Nat} {exponent : Int}
    (wide : 52 ≤ mantissa.log2)
    (low : -1022 ≤ mantissa.log2 + exponent) :
    shiftToTargetExponent .binary64 mantissa exponent .exact =
      (ExtendedMantissa.ofMantissaAndAccuracy mantissa .exact >>> (mantissa.log2 - 52),
        mantissa.log2 + exponent - 52) := by
  have amount : (Format.binary64.targetExponent (totalExponent mantissa exponent) -
      exponent).toNat = mantissa.log2 - 52 := by
    simp only [Format.targetExponent, totalExponent, Format.mantissaBits, Format.minExponent]
    omega
  simp only [shiftToTargetExponent, shiftToExponent, amount, Prod.mk.injEq, true_and]
  omega

/-- A full mantissa and an exponent that stand for `count` times `2 ^ scale`. -/
structure Carries (count : Nat) (scale : Int) (mantissa : Nat) (exponent : Int) : Prop where
  full : mantissa.log2 = 52
  atLeast : scale ≤ exponent
  atMost : exponent ≤ scale + 1
  value : (mantissa : ℚ) * 2 ^ exponent = count * 2 ^ scale
  even : count % 2 = 0 → mantissa % 2 = 0

/-- A count that got too wide by rounding has a last bit of zero, which is dropped. -/
theorem carries_shiftToTargetExponent
    {count : Nat} {scale : Int}
    (atLeast : 4503599627370496 ≤ count)
    (atMost : count ≤ 9007199254740992)
    (low : -1074 ≤ scale) :
    Carries count scale (shiftToTargetExponent .binary64 count scale .exact).1.mantissa
      (shiftToTargetExponent .binary64 count scale .exact).2 := by
  rcases Nat.lt_or_eq_of_le atMost with narrow | rfl
  · have full : count.log2 = 52 := (Nat.log2_eq_iff (by omega)).mpr ⟨atLeast, narrow⟩
    rw [shiftToTargetExponent_eq (by omega) (by omega), mantissa_shiftRight, full]
    simp only [ExtendedMantissa.ofMantissaAndAccuracy, Nat.sub_self, Nat.pow_zero, Nat.div_one]
    exact ⟨full, by omega, by omega, by norm_num, id⟩
  · have isLog : Nat.log2 9007199254740992 = 53 := (Nat.log2_eq_iff (by omega)).mpr (by omega)
    rw [shiftToTargetExponent_eq (by omega) (by omega), mantissa_shiftRight, isLog]
    simp only [ExtendedMantissa.ofMantissaAndAccuracy]
    refine ⟨(Nat.log2_eq_iff (by omega)).mpr (by omega), by omega, by omega, ?_, by omega⟩
    have lifted : ((53 : ℕ) : ℤ) + scale - 52 = scale + 1 := by omega
    rw [lifted, zpow_add_one₀ (by norm_num)]
    norm_num
    ring

/-- A wide mantissa is rounded to nearest. -/
theorem exists_roundWithAccuracy
    {mantissa : Nat} {exponent : Int}
    (wide : 52 ≤ mantissa.log2)
    (low : -1022 ≤ mantissa.log2 + exponent) :
    ∃ count rounded shifted, ∃ positive : 0 < rounded,
      roundWithAccuracy .binary64 .positive mantissa exponent .exact =
        .finite .positive rounded shifted positive ∧
      RoundsTo (2 ^ (mantissa.log2 - 52)) mantissa count ∧
      Carries count (mantissa.log2 + exponent - 52) rounded shifted := by
  let kept := ExtendedMantissa.ofMantissaAndAccuracy mantissa .exact >>> (mantissa.log2 - 52)
  have full : kept.mantissa.log2 = 52 := by
    rw [mantissa_shiftRight, Nat.log2_eq_log_two, Nat.log_div_base_pow, ← Nat.log2_eq_log_two]
    simp only [ExtendedMantissa.ofMantissaAndAccuracy]
    omega
  have nonzero : kept.mantissa ≠ 0 := by
    intro isZero
    simp [isZero] at full
  obtain ⟨bitSet, noMoreBits⟩ := (Nat.log2_eq_iff nonzero).mp full
  have notLess := le_roundedMantissa kept
  have littleMore := roundedMantissa_le kept
  have carries := @carries_shiftToTargetExponent kept.roundedMantissa
    (mantissa.log2 + exponent - 52) (by omega) (by omega) (by omega)
  have positive : 0 < (shiftToTargetExponent .binary64 kept.roundedMantissa
      (mantissa.log2 + exponent - 52) .exact).1.mantissa := by
    apply Nat.pos_of_ne_zero
    intro isZero
    have isFull := carries.full
    simp [isZero] at isFull
  refine ⟨kept.roundedMantissa, _, _, positive, ?_,
    (summarizes_shiftRight mantissa _).roundsTo, carries⟩
  rw [roundWithAccuracy, shiftToTargetExponent_eq wide low]
  exact dif_neg positive.ne'

/-! ## Packing -/

theorem unpackSign_packComponents
    (sign : UnpackedFloat.Sign) (exponent : BitVec 11) (fraction : BitVec 52) :
    UnpackedFloat.Sign.ofBitVec (unpackSign (packComponents .binary64 sign exponent fraction)) =
      sign := by
  simp only [unpackSign, packComponents, BitVec.extractLsb]
  rw [BitVec.extractLsb'_append_eq_of_le (by omega), BitVec.extractLsb'_append_eq_of_le (by omega)]
  cases sign <;> rfl

/-- A stored exponent that is neither the lowest nor the topmost one implies the leading bit. -/
theorem unpack_packComponents
    (exponent : BitVec 11) (fraction : BitVec 52)
    (notLowest : 0 < exponent.toNat)
    (notTopmost : exponent.toNat < 2047) :
    ∃ positive, unpack .binary64 (packComponents .binary64 .positive exponent fraction) =
      .finite .positive (exponentUnit + fraction.toNat) (exponent.toNat - 1075) positive := by
  have notTop : exponent ≠ -1#11 := fun isTop => by simp [isTop] at notTopmost
  have notZero : exponent ≠ 0#11 := fun isZero => by simp [isZero] at notLowest
  refine ⟨Nat.add_pos_left (by decide) _, ?_⟩
  simp only [unpack, unpackExponent_packComponents, unpackMantissa_packComponents,
    unpackSign_packComponents]
  rw [if_neg notTop, if_neg notZero]
  simp only [toNat_one_append]
  rfl

/-- Packing loses nothing of a full mantissa in range. -/
theorem unpack_pack_of_full
    {mantissa : Nat} {exponent : Int} {positive : 0 < mantissa}
    (full : mantissa.log2 = 52)
    (low : -1074 ≤ exponent)
    (high : exponent ≤ 971) :
    (Float.Model.pack (.finite .positive mantissa exponent positive)).unpack =
      .finite .positive mantissa exponent positive := by
  have fits : ¬2048 ≤ (exponent + 1075).toNat + 1 := by omega
  have stored := toNat_storedExponent high
  obtain ⟨leading, narrow⟩ := (Nat.log2_eq_iff positive.ne').mp full
  simp only [Float.Model.pack, Float.Model.unpack, pack, biasedExponent_eq]
  rw [if_neg fits, if_pos (by rw [full]; rfl)]
  obtain ⟨_, unpacked⟩ := unpack_packComponents (.ofNat 11 (exponent + 1075).toNat)
    (.ofNat 52 mantissa) (by omega) (by omega)
  rw [unpacked]
  congr 1
  · rw [BitVec.toNat_ofNat, exponentUnit]
    omega
  · omega

/-- The last bit of a mantissa is the last fraction bit. -/
theorem fractionBits_mod_two
    {x : Float} {sign : UnpackedFloat.Sign} {mantissa : Nat} {exponent : Int}
    {positive : 0 < mantissa}
    (unpacked : x.toModel.unpack = .finite sign mantissa exponent positive) :
    fractionBits x % 2 = mantissa % 2 := by
  rw [fractionBits_eq]
  simp only [Float.Model.unpack, unpack] at unpacked
  split at unpacked
  · split at unpacked <;> contradiction
  · split at unpacked
    · split at unpacked
      · contradiction
      · injection unpacked with _ isMantissa
        rw [← isMantissa]
    · injection unpacked with _ isMantissa
      rw [← isMantissa, toNat_one_append, exponentUnit]
      omega

/-! ## Neighbours -/

/-- A double that is large enough is a whole number of units. -/
theorem exists_multiple_of_le
    {x : Float} {exact : ℚ} {scale : Int}
    (isExact : value? x = some exact)
    (large : (2 : ℚ) ^ (scale + 52) ≤ exact) :
    ∃ count : Int, exact = count * 2 ^ scale := by
  rw [value?_eq_rational?] at isExact
  cases unpacked : x.toModel.unpack with
  | finite sign mantissa exponent positive =>
      rw [unpacked] at isExact
      obtain rfl := Option.some.inj isExact
      have atMost : (sign.apply mantissa : ℚ) < 2 ^ (53 : ℤ) := by
        have narrow : (mantissa : ℚ) < 2 ^ (53 : ℤ) := by
          exact_mod_cast mantissa_lt_of_unpack unpacked
        cases sign with
        | positive => simpa [UnpackedFloat.Sign.apply] using narrow
        | negative =>
            have nonnegative : (0 : ℚ) ≤ mantissa := Nat.cast_nonneg mantissa
            simp only [UnpackedFloat.Sign.apply, Int.cast_neg, Int.cast_natCast]
            linarith [zpow_pos (show (0 : ℚ) < 2 by norm_num) 53]
      have notLess : scale ≤ exponent := by
        have below : (2 : ℚ) ^ (scale + 52) < 2 ^ (53 + exponent) := by
          rw [zpow_add₀ (by norm_num : (2 : ℚ) ≠ 0) 53 exponent]
          exact large.trans_lt (by gcongr)
        have compared := (zpow_lt_zpow_iff_right₀ (by norm_num : (1 : ℚ) < 2)).mp below
        omega
      obtain ⟨more, rfl⟩ := Int.le.dest notLess
      refine ⟨sign.apply mantissa * 2 ^ more, ?_⟩
      rw [zpow_add₀ (by norm_num), zpow_natCast]
      push_cast
      ring
  | zero sign =>
      rw [unpacked] at isExact
      obtain rfl := Option.some.inj isExact
      exact ⟨0, by simp⟩
  | infinity sign | notANumber =>
      rw [unpacked] at isExact
      contradiction

/-- No double lies strictly between two neighbouring counts of units. -/
theorem le_or_le_of_value?
    {x : Float} {exact : ℚ} {scale number : Nat}
    (isExact : value? x = some exact)
    (large : 2 ^ (scale + 52) ≤ number) :
    exact ≤ (2 ^ scale * (number / 2 ^ scale) : Nat) ∨
      (2 ^ scale * (number / 2 ^ scale) + 2 ^ scale : Nat) ≤ exact := by
  rw [or_iff_not_imp_left, not_le]
  intro above
  have leading : 2 ^ (scale + 52) ≤ 2 ^ scale * (number / 2 ^ scale) := by
    rw [pow_add]
    apply Nat.mul_le_mul_left
    rwa [Nat.le_div_iff_mul_le (Nat.two_pow_pos scale), mul_comm, ← pow_add]
  have leadingExact : (2 : ℚ) ^ ((scale : ℤ) + 52) ≤ exact := by
    have atLeast : (2 : ℚ) ^ (scale + 52) ≤ (2 ^ scale * (number / 2 ^ scale) : Nat) := by
      exact_mod_cast leading
    exact_mod_cast atLeast.trans above.le
  obtain ⟨count, rfl⟩ := exists_multiple_of_le isExact leadingExact
  have unitPositive : (0 : ℚ) < 2 ^ scale := by positivity
  rw [zpow_natCast] at above ⊢
  push_cast at above ⊢
  have more : ((number / 2 ^ scale : Nat) : ℚ) < count := by
    rw [mul_comm] at above
    exact lt_of_mul_lt_mul_right above unitPositive.le
  have next : ((number / 2 ^ scale : Nat) : ℚ) + 1 ≤ count := by
    rw [← Int.cast_natCast, Int.cast_lt] at more
    have compared : (((number / 2 ^ scale : Nat) + 1 : ℤ) : ℚ) ≤ count :=
      Int.cast_le.mpr (Int.add_one_le_iff.mpr more)
    rwa [Int.cast_add, Int.cast_natCast, Int.cast_one] at compared
  calc (2 : ℚ) ^ scale * (number / 2 ^ scale : Nat) + 2 ^ scale
      = ((number / 2 ^ scale : Nat) + 1) * 2 ^ scale := by ring
    _ ≤ count * 2 ^ scale := by gcongr

/-- No double is nearer to a number, and where another one is equally near, the last bit is zero. -/
def IsNearest (x : Float) (number : ℚ) : Prop :=
  ∃ exact, value? x = some exact ∧
    ∀ other otherExact, value? other = some otherExact →
      |exact - number| ≤ |otherExact - number| ∧
        (otherExact ≠ exact → |otherExact - number| = |exact - number| → fractionBits x % 2 = 0)

/-- Rounding is to nearest where all nearby doubles are whole numbers of units. -/
theorem isNearest_of_roundsTo
    {x : Float} {scale number count mantissa : Nat} {exponent : Int} {positive : 0 < mantissa}
    (unpacked : x.toModel.unpack = .finite .positive mantissa exponent positive)
    (rounds : RoundsTo (2 ^ scale) number count)
    (carries : Carries count scale mantissa exponent)
    (large : 2 ^ (scale + 52) ≤ number) :
    IsNearest x number := by
  have isExact : value? x = some ((2 ^ scale * count : Nat) : ℚ) := by
    rw [value?_eq_rational?, unpacked, rational?]
    simp only [UnpackedFloat.Sign.apply, Int.cast_natCast, carries.value, zpow_natCast]
    push_cast
    rw [mul_comm]
  refine ⟨_, isExact, ?_⟩
  intro other otherExact isOther
  obtain ⟨nearer, even⟩ :=
    rounds.distance_le (Nat.two_pow_pos scale) (le_or_le_of_value? isOther large)
  refine ⟨nearer, fun different tie => ?_⟩
  rw [fractionBits_mod_two unpacked]
  exact carries.even (even different tie)

/-! ## Whole numbers of 64 bits -/

/-- A whole number with the topmost of 64 bits is rounded in one step. -/
theorem ofScientific_eq_round
    {number : Nat}
    (large : number.log2 = 63) :
    UnpackedFloat.ofScientific .binary64 number 0 =
      roundWithAccuracy .binary64 .positive (number <<< 53) (-53) .exact := by
  have nonzero : number ≠ 0 := by
    rintro rfl
    simp at large
  simp only [UnpackedFloat.ofScientific]
  rw [dif_neg nonzero, if_neg (by decide), if_neg (by omega), if_pos (by decide)]
  simp only [mul, Int.toNat_zero, Nat.pow_zero, Nat.mul_one, Int.add_zero]
  rfl

/-- The double of a whole number with the topmost of 64 bits: its last eleven bits are rounded. -/
theorem exists_unpack_ofInt
    {number : Nat}
    (large : number.log2 = 63) :
    ∃ count mantissa exponent, ∃ positive : 0 < mantissa,
      (Float.ofInt number).toModel.unpack = .finite .positive mantissa exponent positive ∧
      RoundsTo (2 ^ 11) number count ∧ Carries count 11 mantissa exponent := by
  have nonzero : number ≠ 0 := by
    rintro rfl
    simp at large
  have atLeast := ((Nat.log2_eq_iff nonzero).mp large).1
  have isModel : (Float.ofInt number).toModel = Float.Model.ofScientific number 0 := by
    simp only [Float.ofInt, Float.ofNat, OfScientific.ofScientific, Float.ofScientific]
    rw [dif_neg (by omega)]
    rfl
  have shifted : (number <<< 53).log2 = 116 := by
    rw [log2_shiftLeft nonzero, large]
  obtain ⟨count, mantissa, exponent, positive, isRounded, rounds, carries⟩ :=
    @exists_roundWithAccuracy (number <<< 53) (-53) (by omega) (by omega)
  rw [shifted] at rounds carries
  have high := carries.atMost
  have low := carries.atLeast
  refine ⟨count, mantissa, exponent, positive, ?_, ?_, carries⟩
  · rw [isModel, Float.Model.ofScientific, ofScientific_eq_round large, isRounded]
    exact unpack_pack_of_full carries.full (by omega) (by omega)
  · rw [Nat.shiftLeft_eq] at rounds
    have smaller : 2 ^ (116 - 52) = 2 ^ 11 * 2 ^ 53 := by norm_num
    rw [smaller] at rounds
    exact rounds.of_mul (Nat.two_pow_pos 53)

theorem isNearest_ofInt
    {value : Int}
    (large : 9223372036854775808 ≤ value)
    (inRange : value < 18446744073709551616) :
    IsNearest (Float.ofInt value) value := by
  obtain ⟨number, rfl⟩ := Int.eq_ofNat_of_zero_le (show 0 ≤ value by omega)
  have isLarge : number.log2 = 63 := (Nat.log2_eq_iff (by omega)).mpr (by omega)
  obtain ⟨count, mantissa, exponent, positive, unpacked, rounds, carries⟩ :=
    exists_unpack_ofInt isLarge
  exact_mod_cast isNearest_of_roundsTo unpacked rounds carries (by omega)

/-- The double of a whole number with the topmost of 64 bits is no smaller than that bit. -/
theorem rational?_ofInt_of_large
    {value : Int}
    (large : 9223372036854775808 ≤ value)
    (inRange : value < 18446744073709551616) :
    ∃ exact, rational? (Float.ofInt value).toModel.unpack = some exact ∧
      (9223372036854775808 : ℚ) ≤ exact := by
  obtain ⟨number, rfl⟩ := Int.eq_ofNat_of_zero_le (show 0 ≤ value by omega)
  have isLarge : number.log2 = 63 := (Nat.log2_eq_iff (by omega)).mpr (by omega)
  obtain ⟨count, mantissa, exponent, positive, unpacked, -, carries⟩ :=
    exists_unpack_ofInt isLarge
  refine ⟨_, by rw [unpacked, rational?], ?_⟩
  have leading : (2 : ℚ) ^ (52 : ℤ) ≤ mantissa := by
    have bit := ((Nat.log2_eq_iff positive.ne').mp carries.full).1
    exact_mod_cast bit
  calc (9223372036854775808 : ℚ)
      = 2 ^ (52 : ℤ) * 2 ^ (11 : ℤ) := by norm_num
    _ ≤ mantissa * 2 ^ exponent :=
        mul_le_mul leading (zpow_le_zpow_right₀ (by norm_num) carries.atLeast) (by positivity)
          (by positivity)

end Exact
end FilterQuery
