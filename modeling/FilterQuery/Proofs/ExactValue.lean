import FilterQuery.Proofs.Finiteness

/-!
# The rational numbers behind doubles

A double unpacks into a sign, a mantissa and an exponent, and these name a
rational number. The exact value that is read off the bits is this number.
-/

namespace FilterQuery
namespace Exact

open Float.Model (UnpackedFloat Format totalExponent)
open Float.Model.UnpackedFloat

/-! ## The number of an unpacked double -/

/-- The rational number that an unpacked double stands for. -/
def rational? : UnpackedFloat → Option ℚ
  | .zero _ => some 0
  | .finite sign mantissa exponent _ => some (sign.apply mantissa * (2 : ℚ) ^ exponent)
  | _ => none

/-- Attaching a sign to an unpacked double attaches it to its number. -/
theorem rational?_finite
    (negative : Bool) {mantissa : Nat} {exponent : Int} (positive : 0 < mantissa) :
    rational? (.finite (if negative then .negative else .positive) mantissa exponent positive) =
      some (if negative then -(mantissa * (2 : ℚ) ^ exponent)
        else mantissa * (2 : ℚ) ^ exponent) := by
  cases negative <;> simp [rational?, UnpackedFloat.Sign.apply]

theorem fractionBits_eq (x : Float) :
    fractionBits x = (@unpackMantissa .binary64 x.toModel.toBits.toBitVec).toNat := by
  simp [fractionBits, unpackMantissa, exponentUnit, Float.toBits]

/-- The sign bit is the one that unpacking reads. -/
theorem ofBitVec_unpackSign (x : Float) :
    UnpackedFloat.Sign.ofBitVec (@unpackSign .binary64 x.toModel.toBits.toBitVec) =
      if isNegative x then .negative else .positive := by
  have bits := x.toModel.toBits.toNat_lt
  have negative : isNegative x = true ↔ 9223372036854775808 ≤ x.toModel.toBits.toNat :=
    decide_eq_true_iff
  have isSign : (@unpackSign .binary64 x.toModel.toBits.toBitVec).toNat =
      x.toModel.toBits.toNat / 9223372036854775808 := by
    simp [unpackSign, Nat.shiftRight_eq_div_pow]
    omega
  simp only [UnpackedFloat.Sign.ofBitVec, negative, ← BitVec.toNat_inj, isSign,
    BitVec.toNat_ofNat, Nat.zero_mod]
  by_cases isLarge : 9223372036854775808 ≤ x.toModel.toBits.toNat
  · rw [if_neg (by omega), if_pos isLarge]
  · rw [if_pos (by omega), if_neg isLarge]

/-- The absolute value of a double, with the scale in one power of two. -/
theorem magnitude_eq (x : Float) :
    magnitude x =
      ((if exponentBits x = 0 then fractionBits x else exponentUnit + fractionBits x : Nat) : ℚ) *
        (2 : ℚ) ^ ((max (exponentBits x) 1 : Nat) - 1075 : ℤ) := by
  simp only [magnitude, Nat.pow_eq]
  generalize (if exponentBits x = 0 then fractionBits x else exponentUnit + fractionBits x) = units
  generalize max (exponentBits x) 1 = scale
  split
  · next large =>
      have isScale : (scale : ℤ) - 1075 = (scale - 1075 : Nat) := by omega
      rw [isScale, zpow_natCast, Rat.mkRat_one]
      norm_cast
  · next small =>
      have isScale : (scale : ℤ) - 1075 = -((1075 - scale : Nat) : ℤ) := by omega
      rw [isScale, zpow_neg, zpow_natCast, Rat.mkRat_eq_div, div_eq_mul_inv]
      norm_cast

/-- The leading bit of a mantissa, which is not stored. -/
theorem toNat_one_append (fraction : BitVec 52) :
    (1#1 ++ fraction).toNat = exponentUnit + fraction.toNat := by
  rw [BitVec.toNat_append, ← Nat.shiftLeft_add_eq_or_of_lt fraction.isLt]
  rfl

/-- The exact value of a double is the number that it unpacks into. -/
theorem value?_eq_rational? (x : Float) : value? x = rational? x.toModel.unpack := by
  simp only [value?, isFinite, Float.Model.unpack, unpack, ofBitVec_unpackSign, magnitude_eq,
    fractionBits_eq, exponentBits_eq]
  by_cases isTop : @unpackExponent .binary64 x.toModel.toBits.toBitVec = -1#11
  · rw [if_neg (by simp [isTop]), if_pos isTop]
    split <;> rfl
  -- Below the topmost exponent it remains whether the leading bit of the mantissa is implied.
  have finite : (@unpackExponent .binary64 x.toModel.toBits.toBitVec).toNat ≠ 2047 :=
    fun isLast => isTop (BitVec.eq_of_toNat_eq isLast)
  rw [if_pos (by simpa using finite), if_neg isTop]
  by_cases isZero : @unpackExponent .binary64 x.toModel.toBits.toBitVec = 0#11
  · rw [if_pos isZero]
    by_cases isNull : @unpackMantissa .binary64 x.toModel.toBits.toBitVec = 0#52
    · rw [dif_pos isNull]
      simp [isZero, isNull, rational?]
    · rw [dif_neg isNull, rational?_finite]
      simp [isZero, Format.exponentBias]
  · have stored : (@unpackExponent .binary64 x.toModel.toBits.toBitVec).toNat ≠ 0 :=
      fun none => isZero (BitVec.eq_of_toNat_eq none)
    rw [if_neg isZero, rational?_finite, toNat_one_append, if_neg stored,
      Nat.max_eq_left (Nat.pos_of_ne_zero stored)]
    rfl

/-! ## Dropping the fraction -/

/-- Dropping the fraction rounds toward zero. -/
theorem truncate_eq (value : ℚ) :
    truncate value = if 0 ≤ value then ⌊value⌋ else ⌈value⌉ := by
  unfold truncate
  split
  · next nonnegative =>
      rw [Int.tdiv_eq_ediv_of_nonneg (Rat.num_nonneg.mpr nonnegative), Rat.floor_def']
  · next negative =>
      have isNegated : value.num = -(-value).num := by simp
      have opposite : 0 ≤ (-value).num := Rat.num_nonneg.mpr (by linarith)
      rw [isNegated, Int.neg_tdiv, Int.tdiv_eq_ediv_of_nonneg opposite, ← Rat.neg_den,
        ← Rat.floor_def', Int.floor_neg, neg_neg]

/-- A number within whole bounds stays there without its fraction. -/
theorem truncate_mem {low high : ℤ} {value : ℚ}
    (positive : 0 < high)
    (atLeast : low ≤ value)
    (below : value < high) :
    low ≤ truncate value ∧ truncate value < high := by
  rw [truncate_eq]
  split
  · exact ⟨Int.le_floor.mpr atLeast, Int.floor_lt.mpr below⟩
  · next negative =>
      have above : (low : ℚ) ≤ ⌈value⌉ := atLeast.trans (Int.le_ceil value)
      have atMost : ⌈value⌉ ≤ 0 := Int.ceil_le.mpr (by simpa using le_of_not_ge negative)
      exact ⟨by exact_mod_cast above, by omega⟩

end Exact
end FilterQuery
