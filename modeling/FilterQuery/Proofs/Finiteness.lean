import FilterQuery.Expression.Basic
import Mathlib

/-!
# Finite doubles

A whole number of at most 64 bits is rounded to a finite double. The exponent
of a number says how large it can be; rounding lifts it by little more than the
width of the mantissa, and packing keeps it as long as it is not the topmost
one. None of the bounds is tight. Literals and expressions are finite when all
doubles in them are.
-/

namespace FilterQuery
namespace Exact

open Float.Model (UnpackedFloat Format totalExponent)
open Float.Model.UnpackedFloat

/-! ## The width of mantissas -/

theorem log2_mono {small large : Nat} (atMost : small ≤ large) : small.log2 ≤ large.log2 := by
  rw [Nat.log2_eq_log_two, Nat.log2_eq_log_two]
  exact Nat.log_mono_right atMost

/-- One more than a number is at most one bit wider. -/
theorem log2_le_of_le_succ {number other : Nat} (atMost : number ≤ other + 1) :
    number.log2 ≤ other.log2 + 1 := by
  by_cases isZero : other = 0
  · have below : number.log2 ≤ Nat.log2 1 := log2_mono (by omega)
    exact Nat.le_trans below (Nat.zero_le _)
  · rw [← Nat.log2_two_mul isZero]
    apply log2_mono
    omega

theorem log2_shiftLeft {number : Nat} (nonzero : number ≠ 0) (amount : Nat) :
    (number <<< amount).log2 = number.log2 + amount := by
  induction amount with
  | zero => rfl
  | succ amount inductionHypothesis =>
      have shifted : number <<< amount ≠ 0 := by
        rwa [ne_eq, Nat.shiftLeft_eq_zero_iff]
      rw [Nat.shiftLeft_succ, Nat.log2_two_mul shifted, inductionHypothesis, Nat.add_assoc]

/-- Rounding a mantissa adds at most one to it. -/
theorem roundedMantissa_le (extended : ExtendedMantissa) :
    extended.roundedMantissa ≤ extended.mantissa + 1 := by
  obtain ⟨mantissa, round, sticky⟩ := extended
  cases round <;> cases sticky <;>
    simp only [ExtendedMantissa.roundedMantissa, ExtendedMantissa.accuracy,
      Accuracy.roundToNearestEven] <;>
    omega

theorem mantissa_shiftRight (extended : ExtendedMantissa) (amount : Nat) :
    (extended >>> amount).mantissa = extended.mantissa / 2 ^ amount := by
  induction amount with
  | zero => exact (Nat.div_one _).symm
  | succ amount inductionHypothesis =>
      change (extended >>> amount).mantissa / 2 = extended.mantissa / 2 ^ (amount + 1)
      rw [inductionHypothesis, Nat.div_div_eq_div_mul, Nat.pow_succ]

/-- The mantissa of an unpacked double has 53 bits. -/
theorem mantissa_lt_of_unpack
    {model : Float.Model} {sign : UnpackedFloat.Sign} {mantissa : Nat} {exponent : Int}
    {positive : 0 < mantissa}
    (unpacked : model.unpack = .finite sign mantissa exponent positive) :
    mantissa < 9007199254740992 := by
  simp only [Float.Model.unpack, unpack] at unpacked
  split at unpacked
  · split at unpacked <;> contradiction
  · split at unpacked
    · split at unpacked
      · contradiction
      · injection unpacked with _ isMantissa
        rw [← isMantissa]
        have bits := (@unpackMantissa .binary64 model.toBits.toBitVec).isLt
        omega
    · injection unpacked with _ isMantissa
      rw [← isMantissa]
      exact BitVec.isLt _

/-! ## Numbers of bounded exponent -/

/-- Zero, or a finite number whose exponent is at most `bound`. -/
def Moderate (bound : Int) : UnpackedFloat → Prop
  | .zero _ => True
  | .finite _ _ exponent _ => exponent ≤ bound
  | _ => False

theorem Moderate.mono
    {bound larger : Int} {number : UnpackedFloat}
    (moderate : Moderate bound number)
    (atMost : bound ≤ larger) :
    Moderate larger number := by
  cases number with
  | zero sign => trivial
  | finite sign mantissa exponent positive => exact Int.le_trans moderate atMost
  | _ => exact moderate

theorem Moderate.neg
    {bound : Int} {number : UnpackedFloat}
    (moderate : Moderate bound number) :
    Moderate bound number.neg := by
  cases number <;> exact moderate

/-- Dropping the low bits of a mantissa lifts the exponent by at most its width. -/
theorem exponent_shift_le
    (mantissa : Nat) {exponent bound : Int} (accuracy : Accuracy)
    (low : -1074 ≤ bound)
    (atMost : exponent ≤ bound) :
    (shiftToTargetExponent .binary64 mantissa exponent accuracy).2 ≤ bound + mantissa.log2 := by
  simp only [shiftToTargetExponent, shiftToExponent, Format.targetExponent, totalExponent,
    Format.mantissaBits, Format.minExponent]
  omega

/-- Rounding drops low bits twice, the second time because the mantissa may have got wider. -/
theorem moderate_roundWithAccuracy
    (sign : UnpackedFloat.Sign) (mantissa : Nat) {exponent bound : Int}
    (low : -1074 ≤ bound)
    (atMost : exponent ≤ bound) :
    Moderate (bound + 2 * mantissa.log2 + 1)
      (roundWithAccuracy .binary64 sign mantissa exponent .exact) := by
  let first := shiftToTargetExponent .binary64 mantissa exponent .exact
  have firstLow : first.2 ≤ bound + mantissa.log2 :=
    exponent_shift_le mantissa .exact low atMost
  have narrow : first.1.roundedMantissa.log2 ≤ mantissa.log2 + 1 := by
    apply log2_le_of_le_succ
    have shifted : first.1.mantissa ≤ mantissa :=
      (mantissa_shiftRight _ _).trans_le (Nat.div_le_self _ _)
    exact Nat.le_trans (roundedMantissa_le first.1) (Nat.succ_le_succ shifted)
  have secondLow := exponent_shift_le first.1.roundedMantissa .exact (by omega) firstLow
  simp only [roundWithAccuracy]
  split
  · trivial
  · refine Int.le_trans secondLow ?_
    omega

/-- The product of two doubles, whose mantissas have 53 bits each. -/
theorem moderate_mul
    {first second : Float.Model} {left right : Int}
    (firstModerate : Moderate left first.unpack)
    (secondModerate : Moderate right second.unpack)
    (low : -1074 ≤ left + right) :
    Moderate (left + right + 211) (first.unpack.mul .binary64 second.unpack) := by
  cases isFirst : first.unpack with
  | zero sign =>
      rw [isFirst] at firstModerate
      cases isSecond : second.unpack with
      | zero _ => trivial
      | finite _ _ _ _ => trivial
      | _ => simp [isSecond, Moderate] at secondModerate
  | finite sign mantissa exponent positive =>
      rw [isFirst] at firstModerate
      cases isSecond : second.unpack with
      | zero _ => trivial
      | finite otherSign otherMantissa otherExponent otherPositive =>
          rw [isSecond] at secondModerate
          have product : (mantissa * otherMantissa).log2 ≤ 105 := by
            have firstBits := mantissa_lt_of_unpack isFirst
            have secondBits := mantissa_lt_of_unpack isSecond
            have largest := Nat.mul_le_mul (Nat.le_pred_of_lt firstBits)
              (Nat.le_pred_of_lt secondBits)
            exact Nat.le_trans (log2_mono largest) (by decide)
          have atMost := Int.add_le_add firstModerate secondModerate
          exact (moderate_roundWithAccuracy _ _ low atMost).mono (by omega)
      | _ => simp [isSecond, Moderate] at secondModerate
  | _ => simp [isFirst, Moderate] at firstModerate

/-! ## Packing -/

/-- The components of a double are read back from it. -/
theorem moderate_unpack_packComponents
    (sign : UnpackedFloat.Sign) {exponent : BitVec 11} (mantissa : BitVec 52) {bound : Int}
    (notTop : exponent ≠ -1#11)
    (low : -1074 ≤ bound)
    (high : exponent.toNat ≤ bound + 1075) :
    Moderate bound (unpack .binary64 (packComponents .binary64 sign exponent mantissa)) := by
  simp only [unpack, unpackExponent_packComponents, unpackMantissa_packComponents]
  rw [if_neg notTop]
  split
  · next isZero =>
      split
      · trivial
      · rw [isZero]
        exact low
  · simp only [Moderate, Format.exponentBias]
    omega

/-- The exponent as it is stored, before it is cut to its bits. -/
theorem biasedExponent_eq (exponent : Int) :
    (exponent + Format.binary64.exponentBias + (52 : Nat)).toNat = (exponent + 1075).toNat := by
  simp only [Format.exponentBias]
  omega

theorem toNat_storedExponent
    {exponent : Int}
    (inRange : exponent ≤ 971) :
    (BitVec.ofNat 11 (exponent + 1075).toNat).toNat = (exponent + 1075).toNat := by
  rw [BitVec.toNat_ofNat, Nat.mod_eq_of_lt (by omega)]

/-- Packing keeps the exponent of a number that is in range. -/
theorem moderate_unpack_pack
    {number : UnpackedFloat} {bound : Int}
    (moderate : Moderate bound number)
    (low : -1074 ≤ bound)
    (high : bound ≤ 971) :
    Moderate bound (Float.Model.pack number).unpack := by
  simp only [Float.Model.pack, Float.Model.unpack]
  cases number with
  | zero sign =>
      refine moderate_unpack_packComponents sign 0 (by decide) low ?_
      simp only [BitVec.ofNat_eq_ofNat, BitVec.toNat_ofNat, Nat.zero_mod]
      omega
  | finite sign mantissa exponent positive =>
      have atMost : exponent ≤ bound := moderate
      have fits : ¬2048 ≤ (exponent + 1075).toNat + 1 := by omega
      simp only [pack, biasedExponent_eq]
      rw [if_neg fits]
      split
      · have isExponent := toNat_storedExponent (atMost.trans high)
        refine moderate_unpack_packComponents sign _ (fun isTop => ?_) low (by omega)
        have topmost := congrArg BitVec.toNat isTop
        rw [isExponent] at topmost
        have allOnes : (-1#11).toNat = 2047 := rfl
        omega
      · refine moderate_unpack_packComponents sign _ (by decide) low ?_
        simp only [BitVec.toNat_ofNat, Nat.zero_mod]
        omega
  | _ => exact moderate.elim

/-! ## Finite doubles -/

/-- The exponent bits are those that unpacking reads. -/
theorem exponentBits_eq (x : Float) :
    exponentBits x = (@unpackExponent .binary64 x.toModel.toBits.toBitVec).toNat := by
  simp [exponentBits, unpackExponent, exponentUnit, Float.toBits, Nat.shiftRight_eq_div_pow]

theorem isFinite_of_moderate
    {x : Float} {bound : Int}
    (moderate : Moderate bound x.toModel.unpack) :
    isFinite x = true := by
  have notTop : @unpackExponent .binary64 x.toModel.toBits.toBitVec ≠ -1#11 := by
    intro isTop
    simp only [Float.Model.unpack, unpack] at moderate
    rw [if_pos isTop] at moderate
    split at moderate <;> exact moderate
  simp only [isFinite, exponentBits_eq, decide_eq_true_eq]
  intro isTop
  exact notTop (BitVec.eq_of_toNat_eq isTop)

theorem moderate_ofUInt64 (number : UInt64) : Moderate 300 (ofUInt64 .binary64 number) := by
  have narrow : number.toNat.log2 ≤ 63 :=
    Nat.le_trans (log2_mono (Nat.le_pred_of_lt number.toNat_lt)) (by decide)
  simp only [ofUInt64, UnpackedFloat.ofNat, UnpackedFloat.ofInt, UnpackedFloat.normalize]
  split
  · next isLess =>
      have negative := Int.compare_eq_lt.mp isLess
      omega
  · trivial
  · next isMore =>
      simp only [UnpackedFloat.round, decreaseExponent, Int.toNat_natCast]
      have shifted := log2_shiftLeft (Int.natCast_pos.mp (Int.compare_eq_gt.mp isMore)).ne'
        (0 - Format.binary64.targetExponent (totalExponent number.toNat 0)).toNat
      have amount :
          (0 - Format.binary64.targetExponent (totalExponent number.toNat 0)).toNat ≤ 52 := by
        simp only [Format.targetExponent, totalExponent, Format.mantissaBits, Format.minExponent]
        omega
      refine (moderate_roundWithAccuracy _ _ (by decide : (-1074 : Int) ≤ 0) (by omega)).mono ?_
      omega

theorem moderate_ofScientific {number : Nat} (small : number < 18446744073709551616) :
    Moderate 300 (UnpackedFloat.ofScientific .binary64 number 0) := by
  have narrow : number.log2 ≤ 63 :=
    Nat.le_trans (log2_mono (Nat.le_pred_of_lt small)) (by decide)
  simp only [UnpackedFloat.ofScientific]
  split
  · trivial
  · next nonzero =>
      rw [if_neg (by decide), if_neg (by omega), if_pos (by decide)]
      simp only [mul, Int.toNat_zero, Nat.pow_zero, Nat.mul_one, Int.add_zero]
      have shifted := log2_shiftLeft nonzero Format.binary64.mantissaBits
      have low : (-1074 : Int) ≤ -Format.binary64.mantissaBits := by decide
      refine (moderate_roundWithAccuracy _ _ low (Int.le_refl _)).mono ?_
      simp only [Format.mantissaBits] at shifted ⊢
      omega

/-- One, by which small whole numbers are multiplied. -/
theorem unpack_one :
    Float.exactlyRepresentablePowersOfTen[0].toModel.unpack =
      .finite .positive 4503599627370496 (-52) (by decide) := rfl

theorem moderate_ofNat {number : Nat} (small : number < 18446744073709551616) :
    Moderate 600 (Float.ofNat number).toModel.unpack := by
  simp only [Float.ofNat, OfScientific.ofScientific, Float.ofScientific]
  split
  · have whole := moderate_unpack_pack (moderate_ofUInt64 number.toUInt64) (by decide) (by decide)
    have one : Moderate (-52) Float.exactlyRepresentablePowersOfTen[0].toModel.unpack := by
      rw [unpack_one]
      exact Int.le_refl _
    exact moderate_unpack_pack ((moderate_mul whole one (by decide)).mono (by decide)) (by decide)
      (by decide)
  · exact moderate_unpack_pack ((moderate_ofScientific small).mono (by decide)) (by decide)
      (by decide)

/-- The double of a whole number of at most 64 bits is finite. -/
theorem isFinite_ofInt
    {value : Int}
    (low : -18446744073709551616 < value)
    (high : value < 18446744073709551616) :
    isFinite (Float.ofInt value) = true := by
  cases value with
  | ofNat number =>
      have small : number < 18446744073709551616 := by
        simp only [Int.ofNat_eq_natCast] at high
        omega
      exact isFinite_of_moderate (moderate_ofNat small)
  | negSucc number =>
      have small : number.succ < 18446744073709551616 := by omega
      have negated := (moderate_ofNat small).neg
      exact isFinite_of_moderate (moderate_unpack_pack negated (by decide) (by decide))

end Exact

/-! ## Literals and expressions -/

namespace Literal

mutual
/-- Whether all doubles in a literal are finite. -/
def isFinite : Literal → Bool
  | float value => Exact.isFinite value
  | list items => itemsFinite items
  | _ => true

/-- Whether all doubles in some literals are finite. -/
def itemsFinite : List Literal → Bool
  | [] => true
  | item :: rest => isFinite item && itemsFinite rest
end

/-- The literal of a whole number that a 64-bit word can hold is finite. -/
theorem isFinite_ofInt
    {value : Int}
    (low : -9223372036854775808 ≤ value)
    (high : value < 18446744073709551616) :
    (ofInt value).isFinite = true := by
  unfold ofInt
  split
  · rfl
  · exact Exact.isFinite_ofInt (by omega) high

end Literal

namespace Expr

/-- Whether all doubles in an expression are finite. -/
def isFinite : Expr → Bool
  | logical _ left right => left.isFinite && right.isFinite
  | comparison _ _ value => value.isFinite

end Expr
end FilterQuery
