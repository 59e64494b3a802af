import Mathlib.Algebra.Order.Field.Power
import Mathlib.Data.Nat.Cast.Order.Field
import Mathlib.Data.Rat.Floor
import Mathlib.Tactic.Linarith
import Mathlib.Tactic.Positivity
import Mathlib.Tactic.Ring
import CollectiveChoice.Json.Magnitude

/-!
# Bounds on rounded numbers

The nearest integer is off by half at most.  So rounding to double precision changes a number by
half a unit of its last place at most, and since a significand has 53 binary digits, by less than one
part in nine quadrillions (`abs_toDouble_sub_le`).  Where only the order of magnitude matters, it is
enough that a number is at most doubled (`toDouble_bounds`): this is all that is needed to see that
every machine word is within the range of numbers (`Magnitude.isFinite_of_isWord64`).
-/

namespace CollectiveChoice

set_option autoImplicit false

namespace Number

/-! ## Nearest integers -/

/-- The nearest integer to a quotient is off by half of the denominator at most. -/
theorem nearestQuotient_bounds (numerator : Nat) {denominator : Nat} (positive : 0 < denominator) :
    2 * numerator ≤ 2 * (denominator * nearestQuotient numerator denominator) + denominator ∧
      2 * (denominator * nearestQuotient numerator denominator) ≤ 2 * numerator + denominator := by
  have division := Nat.div_add_mod numerator denominator
  have remainder := Nat.mod_lt numerator positive
  simp only [nearestQuotient]
  split
  · omega
  split
  · rw [Nat.mul_add]
    omega
  · rcases Nat.mod_two_eq_zero_or_one (numerator / denominator) with even | odd
    · rw [even, Nat.add_zero]
      omega
    · rw [odd, Nat.mul_add]
      omega

theorem abs_nearestMagnitude_sub_le {number : Rat} (nonneg : 0 ≤ number) :
    |(nearestMagnitude number : Rat) - number| ≤ 1 / 2 := by
  have numerator : ((number.num.natAbs : Nat) : Rat) = number.den * number := by
    rw [← Int.cast_natCast, Int.natAbs_of_nonneg (Rat.num_nonneg.mpr nonneg), mul_comm,
      Rat.mul_den_eq_num]
  have positive : (0 : Rat) < number.den := Nat.cast_pos.mpr number.den_pos
  obtain ⟨below, above⟩ := nearestQuotient_bounds number.num.natAbs number.den_pos
  rw [← @Nat.cast_le Rat] at below above
  push_cast [numerator] at below above
  rw [nearestMagnitude, abs_sub_le_iff]
  constructor
  · refine le_of_mul_le_mul_left ?_ positive
    linarith
  · refine le_of_mul_le_mul_left ?_ positive
    linarith

/-! ## Binary precision -/

theorem scale_eq (number : Rat) (exponent : Int) :
    scale number exponent = number * 2 ^ exponent := by
  cases exponent with
  | ofNat up => simp [scale]
  | negSucc down => simp [scale, zpow_negSucc, div_eq_mul_inv]

/-- The power of two that a positive number is measured by is not above it. -/
theorem two_zpow_binaryExponent_le {number : Rat} (positive : 0 < number) :
    (2 : Rat) ^ binaryExponent number ≤ number := by
  have nonneg : ¬ number < 0 := not_lt.mpr positive.le
  simp only [binaryExponent, if_neg nonneg, scale_eq, one_mul]
  split
  case isFalse reached => exact not_lt.mp reached
  case isTrue =>
    -- The estimate compares numbers of digits, so it is too high by one at most.
    have upper : (2 : Rat) ^ (Nat.log2 number.num.natAbs : Int) ≤ number.num.natAbs := by
      rw [zpow_natCast]
      exact_mod_cast Nat.log2_self_le (Int.natAbs_ne_zero.mpr (Rat.num_ne_zero.mpr positive.ne'))
    have lower : (number.den : Rat) ≤ 2 ^ ((Nat.log2 number.den : Int) + 1) := by
      rw [← Nat.cast_succ, zpow_natCast]
      exact_mod_cast Nat.lt_log2_self.le
    calc (2 : Rat) ^ ((Nat.log2 number.num.natAbs : Int) - Nat.log2 number.den - 1)
        = 2 ^ (Nat.log2 number.num.natAbs : Int) / 2 ^ ((Nat.log2 number.den : Int) + 1) := by
          rw [← zpow_sub₀ two_ne_zero, Int.sub_sub]
      _ ≤ number.num.natAbs / number.den :=
          div_le_div₀ (Nat.cast_nonneg _) upper (Nat.cast_pos.mpr number.den_pos) lower
      _ = number := by
          rw [← Int.cast_natCast, Int.natAbs_of_nonneg (Rat.num_nonneg.mpr positive.le),
            Rat.num_div_den]

/-- Rounding a positive number means rounding a multiple of a unit of which it has 2^52 at least. -/
theorem toDouble_of_pos {number : Rat} (positive : 0 < number) :
    ∃ unit : Rat, 0 < unit ∧ 2 ^ 52 * unit ≤ number ∧
      toDouble number = nearestMagnitude (number / unit) * unit := by
  refine ⟨2 ^ (binaryExponent number - 52), by positivity, ?_, ?_⟩
  · calc (2 : Rat) ^ 52 * 2 ^ (binaryExponent number - 52)
        = 2 ^ binaryExponent number := by
          rw [← zpow_natCast, ← zpow_add₀ two_ne_zero]
          congr 1
          omega
      _ ≤ number := two_zpow_binaryExponent_le positive
  · rw [toDouble, toPrecision, if_neg positive.ne']
    simp only [if_neg (not_lt.mpr positive.le), scale_eq]
    rw [zpow_neg, ← div_eq_mul_inv]
    rfl

/-- Rounding to double precision changes a number by a small part of it. -/
theorem abs_toDouble_sub_le {number : Rat} (nonneg : 0 ≤ number) :
    |toDouble number - number| ≤ number / 2 ^ 53 := by
  rcases nonneg.eq_or_lt with rfl | positive
  · simp [toDouble, toPrecision]
  · obtain ⟨unit, above, below, rounded⟩ := toDouble_of_pos positive
    have near := abs_nearestMagnitude_sub_le (div_pos positive above).le
    calc |toDouble number - number|
        = |(nearestMagnitude (number / unit) : Rat) - number / unit| * unit := by
          rw [rounded, ← abs_of_pos above, ← abs_mul, abs_of_pos above, sub_mul,
            div_mul_cancel₀ _ above.ne']
      _ ≤ 1 / 2 * unit := mul_le_mul_of_nonneg_right near above.le
      _ ≤ number / 2 ^ 53 := by linarith

theorem toDouble_bounds {number : Rat} (nonneg : 0 ≤ number) :
    0 ≤ toDouble number ∧ toDouble number ≤ 2 * number := by
  obtain ⟨above, below⟩ := abs_sub_le_iff.mp (abs_toDouble_sub_le nonneg)
  constructor
  · linarith
  · linarith

end Number

namespace Magnitude

/-- The bound is a power of two less another one, both far beyond machine words. -/
theorem infinityBound_eq : ∃ low high, 66 ≤ low ∧ low < high ∧
    infinityBound = ((Nat.pow 2 high - Nat.pow 2 low : Nat) : Rat) :=
  ⟨970, 1024, by omega, by omega, by rw [infinityBound]⟩

theorem lt_infinityBound {number : Nat} (small : number < Nat.pow 2 66) :
    (number : Rat) < infinityBound := by
  obtain ⟨low, high, lower, higher, bound⟩ := infinityBound_eq
  have above : Nat.pow 2 66 ≤ Nat.pow 2 low := Nat.pow_le_pow_right (by omega) lower
  have double : Nat.pow 2 low + Nat.pow 2 low ≤ Nat.pow 2 high :=
    calc Nat.pow 2 low + Nat.pow 2 low
        = 2 ^ (low + 1) := by rw [Nat.pow_succ, Nat.mul_two]; rfl
      _ ≤ 2 ^ high := Nat.pow_le_pow_right (by omega) higher
  rw [bound, Nat.cast_lt]
  omega

/-- Machine words are within range. -/
theorem isFinite_of_isWord64 {number : Nat} (word : Text.isWord64 number = true) :
    isFinite number 0 = true := by
  have natural (n : Nat) : (0 : Rat) ≤ n := Nat.cast_nonneg n
  obtain ⟨-, rounded⟩ := Number.toDouble_bounds (natural number)
  obtain ⟨nonneg, one⟩ := Number.toDouble_bounds (natural 1)
  have product : Number.toDouble number * Number.toDouble (1 : Nat) ≤ (4 * number : Nat) :=
    calc Number.toDouble number * Number.toDouble (1 : Nat)
        ≤ 2 * number * (2 * (1 : Nat)) := mul_le_mul rounded one nonneg (by positivity)
      _ = (4 * number : Nat) := by
        push_cast
        ring
  have small : number ≤ 18446744073709551615 := of_decide_eq_true word
  have bound : ((4 * number : Nat) : Rat) < infinityBound :=
    lt_infinityBound (Nat.lt_of_le_of_lt (Nat.mul_le_mul_left 4 small) (by decide))
  unfold isFinite
  split
  · rfl
  · simpa [greatestTen] using product.trans_lt bound

end Magnitude

end CollectiveChoice
