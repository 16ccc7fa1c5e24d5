import RewardFormula.Number.Decimal
import RewardFormula.Proofs.Number.Rounding

/-!
# Decimals that are read back

The double that a decimal is read as depends on the value of the decimal only,
and the decimal that is written for a double is read back as that double.
-/

namespace RewardFormula

namespace Decimal

/-- The number that a decimal stands for. -/
def value (decimal : Decimal) : ℚ :=
  decimal.digits * 10 ^ decimal.exponent

variable {decimal decimal' : Decimal}

theorem value_eq_zero_iff : decimal.value = 0 ↔ decimal.digits = 0 := by
  rw [value, mul_eq_zero, Nat.cast_eq_zero]
  exact or_iff_left (by positivity)

theorem value_pos (nonzero : decimal.digits ≠ 0) : 0 < decimal.value := by
  have digitsPositive : (0 : ℚ) < decimal.digits := by exact_mod_cast Nat.pos_of_ne_zero nonzero
  unfold value
  positivity

theorem lt_pow_digitCount (number : Nat) : number < 10 ^ digitCount number :=
  (Nat.length_toDigits_le_iff (by decide) Nat.length_toDigits_pos).1 le_rfl

theorem pow_le_of_digitCount {number count : Nat} (nonzero : number ≠ 0)
    (digits : digitCount number = count + 1) : 10 ^ count ≤ number := by
  by_contra small
  rw [not_le] at small
  rcases Nat.eq_zero_or_pos count with rfl | positive
  · exact nonzero (Nat.lt_one_iff.1 small)
  · have fewer := (Nat.length_toDigits_le_iff (by decide) positive).2 small
    rw [digitCount] at digits
    omega

/-- The digits before the point of a decimal count its logarithm. -/
theorem position_eq (nonzero : decimal.digits ≠ 0) :
    digitCount decimal.digits + decimal.exponent = Int.log 10 decimal.value + 1 := by
  obtain ⟨count, counted⟩ : ∃ count, digitCount decimal.digits = count + 1 :=
    Nat.exists_eq_succ_of_ne_zero (Nat.pos_iff_ne_zero.1 Nat.length_toDigits_pos)
  have lower : ((10 : Nat) : ℚ) ^ (count : Int) ≤ decimal.digits := by
    exact_mod_cast pow_le_of_digitCount nonzero counted
  have upper : (decimal.digits : ℚ) < ((10 : Nat) : ℚ) ^ (count + 1 : Int) := by
    have bound := lt_pow_digitCount decimal.digits
    rw [counted] at bound
    exact_mod_cast bound
  have logarithm : Int.log 10 decimal.value = count + decimal.exponent := by
    refine log_eq_of_between (by decide) (value_pos nonzero) ?_ ?_
    · rw [zpow_add₀ (by norm_num)]
      exact mul_le_mul_of_nonneg_right lower (by positivity)
    · rw [add_right_comm, zpow_add₀ (by norm_num)]
      exact mul_lt_mul_of_pos_right upper (by positivity)
  rw [logarithm, counted]
  push_cast
  ring

theorem scaled_value (decimal : Decimal) :
    ((decimal.digits * powerNumerator 10 decimal.exponent : Nat) : ℚ) /
      powerDenominator 10 decimal.exponent = decimal.value := by
  have scaled := scaled_div (by decide : 0 < 10) decimal.exponent decimal.digits 1
  simpa [value] using scaled

/-- Decimals of one value are read as one double. -/
theorem magnitude_congr (same : decimal.value = decimal'.value) :
    decimal.magnitude = decimal'.magnitude := by
  have bothZero : decimal.digits = 0 ↔ decimal'.digits = 0 := by
    rw [← value_eq_zero_iff, same, value_eq_zero_iff]
  by_cases zero : decimal.digits = 0
  · simp only [magnitude, zero, bothZero.1 zero, true_or, if_true]
  · have positions : (digitCount decimal.digits : Int) + decimal.exponent =
        digitCount decimal'.digits + decimal'.exponent := by
      rw [position_eq zero, position_eq (mt bothZero.2 zero), same]
    have nearest := Binary64.nearestMagnitude_congr (powerDenominator_pos (by decide) _)
      (powerDenominator_pos (by decide) _)
      ((scaled_value decimal).trans (same.trans (scaled_value decimal').symm))
    simp only [magnitude, positions, bothZero, nearest]

/-- Four hundred digits reach farther than the exponents of doubles. -/
theorem two_zpow_le_ten_zpow : (2 : ℚ) ^ (1200 : Int) ≤ ((10 : Nat) : ℚ) ^ (400 : Int) := by
  have eight : (2 : ℚ) ^ (1200 : Int) = 8 ^ (400 : Int) := by
    rw [show (1200 : Int) = 3 * 400 from rfl, zpow_mul]
    norm_num
  rw [eight]
  exact zpow_le_zpow_left₀ (by norm_num) (by norm_num) (by norm_num)

section Doubles

variable {mantissa : Nat} {exponent : Int} (grid : Binary64.OnGrid mantissa exponent)
    (positive : 0 < mantissa)
    (finite : (exponent + 1074).toNat * Binary64.fieldUnit + mantissa < Binary64.infinityBits)

include grid positive finite

theorem log_ten_bounds :
    -400 ≤ Int.log 10 ((mantissa : ℚ) * 2 ^ exponent) ∧
      Int.log 10 ((mantissa : ℚ) * 2 ^ exponent) < 400 := by
  have mantissaAtLeast : (1 : ℚ) ≤ mantissa := by exact_mod_cast positive
  have mantissaBelow : (mantissa : ℚ) < 2 ^ (53 : Int) := by exact_mod_cast grid.short
  have valuePositive : 0 < (mantissa : ℚ) * 2 ^ exponent := by positivity
  have exponentAbove := grid.finest
  have exponentBelow : exponent ≤ 972 := by
    simp only [Binary64.fieldUnit, Binary64.infinityBits] at finite
    omega
  constructor
  · rw [← Int.zpow_le_iff_le_log (by decide) valuePositive]
    calc ((10 : Nat) : ℚ) ^ (-400 : Int)
        ≤ 2 ^ (-1200 : Int) := by
          rw [zpow_neg, zpow_neg]
          exact inv_anti₀ (by positivity) two_zpow_le_ten_zpow
      _ ≤ 2 ^ exponent := zpow_le_zpow_right₀ (by norm_num) (by omega)
      _ ≤ mantissa * 2 ^ exponent := le_mul_of_one_le_left (by positivity) mantissaAtLeast
  · rw [← Int.lt_zpow_iff_log_lt (by decide) valuePositive]
    calc (mantissa : ℚ) * 2 ^ exponent
        < 2 ^ (53 : Int) * 2 ^ exponent := mul_lt_mul_of_pos_right mantissaBelow (by positivity)
      _ = 2 ^ (53 + exponent) := (zpow_add₀ (by norm_num) _ _).symm
      _ ≤ 2 ^ (1200 : Int) := zpow_le_zpow_right₀ (by norm_num) (by omega)
      _ ≤ ((10 : Nat) : ℚ) ^ (400 : Int) := two_zpow_le_ten_zpow

/-- A decimal whose value is that of a double is read as that double. -/
theorem magnitude_of_value (same : decimal.value = mantissa * 2 ^ exponent) :
    decimal.magnitude = (exponent + 1074).toNat * Binary64.fieldUnit + mantissa := by
  have nonzero : decimal.digits ≠ 0 := by
    have mantissaPositive : (0 : ℚ) < mantissa := by exact_mod_cast positive
    have valuePositive : 0 < decimal.value := by
      rw [same]
      positivity
    exact mt value_eq_zero_iff.2 valuePositive.ne'
  obtain ⟨above, below⟩ := log_ten_bounds grid positive finite
  have position := position_eq nonzero
  rw [same] at position
  have quotients : ((decimal.digits * powerNumerator 10 decimal.exponent : Nat) : ℚ) /
      powerDenominator 10 decimal.exponent =
        (mantissa * powerNumerator 2 exponent : Nat) / powerDenominator 2 exponent := by
    have scaled := scaled_div (by decide : 0 < 2) exponent mantissa 1
    rw [scaled_value, same]
    simpa using scaled.symm
  have nearest := Binary64.nearestMagnitude_congr (powerDenominator_pos (by decide) _)
    (powerDenominator_pos (by decide) _) quotients
  have notTooSmall : ¬ (decimal.digits = 0 ∨
      (digitCount decimal.digits : Int) + decimal.exponent < -400) := by
    omega
  have notTooLarge : ¬ 400 < (digitCount decimal.digits : Int) + decimal.exponent := by
    omega
  simp only [magnitude, notTooSmall, notTooLarge, if_false]
  rw [nearest, grid.nearestMagnitude_eq positive finite]

end Doubles

theorem ofScaled_value (mantissa : Nat) (exponent : Int) :
    (ofScaled mantissa exponent).value = mantissa * 2 ^ exponent := by
  unfold ofScaled value
  split
  next whole =>
    obtain ⟨power, rfl⟩ := Int.eq_ofNat_of_zero_le whole
    simp [powerNumerator]
  next notWhole =>
    obtain ⟨power, inverse⟩ := Int.eq_ofNat_of_zero_le (by omega : 0 ≤ -exponent)
    obtain rfl : exponent = -(power : Int) := by omega
    have ten : (10 : ℚ) ^ power = 5 ^ power * 2 ^ power := by
      rw [← mul_pow]
      norm_num
    simp only [powerDenominator, neg_neg, Int.toNat_natCast, Nat.pow_eq, zpow_neg, zpow_natCast,
      ten]
    push_cast
    field_simp

/-- Only decimals that are read back are taken. -/
theorem neighbour?_magnitude {numerator denominator magnitude : Nat} {exponent : Int}
    (found : neighbour? numerator denominator magnitude exponent = some decimal) :
    decimal.magnitude = magnitude := by
  simp only [neighbour?] at found
  split at found
  next lowerTaken =>
    rw [Option.some.injEq] at found
    rw [Bool.and_eq_true, beq_iff_eq] at lowerTaken
    rw [← found, lowerTaken.1]
  next =>
    split at found
    next upperTaken =>
      rw [Option.some.injEq] at found
      rw [← found, beq_iff_eq.1 upperTaken]
    next =>
      contradiction

theorem shortest_magnitude {mantissa : Nat} {exponent : Int}
    (grid : Binary64.OnGrid mantissa exponent) (positive : 0 < mantissa)
    (finite : (exponent + 1074).toNat * Binary64.fieldUnit + mantissa < Binary64.infinityBits) :
    (shortest mantissa exponent
      ((exponent + 1074).toNat * Binary64.fieldUnit + mantissa)).magnitude =
        (exponent + 1074).toNat * Binary64.fieldUnit + mantissa := by
  unfold shortest
  simp only
  generalize search : (List.range 17).findSome? _ = found
  cases found with
  | none =>
      exact magnitude_of_value grid positive finite (ofScaled_value mantissa exponent)
  | some decimal =>
      obtain ⟨count, -, taken⟩ := List.exists_of_findSome?_eq_some search
      exact neighbour?_magnitude taken

end Decimal

end RewardFormula
