import RewardFormula.Number.Remainder
import RewardFormula.Proofs.Number.Arithmetic

/-!
# The truncated remainder

On a common scale two doubles are whole numbers, and one of them has at most 53 bits. The remainder
of these numbers is a double, therefore, and nothing is rounded.
-/

namespace RewardFormula

namespace Binary64

/-- Two doubles on a common scale, where their remainder is found. -/
structure OnCommonScale (dividend divisor : Float) (steps steps' : Nat) (scale : Int) : Prop where
  dividend_eq : |value dividend| = steps * 2 ^ scale
  divisor_eq : |value divisor| = steps' * 2 ^ scale
  finest : -1074 ≤ scale
  short : steps < 2 ^ 53 ∨ steps' < 2 ^ 53
  truncated : truncatedRemainder dividend divisor =
    ofScaled (isNegative dividend) (steps % steps') scale

section Scale

variable {dividend divisor : Float} (finite : isFinite dividend = true)
  (finite' : isFinite divisor = true) (nonzero : value divisor ≠ 0)

include finite finite' nonzero

theorem exists_onCommonScale : ∃ steps steps' scale,
    OnCommonScale dividend divisor steps steps' scale := by
  obtain ⟨mantissa, exponent, decodes⟩ := exists_decodes finite
  obtain ⟨mantissa', exponent', decodes'⟩ := exists_decodes finite'
  have someMantissa : mantissa' ≠ 0 := mt decodes'.value_eq_zero_iff.2 nonzero
  have finest := decodes.grid.finest
  have finest' := decodes'.grid.finest
  refine ⟨_, _, min exponent exponent', decodes.abs_value_eq_steps (min_le_left _ _),
    decodes'.abs_value_eq_steps (min_le_right _ _), by omega, ?_, ?_⟩
  · rcases min_choice exponent exponent' with first | second
    · have one : powerNumerator 2 (exponent - exponent) = 1 := by
        rw [sub_self]
        rfl
      rw [first, one, Nat.mul_one]
      exact .inl decodes.grid.short
    · have one : powerNumerator 2 (exponent' - exponent') = 1 := by
        rw [sub_self]
        rfl
      rw [second, one, Nat.mul_one]
      exact .inr decodes'.grid.short
  · unfold truncatedRemainder
    simp only [decodes.decoded, decodes'.decoded, someMantissa, if_false]

end Scale

/-- A dividend is taken apart into a multiple of the divisor and a rest with its sign. -/
structure Truncates (dividend divisor rest : Float) (quotient : Nat) : Prop where
  finite : isFinite rest = true
  sign : isNegative rest = isNegative dividend
  less : |value rest| < |value divisor|
  total : |value dividend| = quotient * |value divisor| + |value rest|

theorem OnCommonScale.truncates {dividend divisor : Float} {steps steps' : Nat} {scale : Int}
    (common : OnCommonScale dividend divisor steps steps' scale)
    (bounded : |value dividend| < 2 ^ (1024 : Int)) (positive : 0 < steps') :
    Truncates dividend divisor (truncatedRemainder dividend divisor) (steps / steps') := by
  obtain ⟨number, number', finest, short, truncated⟩ := common
  have power : (0 : ℚ) < 2 ^ scale := by
    positivity
  have less := Nat.mod_lt steps positive
  have notMore := Nat.mod_le steps steps'
  have parts : (steps : ℚ) = (steps / steps' : Nat) * steps' + (steps % steps' : Nat) := by
    exact_mod_cast (Nat.div_add_mod' steps steps').symm
  have bounded' : ((steps % steps' : Nat) : ℚ) * 2 ^ scale < 2 ^ (1024 : Int) := by
    calc ((steps % steps' : Nat) : ℚ) * 2 ^ scale
        ≤ steps * 2 ^ scale := (natCast_mul_zpow_le_iff scale).2 notMore
      _ = |value dividend| := number.symm
      _ < 2 ^ (1024 : Int) := bounded
  obtain ⟨restMantissa, restExponent, decodes, sign, same⟩ :=
    exists_ofScaled_eq (isNegative dividend) (by omega) finest bounded'
  rw [← truncated] at decodes sign
  have rest : |value (truncatedRemainder dividend divisor)| = (steps % steps' : Nat) * 2 ^ scale :=
    decodes.abs_value.trans same
  refine ⟨decodes.finite, sign, ?_, ?_⟩
  · rw [rest, number']
    exact mul_lt_mul_of_pos_right (by exact_mod_cast less) power
  · rw [rest, number, number']
    conv_lhs => rw [parts]
    ring

theorem exists_truncates {dividend divisor : Float} (finite : isFinite dividend = true)
    (finite' : isFinite divisor = true) (nonzero : value divisor ≠ 0) :
    ∃ quotient, Truncates dividend divisor (truncatedRemainder dividend divisor) quotient := by
  obtain ⟨mantissa, exponent, decodes⟩ := exists_decodes finite
  obtain ⟨steps, steps', scale, common⟩ := exists_onCommonScale finite finite' nonzero
  have positive : 0 < steps' := by
    rw [Nat.pos_iff_ne_zero]
    rintro rfl
    have zero := common.divisor_eq
    rw [Nat.cast_zero, zero_mul, abs_eq_zero] at zero
    exact nonzero zero
  exact ⟨_, common.truncates decodes.abs_value_lt positive⟩

theorem isFinite_zero : isFinite 0 = true := by
  decide

theorem value_zero : value 0 = 0 := by
  have decoded : decode 0 = .finite false 0 (-1074) := by
    decide
  rw [value, decoded]
  norm_num [signed]

theorem decode_two : decode 2 = .finite false (2 ^ 52) (-51) := by
  decide

theorem isFinite_two : isFinite 2 = true := by
  decide

theorem value_two : value 2 = 2 := by
  rw [value, decode_two]
  norm_num [signed]

namespace Truncates

/-- A whole number of divisors that is a double is odd if the remainder by two is not zero. -/
theorem rest_ne_zero_iff {dividend rest : Float} {quotient number : Nat}
    (truncates : Truncates dividend 2 rest quotient) (whole : |value dividend| = number) :
    (rest != 0) = true ↔ Odd number := by
  have less := truncates.less
  have total := truncates.total
  rw [value_two, abs_two] at less total
  rw [whole] at total
  have someRest : (rest != 0) = true ↔ |value rest| ≠ 0 := by
    rw [bne, Bool.not_eq_true', ← Bool.not_eq_true, beq_iff_value_eq truncates.finite isFinite_zero,
      value_zero, ← abs_eq_zero]
  rw [someRest]
  constructor
  · intro nonzero
    have positive := lt_of_le_of_ne (abs_nonneg _) nonzero.symm
    have above : quotient * 2 < number := by
      exact_mod_cast (by linarith : (quotient : ℚ) * 2 < number)
    have below : number < quotient * 2 + 2 := by
      exact_mod_cast (by linarith : (number : ℚ) < quotient * 2 + 2)
    exact ⟨quotient, by omega⟩
  · rintro ⟨half, rfl⟩ zero
    rw [zero, add_zero] at total
    have even : 2 * half + 1 = quotient * 2 := by
      exact_mod_cast total
    omega

end Truncates

end Binary64

end RewardFormula
