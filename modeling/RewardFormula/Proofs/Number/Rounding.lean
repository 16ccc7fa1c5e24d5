import Mathlib.Algebra.Order.Field.Power
import Mathlib.Data.Int.Log
import Mathlib.Data.Rat.Floor
import Mathlib.Tactic.Positivity
import Mathlib.Tactic.Ring
import RewardFormula.Number.Binary64

/-!
# Rounding a quotient

The quotients of the model are read as rational numbers. The nearest double
depends on the value of a quotient only, and a value that is a double already is
rounded to itself.
-/

namespace RewardFormula

section Powers

variable {base : Nat} (positive : 0 < base) (exponent : Int)

include positive

theorem powerNumerator_pos : 0 < powerNumerator base exponent :=
  Nat.pow_pos positive

theorem powerDenominator_pos : 0 < powerDenominator base exponent :=
  Nat.pow_pos positive

theorem powerNumerator_div_powerDenominator :
    (powerNumerator base exponent : ℚ) / powerDenominator base exponent =
      (base : ℚ) ^ exponent := by
  have nonzero : (base : ℚ) ≠ 0 := by exact_mod_cast positive.ne'
  rcases le_total 0 exponent with above | below
  · obtain ⟨power, rfl⟩ := Int.eq_ofNat_of_zero_le above
    simp [powerNumerator, powerDenominator]
  · obtain ⟨power, inverse⟩ := Int.eq_ofNat_of_zero_le (neg_nonneg.2 below)
    obtain rfl : exponent = -(power : Int) := by omega
    simp [powerNumerator, powerDenominator]

/-- A quotient with the power multiplied into it on either side. -/
theorem scaled_div (numerator denominator : Nat) :
    ((numerator * powerNumerator base exponent : Nat) : ℚ) /
        (denominator * powerDenominator base exponent : Nat) =
      (numerator : ℚ) / denominator * (base : ℚ) ^ exponent := by
  rw [← powerNumerator_div_powerDenominator positive exponent]
  push_cast
  exact mul_div_mul_comm _ _ _ _

theorem unscaled_div (numerator denominator : Nat) :
    ((numerator * powerDenominator base exponent : Nat) : ℚ) /
        (denominator * powerNumerator base exponent : Nat) =
      (numerator : ℚ) / denominator / (base : ℚ) ^ exponent := by
  rw [← powerNumerator_div_powerDenominator positive exponent, div_div_div_eq]
  push_cast
  rfl

end Powers

/-- The powers around a number tell its logarithm. -/
theorem log_eq_of_between {base : Nat} (large : 1 < base) {value : ℚ} (positive : 0 < value)
    {power : Int} (reached : (base : ℚ) ^ power ≤ value)
    (unreached : value < (base : ℚ) ^ (power + 1)) :
    Int.log base value = power := by
  have lower := (Int.zpow_le_iff_le_log large positive).1 reached
  have upper := (Int.lt_zpow_iff_log_lt large positive).1 unreached
  omega

/-- Two naturals between powers of one base have a quotient between powers whose
exponents are two apart. -/
theorem div_between_powers {base : Nat} (large : 1 < base) {numerator denominator : Nat}
    {power power' : Nat} (numeratorLower : base ^ power ≤ numerator)
    (numeratorUpper : numerator < base ^ (power + 1))
    (denominatorLower : base ^ power' ≤ denominator)
    (denominatorUpper : denominator < base ^ (power' + 1)) :
    (base : ℚ) ^ ((power : Int) - power' - 1) ≤ (numerator : ℚ) / denominator ∧
      (numerator : ℚ) / denominator < (base : ℚ) ^ ((power : Int) - power' + 1) := by
  have basePositive : (0 : ℚ) < base := by exact_mod_cast Nat.zero_lt_of_lt large
  have denominatorPositive : (0 : ℚ) < denominator := by
    exact_mod_cast lt_of_lt_of_le (Nat.pow_pos (Nat.zero_lt_of_lt large)) denominatorLower
  have lowerPower : (base : ℚ) ^ ((power : Int) - power' - 1) =
      (base : ℚ) ^ power / (base : ℚ) ^ (power' + 1) := by
    rw [sub_sub, zpow_sub₀ basePositive.ne', zpow_natCast]
    exact_mod_cast rfl
  have upperPower : (base : ℚ) ^ ((power : Int) - power' + 1) =
      (base : ℚ) ^ (power + 1) / (base : ℚ) ^ power' := by
    rw [sub_add_eq_add_sub, zpow_sub₀ basePositive.ne', zpow_natCast]
    exact_mod_cast rfl
  rw [lowerPower, upperPower]
  constructor
  · rw [div_le_div_iff₀ (by positivity) denominatorPositive]
    exact_mod_cast Nat.mul_le_mul numeratorLower denominatorUpper.le
  · rw [div_lt_div_iff₀ denominatorPositive (by positivity)]
    have product : numerator * base ^ power' < base ^ (power + 1) * denominator :=
      Nat.mul_lt_mul_of_lt_of_le numeratorUpper denominatorLower
        (by exact_mod_cast denominatorPositive)
    exact_mod_cast product

namespace Binary64

theorem divideToEven_mul_mul {common : Nat} (positive : 0 < common)
    (numerator denominator : Nat) :
    divideToEven (common * numerator) (common * denominator) =
      divideToEven numerator denominator := by
  have twice : 2 * (common * numerator % (common * denominator)) =
      common * (2 * (numerator % denominator)) := by
    rw [Nat.mul_mod_mul_left]
    ring
  unfold divideToEven
  simp only [twice, Nat.mul_div_mul_left _ _ positive, Nat.mul_lt_mul_left positive]

variable {numerator denominator numerator' denominator' : Nat}

theorem div_eq_div_iff_mul (positive : 0 < denominator) (positive' : 0 < denominator') :
    (numerator : ℚ) / denominator = (numerator' : ℚ) / denominator' ↔
      numerator * denominator' = numerator' * denominator := by
  rw [div_eq_div_iff (by exact_mod_cast positive.ne') (by exact_mod_cast positive'.ne')]
  exact_mod_cast Iff.rfl

theorem divideToEven_congr (positive : 0 < denominator) (positive' : 0 < denominator')
    (same : (numerator : ℚ) / denominator = (numerator' : ℚ) / denominator') :
    divideToEven numerator denominator = divideToEven numerator' denominator' := by
  rw [div_eq_div_iff_mul positive positive'] at same
  calc divideToEven numerator denominator
      = divideToEven (denominator' * numerator) (denominator' * denominator) :=
        (divideToEven_mul_mul positive' _ _).symm
    _ = divideToEven (denominator * numerator') (denominator * denominator') := by
        rw [Nat.mul_comm denominator' numerator, same, Nat.mul_comm numerator',
          Nat.mul_comm denominator']
    _ = divideToEven numerator' denominator' := divideToEven_mul_mul positive _ _

theorem divideToEven_one (value : Nat) : divideToEven value 1 = value := by
  simp [divideToEven, Nat.mod_one]

theorem reachesPower_iff (positive : 0 < denominator) (power : Int) :
    reachesPower numerator denominator power = true ↔
      (2 : ℚ) ^ power ≤ (numerator : ℚ) / denominator := by
  have denominatorPositive : (0 : ℚ) < denominator := by exact_mod_cast positive
  have powerPositive : (0 : ℚ) < powerDenominator 2 power := by
    exact_mod_cast powerDenominator_pos (by decide) power
  have quotient := powerNumerator_div_powerDenominator (by decide : 0 < 2) power
  rw [Nat.cast_ofNat] at quotient
  rw [reachesPower, decide_eq_true_iff, ← quotient,
    div_le_div_iff₀ powerPositive denominatorPositive, mul_comm denominator]
  exact_mod_cast Iff.rfl

theorem gridExponent_eq (numeratorPositive : 0 < numerator)
    (denominatorPositive : 0 < denominator) :
    gridExponent numerator denominator =
      max (-1074) (Int.log 2 ((numerator : ℚ) / denominator) - 52) := by
  have positive : (0 : ℚ) < (numerator : ℚ) / denominator := by positivity
  obtain ⟨lower, upper⟩ := div_between_powers (by decide : 1 < 2)
    (Nat.log2_self_le numeratorPositive.ne') Nat.lt_log2_self
    (Nat.log2_self_le denominatorPositive.ne') Nat.lt_log2_self
  simp only [gridExponent]
  congr 1
  split
  next reached =>
    rw [reachesPower_iff denominatorPositive] at reached
    rw [log_eq_of_between (by decide) positive reached upper]
  next unreached =>
    rw [reachesPower_iff denominatorPositive, not_le] at unreached
    rw [log_eq_of_between (by decide) positive lower (by rwa [sub_add_cancel])]
    ring

/-- The nearest double depends on the value of the quotient only. -/
theorem nearestMagnitude_congr (positive : 0 < denominator) (positive' : 0 < denominator')
    (same : (numerator : ℚ) / denominator = (numerator' : ℚ) / denominator') :
    nearestMagnitude numerator denominator = nearestMagnitude numerator' denominator' := by
  have crossed := (div_eq_div_iff_mul positive positive').1 same
  have bothZero : numerator = 0 ↔ numerator' = 0 := by
    constructor
    · rintro rfl
      rw [Nat.zero_mul, eq_comm, Nat.mul_eq_zero] at crossed
      exact crossed.resolve_right positive.ne'
    · rintro rfl
      rw [Nat.zero_mul, Nat.mul_eq_zero] at crossed
      exact crossed.resolve_right positive'.ne'
  unfold nearestMagnitude
  simp only [bothZero]
  split
  · rfl
  next nonzero =>
    have numeratorPositive : 0 < numerator := Nat.pos_of_ne_zero (mt bothZero.1 nonzero)
    have exponents : gridExponent numerator denominator =
        gridExponent numerator' denominator' := by
      rw [gridExponent_eq numeratorPositive positive,
        gridExponent_eq (Nat.pos_of_ne_zero nonzero) positive', same]
    have mantissas : divideToEven
        (numerator * powerDenominator 2 (gridExponent numerator' denominator'))
        (denominator * powerNumerator 2 (gridExponent numerator' denominator')) =
        divideToEven
          (numerator' * powerDenominator 2 (gridExponent numerator' denominator'))
          (denominator' * powerNumerator 2 (gridExponent numerator' denominator')) := by
      refine divideToEven_congr (Nat.mul_pos positive (powerNumerator_pos (by decide) _))
        (Nat.mul_pos positive' (powerNumerator_pos (by decide) _)) ?_
      rw [unscaled_div (by decide), unscaled_div (by decide), same]
    rw [exponents, mantissas]

/-- The mantissa and the exponent that a finite double is decoded to. -/
structure OnGrid (mantissa : Nat) (exponent : Int) : Prop where
  short : mantissa < 2 ^ 53
  finest : -1074 ≤ exponent
  /-- Only on the finest grid is the leading bit of the mantissa not set. -/
  leading : 2 ^ 52 ≤ mantissa ∨ exponent = -1074

namespace OnGrid

variable {mantissa : Nat} {exponent : Int}

theorem max_log_eq (grid : OnGrid mantissa exponent) (positive : 0 < mantissa) :
    max (-1074) (Int.log 2 ((mantissa : ℚ) * 2 ^ exponent) - 52) = exponent := by
  have mantissaPositive : (0 : ℚ) < mantissa := by exact_mod_cast positive
  have valuePositive : (0 : ℚ) < (mantissa : ℚ) * 2 ^ exponent := by positivity
  have upper : Int.log 2 ((mantissa : ℚ) * 2 ^ exponent) < exponent + 53 := by
    rw [← Int.lt_zpow_iff_log_lt (by decide) valuePositive, add_comm,
      Nat.cast_ofNat, zpow_add₀ (by norm_num)]
    have short : (mantissa : ℚ) < 2 ^ (53 : Int) := by exact_mod_cast grid.short
    exact mul_lt_mul_of_pos_right short (by positivity)
  rcases grid.leading with leading | lowest
  · have lower : exponent + 52 ≤ Int.log 2 ((mantissa : ℚ) * 2 ^ exponent) := by
      rw [← Int.zpow_le_iff_le_log (by decide) valuePositive, add_comm,
        Nat.cast_ofNat, zpow_add₀ (by norm_num)]
      have long : (2 : ℚ) ^ (52 : Int) ≤ mantissa := by exact_mod_cast leading
      exact mul_le_mul_of_nonneg_right long (by positivity)
    have finest := grid.finest
    omega
  · omega

/-- A double is the one nearest to its own value. -/
theorem nearestMagnitude_eq (grid : OnGrid mantissa exponent) (positive : 0 < mantissa)
    (finite : (exponent + 1074).toNat * fieldUnit + mantissa < infinityBits) :
    nearestMagnitude (mantissa * powerNumerator 2 exponent) (powerDenominator 2 exponent) =
      (exponent + 1074).toNat * fieldUnit + mantissa := by
  have numeratorPositive : 0 < mantissa * powerNumerator 2 exponent :=
    Nat.mul_pos positive (powerNumerator_pos (by decide) _)
  have denominatorPositive := powerDenominator_pos (by decide : 0 < 2) exponent
  have value : ((mantissa * powerNumerator 2 exponent : Nat) : ℚ) / powerDenominator 2 exponent =
      mantissa * 2 ^ exponent := by
    have scaled := scaled_div (by decide : 0 < 2) exponent mantissa 1
    simpa using scaled
  have exponents : gridExponent (mantissa * powerNumerator 2 exponent)
      (powerDenominator 2 exponent) = exponent := by
    rw [gridExponent_eq numeratorPositive denominatorPositive, value,
      grid.max_log_eq positive]
  have mantissas : divideToEven
      (mantissa * powerNumerator 2 exponent * powerDenominator 2 exponent)
      (powerDenominator 2 exponent * powerNumerator 2 exponent) = mantissa := by
    rw [Nat.mul_assoc, Nat.mul_comm mantissa, Nat.mul_comm (powerDenominator 2 exponent)]
    have reduced := divideToEven_mul_mul
      (Nat.mul_pos (powerNumerator_pos (by decide : 0 < 2) exponent) denominatorPositive)
      mantissa 1
    rwa [Nat.mul_one, divideToEven_one] at reduced
  unfold nearestMagnitude
  rw [if_neg numeratorPositive.ne']
  simp only [exponents, mantissas]
  exact min_eq_right finite.le

end OnGrid

/-- The sign, the place and the value of what a finite double is decoded to. -/
theorem decode_finite {x : Float} {negative : Bool} {mantissa : Nat} {exponent : Int}
    (decoded : decode x = .finite negative mantissa exponent) :
    negative = isNegative x ∧ OnGrid mantissa exponent ∧
      (exponent + 1074).toNat * fieldUnit + mantissa = magnitudeOf x ∧
      magnitudeOf x < infinityBits := by
  unfold decode at decoded
  simp only at decoded
  split at decoded
  · contradiction
  next isNumber =>
    split at decoded
    · contradiction
    next notInfinite =>
      have finite : magnitudeOf x < infinityBits :=
        lt_of_le_of_ne (not_lt.1 isNumber) notInfinite
      split at decoded
      next noField =>
        obtain ⟨rfl, rfl, rfl⟩ := decoded
        refine ⟨rfl, ⟨?_, le_rfl, .inr rfl⟩, ?_, finite⟩
        all_goals simp only [fieldUnit] at *
        all_goals omega
      next someField =>
        obtain ⟨rfl, rfl, rfl⟩ := decoded
        refine ⟨rfl, ⟨?_, ?_, .inl ?_⟩, ?_, finite⟩
        all_goals simp only [fieldUnit] at *
        all_goals omega

end Binary64

end RewardFormula
