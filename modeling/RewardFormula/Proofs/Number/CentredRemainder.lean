import RewardFormula.Proofs.Number.NearestIntegers
import RewardFormula.Proofs.Number.TruncatedRemainder

/-!
# The centred remainder

The rest of the truncated remainder is moved by one divisor or not, which needs no rounding. So it
differs from the dividend by a multiple of the divisor, and the quotient is the nearest one unless
half of the divisor is no double.
-/

namespace RewardFormula

namespace Binary64

/-- A double is an odd multiple of the least positive double. Its half is no double. -/
def IsOddMultiple (x : Float) : Prop :=
  ∃ steps : Nat, Odd steps ∧ |value x| = steps * 2 ^ (-1074 : Int)

namespace Decodes

variable {x : Float} {mantissa : Nat} {exponent : Int} (decodes : Decodes x mantissa exponent)

include decodes

/-- The half of a double is a double, unless the double is an odd number of the smallest steps. -/
theorem half_standsFor (other : exponent = -1074 → Even mantissa) :
    StandsFor (x.abs / 2) (|value x| / 2) := by
  obtain ⟨finite, magnitude⟩ := abs_standsFor decodes.finite
  have short := decodes.grid.short
  have finest := decodes.grid.finest
  have exact : ∃ (steps : Nat) (scale : Int), -1074 ≤ scale ∧ steps < 2 ^ 53 ∧
      |value x| / 2 = steps * 2 ^ scale := by
    by_cases lowest : exponent = -1074
    · obtain ⟨half, rfl⟩ := other lowest
      refine ⟨half, exponent, finest, by omega, ?_⟩
      rw [decodes.abs_value]
      push_cast
      ring
    · refine ⟨mantissa, exponent - 1, by omega, short, ?_⟩
      rw [decodes.abs_value, zpow_sub₀ (by norm_num)]
      ring
  obtain ⟨steps, scale, finest, short, same⟩ := exact
  obtain ⟨half, stands⟩ := decodes.exists_standsFor finest same short
    (half_le_self (abs_nonneg _)) false
  have quotient := div_standsFor (z := half) finite isFinite_two (by rw [value_two]; norm_num)
    (by rw [magnitude, value_two]; exact stands)
  rw [magnitude, value_two] at quotient
  exact quotient

theorem half_eq_nearest (nonzero : value x ≠ 0) :
    x.abs / 2 = nearest false (mantissa * powerNumerator 2 exponent)
      (2 * powerDenominator 2 exponent) := by
  obtain ⟨finite, magnitude⟩ := abs_standsFor decodes.finite
  have absNonzero := abs_ne_zero.2 nonzero
  have half : |value x| / 2 = signed false
      ((mantissa * powerNumerator 2 exponent : Nat) / (2 * powerDenominator 2 exponent : Nat)) := by
    rw [scaled_div (by decide : 0 < 2), decodes.abs_value]
    exact mul_div_right_comm _ _ _
  rw [div_eq_ofRational finite isFinite_two (by rw [value_two]; norm_num)
    (by rw [magnitude]; exact absNonzero), magnitude, value_two]
  exact (nearest_eq_ofRational (Nat.mul_pos (by decide) (powerDenominator_pos (by decide) _)) half
    (by positivity)).symm

end Decodes

/-- A quotient by two is rounded to a number next to it. -/
theorem divideToEven_two (number : Nat) :
    2 * divideToEven number 2 ≤ number + 1 ∧ number ≤ 2 * divideToEven number 2 + 1 := by
  unfold divideToEven
  dsimp only
  split
  · omega
  · split
    · omega
    · omega

/-- The half of a number of the smallest steps is rounded to a number next to it. -/
theorem Decodes.rounded_half_standsFor {x : Float} {mantissa : Nat}
    (decodes : Decodes x mantissa (-1074)) (nonzero : value x ≠ 0) :
    StandsFor (x.abs / 2) (divideToEven mantissa 2 * 2 ^ (-1074 : Int)) := by
  have short := decodes.grid.short
  have next := divideToEven_two mantissa
  have target : (-1074 : Int) + (0 : Nat) =
      max (((mantissa / 2).log2 : Int) + 1 + (-1074) - 53) (-1074) := by
    have log : (mantissa / 2).log2 ≤ 52 := by
      rcases Nat.eq_zero_or_pos (mantissa / 2) with zero | some
      · rw [zero]
        decide
      · exact log2_le_of_lt some (by omega)
    omega
  have rounded := nearestMagnitude_shifted (by decide : 0 < 2)
    (.inr (le_refl _)) target
  have small : ((-1074 : Int) + 1074).toNat * fieldUnit + divideToEven mantissa 2 <
      infinityBits := by
    simp only [fieldUnit, infinityBits]
    omega
  have half := decodes_ofMagnitude false
    (⟨by omega, le_refl _, .inr rfl⟩ : OnGrid (divideToEven mantissa 2) (-1074)) small
  rw [decodes.half_eq_nearest nonzero, nearest, rounded, Nat.cast_zero, add_zero, pow_zero,
    Nat.mul_one, min_eq_right small.le]
  refine ⟨half.finite, ?_⟩
  rw [half.value_eq, isNegative_ofMagnitude small.le]
  rfl

/-- A difference is a double if it is not larger than the number that is on the finer scale. -/
theorem Decodes.exists_sub_standsFor {x y : Float} {mantissa mantissa' : Nat}
    {exponent exponent' : Int} (decodes : Decodes x mantissa exponent)
    (decodes' : Decodes y mantissa' exponent') (less : |value x| ≤ |value y|)
    (near : exponent' ≤ exponent ∨ |value y| - |value x| ≤ |value x|) (negative : Bool) :
    ∃ z, StandsFor z (signed negative (|value y| - |value x|)) := by
  rcases le_or_gt exponent' exponent with finer | finer
  · have steps := decodes.abs_value_eq_steps finer
    have steps' := decodes'.abs_value
    have notMore : mantissa * powerNumerator 2 (exponent - exponent') ≤ mantissa' := by
      rw [← natCast_mul_zpow_le_iff exponent', ← steps, ← steps']
      exact less
    have same : |value y| - |value x| =
        (mantissa' - mantissa * powerNumerator 2 (exponent - exponent') : Nat) * 2 ^ exponent' := by
      rw [Nat.cast_sub notMore, sub_mul, steps, steps']
    have short := decodes'.grid.short
    exact decodes'.exists_standsFor decodes'.grid.finest same (by omega)
      (sub_le_self _ (abs_nonneg _)) negative
  · have notFar := near.resolve_left (by omega)
    have steps := decodes.abs_value
    have steps' := decodes'.abs_value_eq_steps finer.le
    have notMore : mantissa ≤ mantissa' * powerNumerator 2 (exponent' - exponent) := by
      rw [← natCast_mul_zpow_le_iff exponent, ← steps, ← steps']
      exact less
    have same : |value y| - |value x| =
        (mantissa' * powerNumerator 2 (exponent' - exponent) - mantissa : Nat) * 2 ^ exponent := by
      rw [Nat.cast_sub notMore, sub_mul, steps, steps']
    have short : mantissa' * powerNumerator 2 (exponent' - exponent) - mantissa ≤ mantissa := by
      rw [← natCast_mul_zpow_le_iff exponent, ← same, ← steps]
      exact notFar
    have bound := decodes.grid.short
    exact decodes.exists_standsFor decodes.grid.finest same (by omega) notFar negative

namespace Truncates

variable {dividend divisor rest : Float} {quotient : Nat}
  (truncates : Truncates dividend divisor rest quotient)

include truncates

theorem divisor_pos : 0 < |value divisor| :=
  (abs_nonneg _).trans_lt truncates.less

theorem rest_value : value rest = signed (isNegative dividend)
    (|value dividend| - quotient * |value divisor|) := by
  rw [truncates.total, add_sub_cancel_left, ← truncates.sign]
  exact value_eq_signed truncates.finite

/-- The rest moved by one divisor, where the difference is a double. -/
theorem moved_standsFor (finite' : isFinite divisor = true) {z : Float}
    (stands : StandsFor z (signed (!isNegative dividend) (|value divisor| - |value rest|))) :
    StandsFor (rest - withSignOf divisor.abs rest) (signed (isNegative dividend)
      (|value dividend| - (quotient + 1 : Nat) * |value divisor|)) := by
  obtain ⟨finite, magnitude⟩ := abs_standsFor finite'
  obtain ⟨signedFinite, resigned⟩ := withSignOf_standsFor finite rest
  rw [magnitude, abs_abs, truncates.sign] at resigned
  have moved : |value dividend| - (quotient + 1 : Nat) * |value divisor| =
      |value rest| - |value divisor| := by
    rw [truncates.total]
    push_cast
    ring
  have difference : value rest - value (withSignOf divisor.abs rest) =
      signed (isNegative dividend) (|value rest| - |value divisor|) := by
    rw [resigned, value_eq_signed truncates.finite, truncates.sign, abs_signed, abs_abs,
      signed_sub_signed]
  have opposite : signed (!isNegative dividend) (|value divisor| - |value rest|) =
      signed (isNegative dividend) (|value rest| - |value divisor|) := by
    rw [signed_not, ← signed_neg, neg_sub]
  rw [opposite, ← difference] at stands
  rw [moved, ← difference]
  exact sub_standsFor truncates.finite signedFinite stands

end Truncates

/-- The odd part of a double and its scale. -/
theorem Decodes.exists_odd {x : Float} {mantissa : Nat} {exponent : Int}
    (decodes : Decodes x mantissa exponent) (nonzero : value x ≠ 0) :
    ∃ (odd : Nat) (scale : Int), Odd odd ∧ -1074 ≤ scale ∧ |value x| = odd * 2 ^ scale := by
  obtain ⟨shift, odd, isOdd, rfl⟩ :=
    Nat.exists_eq_two_pow_mul_odd (mt decodes.value_eq_zero_iff.2 nonzero)
  have finest := decodes.grid.finest
  refine ⟨odd, exponent + shift, isOdd, by omega, ?_⟩
  rw [decodes.abs_value, zpow_add₀ (by norm_num), zpow_natCast]
  push_cast
  ring

/-- The odd part of a double is not larger than its mantissa. -/
theorem Decodes.odd_le {x : Float} {mantissa : Nat} {exponent : Int}
    (decodes : Decodes x mantissa exponent) {odd : Nat} {scale : Int} (isOdd : Odd odd)
    (same : |value x| = odd * 2 ^ scale) : odd ≤ mantissa := by
  rcases lt_or_ge scale exponent with finer | coarser
  · obtain ⟨shift, sameShift⟩ : ∃ shift : Nat, exponent - scale = shift + 1 :=
      ⟨(exponent - scale - 1).toNat, by omega⟩
    have even : odd = mantissa * powerNumerator 2 (exponent - scale) := by
      have equal := decodes.abs_value_eq_steps finer.le
      rw [same] at equal
      exact Nat.le_antisymm ((natCast_mul_zpow_le_iff scale).1 equal.le)
        ((natCast_mul_zpow_le_iff scale).1 equal.ge)
    have power : powerNumerator 2 (exponent - scale) = 2 ^ shift * 2 := by
      rw [sameShift, powerNumerator]
      exact pow_succ 2 shift
    rw [power, ← Nat.mul_assoc] at even
    obtain ⟨half, sameHalf⟩ := isOdd
    omega
  · rw [← natCast_mul_zpow_le_iff exponent, ← decodes.abs_value, same]
    exact mul_le_mul_of_nonneg_left (zpow_le_zpow_right₀ (by norm_num) coarser) (by positivity)

namespace Truncates

variable {dividend divisor rest : Float} {quotient : Nat}
  (truncates : Truncates dividend divisor rest quotient) (finite : isFinite dividend = true)

include truncates finite

/-- At a tie the dividend is an odd number of halves, which has at most 53 bits. -/
theorem exists_odd_half (tie : 2 * |value rest| = |value divisor|) :
    ∃ (odd : Nat) (scale : Int), 0 < odd ∧ -1074 ≤ scale ∧
      |value divisor| = (2 * odd : Nat) * 2 ^ scale ∧ (2 * quotient + 1) * odd < 2 ^ 53 := by
  obtain ⟨mantissa, exponent, decodes⟩ := exists_decodes finite
  obtain ⟨_, _, restDecodes⟩ := exists_decodes truncates.finite
  have nonzero : value rest ≠ 0 := by
    intro zero
    rw [zero, abs_zero, mul_zero] at tie
    exact truncates.divisor_pos.ne tie
  obtain ⟨odd, scale, isOdd, finest, same⟩ := restDecodes.exists_odd nonzero
  have sameDividend : |value dividend| = ((2 * quotient + 1) * odd : Nat) * 2 ^ scale := by
    rw [truncates.total, ← tie, same]
    push_cast
    ring
  refine ⟨odd, scale, isOdd.pos, finest, ?_, ?_⟩
  · rw [← tie, same, Nat.cast_mul, Nat.cast_ofNat, mul_assoc]
  · exact (decodes.odd_le ((odd_two_mul_add_one quotient).mul isOdd) sameDividend).trans_lt
      decodes.grid.short

/-- At a tie the quotient is found without rounding, so that its parity can be told. -/
theorem quotient_standsFor (finite' : isFinite divisor = true)
    (tie : 2 * |value rest| = |value divisor|) :
    StandsFor ((dividend - rest) / divisor)
      (signed (isNegative dividend != isNegative divisor) quotient) := by
  obtain ⟨mantissa, exponent, decodes⟩ := exists_decodes finite
  obtain ⟨odd, scale, positive, finest, sameDivisor, short⟩ := truncates.exists_odd_half finite tie
  have sameWhole : quotient * |value divisor| = (2 * quotient * odd : Nat) * 2 ^ scale := by
    rw [sameDivisor]
    push_cast
    ring
  have shortWhole : 2 * quotient * odd < 2 ^ 53 := by
    rw [Nat.add_mul] at short
    omega
  have shortQuotient : quotient < 2 ^ 53 := by
    have notLess := Nat.le_mul_of_pos_right (2 * quotient + 1) positive
    omega
  have notLarger : quotient * |value divisor| ≤ |value dividend| := by
    rw [truncates.total]
    exact le_add_of_nonneg_right (abs_nonneg _)
  have difference : value dividend - value rest =
      signed (isNegative dividend) (quotient * |value divisor|) := by
    rw [value_eq_signed finite, value_eq_signed truncates.finite, truncates.sign,
      signed_sub_signed, truncates.total, add_sub_cancel_right]
  obtain ⟨z, stands⟩ := decodes.exists_standsFor finest sameWhole shortWhole notLarger
    (isNegative dividend)
  obtain ⟨wholeFinite, wholeValue⟩ :=
    sub_standsFor finite truncates.finite (by rw [difference]; exact stands)
  have ratio : value (dividend - rest) / value divisor =
      signed (isNegative dividend != isNegative divisor) quotient := by
    rw [wholeValue, value_eq_signed finite', difference, signed_div_signed,
      mul_div_cancel_right₀ _ truncates.divisor_pos.ne']
  have stands' := ofScaled_whole_standsFor (isNegative dividend != isNegative divisor) shortQuotient
  rw [← ratio] at stands' ⊢
  exact div_standsFor wholeFinite finite' (abs_pos.1 truncates.divisor_pos) stands'

end Truncates

/-! ## The centred remainder -/

/-- Whether the rest is moved by one divisor: it is past the half, or at the half behind an odd
quotient. -/
def movesRest (dividend divisor rest : Float) : Bool :=
  decide (divisor.abs / 2 < rest.abs) ||
    (rest.abs == divisor.abs / 2 && truncatedRemainder ((dividend - rest) / divisor) 2 != 0)

theorem centredRemainder_eq {dividend divisor : Float}
    (finite : isFinite (truncatedRemainder dividend divisor) = true) :
    centredRemainder dividend divisor =
      if value (truncatedRemainder dividend divisor) ≠ 0 ∧
          movesRest dividend divisor (truncatedRemainder dividend divisor) = true then
        truncatedRemainder dividend divisor -
          withSignOf divisor.abs (truncatedRemainder dividend divisor)
      else truncatedRemainder dividend divisor := by
  have zero := beq_iff_value_eq finite isFinite_zero
  rw [value_zero] at zero
  unfold centredRemainder
  simp only [isFinite_eq, finite, Bool.not_true, Bool.false_or, zero]
  by_cases none : value (truncatedRemainder dividend divisor) = 0
  · rw [if_pos none, if_neg (fun moves => moves.1 none)]
  · simp only [ne_eq, none, not_false_eq_true, true_and]
    rfl

/-- A result is the dividend without a multiple of the divisor, counted regardless of signs. The
count is the nearest one, or the result is half of the smallest step too far out. -/
structure Centred (dividend divisor result : Float) (count : Nat) : Prop where
  exact : StandsFor result (signed (isNegative dividend)
    (|value dividend| - count * |value divisor|))
  nearest : IsNearestEven (|value dividend| / |value divisor|) count ∨
    IsOddMultiple divisor ∧ 2 * |value result| = |value divisor| + 2 ^ (-1074 : Int)

namespace Truncates

variable {dividend divisor rest : Float} {quotient : Nat}
  (truncates : Truncates dividend divisor rest quotient)

include truncates

theorem isNearest_kept (near : 2 * |value rest| ≤ |value divisor|)
    (tie : 2 * |value rest| = |value divisor| → Even quotient) :
    IsNearestEven (|value dividend| / |value divisor|) quotient := by
  have positive := truncates.divisor_pos
  have distance : |(|value dividend| / |value divisor| - ((quotient : Int) : ℚ))| =
      |value rest| / |value divisor| := by
    rw [truncates.total, Int.cast_natCast, add_div, mul_div_cancel_right₀ _ positive.ne',
      add_sub_cancel_left]
    exact abs_of_nonneg (by positivity)
  refine isNearest_of_half ?_ fun half => Int.even_coe_nat _ |>.2 (tie ?_)
  · rw [distance, div_le_div_iff₀ positive (by norm_num)]
    linarith
  · rw [distance, div_eq_div_iff positive.ne' (by norm_num)] at half
    linarith

theorem isNearest_moved (near : |value divisor| ≤ 2 * |value rest|)
    (tie : 2 * |value rest| = |value divisor| → Odd quotient) :
    IsNearestEven (|value dividend| / |value divisor|) (quotient + 1 : Nat) := by
  have positive := truncates.divisor_pos
  have distance : |(|value dividend| / |value divisor| - (((quotient + 1 : Nat) : Int) : ℚ))| =
      (|value divisor| - |value rest|) / |value divisor| := by
    have less := truncates.less
    rw [truncates.total, Int.cast_natCast, add_div, mul_div_cancel_right₀ _ positive.ne', sub_div,
      div_self positive.ne', abs_sub_comm]
    push_cast
    rw [add_sub_add_left_eq_sub]
    refine abs_of_nonneg (sub_nonneg.2 ?_)
    exact (div_le_one positive).2 less.le
  refine isNearest_of_half ?_ fun half => Int.even_coe_nat _ |>.2 (tie ?_).add_one
  · rw [distance, div_le_div_iff₀ positive (by norm_num)]
    linarith
  · rw [distance, div_eq_div_iff positive.ne' (by norm_num)] at half
    linarith

theorem movesRest_iff {half : ℚ} (stands : StandsFor (divisor.abs / 2) half) :
    movesRest dividend divisor rest = true ↔ half < |value rest| ∨
      |value rest| = half ∧
        (truncatedRemainder ((dividend - rest) / divisor) 2 != 0) = true := by
  obtain ⟨restFinite, magnitude⟩ := abs_standsFor truncates.finite
  rw [movesRest, Bool.or_eq_true, Bool.and_eq_true, decide_eq_true_iff,
    lt_iff_value_lt stands.finite restFinite, beq_iff_value_eq restFinite stands.finite, magnitude,
    stands.value_eq]

section Finite

variable (finite : isFinite dividend = true) (finite' : isFinite divisor = true)

include finite finite'

theorem quotientIsOdd_iff (tie : 2 * |value rest| = |value divisor|) :
    (truncatedRemainder ((dividend - rest) / divisor) 2 != 0) = true ↔ Odd quotient := by
  obtain ⟨wholeFinite, whole⟩ := truncates.quotient_standsFor finite finite' tie
  obtain ⟨_, byTwo⟩ := exists_truncates wholeFinite isFinite_two (by rw [value_two]; norm_num)
  exact byTwo.rest_ne_zero_iff (by rw [whole, abs_signed, Nat.abs_cast])

/-- The rest, moved or not, where half of the divisor is a double. -/
theorem exists_centred_of_half (half : StandsFor (divisor.abs / 2) (|value divisor| / 2)) :
    ∃ count, Centred dividend divisor
      (if value rest ≠ 0 ∧ movesRest dividend divisor rest = true then
        rest - withSignOf divisor.abs rest else rest) count := by
  have moves := truncates.movesRest_iff half
  have parity := truncates.quotientIsOdd_iff finite finite'
  split
  next moved =>
    have notBefore : |value divisor| ≤ 2 * |value rest| ∧
        (2 * |value rest| = |value divisor| → Odd quotient) := by
      rcases moves.1 moved.2 with past | ⟨same, odd⟩
      · exact ⟨by linarith, fun tie => by linarith⟩
      · exact ⟨by linarith, fun tie => (parity tie).1 odd⟩
    obtain ⟨mantissa, exponent, decodes⟩ := exists_decodes truncates.finite
    obtain ⟨mantissa', exponent', decodes'⟩ := exists_decodes finite'
    obtain ⟨z, stands⟩ := decodes.exists_sub_standsFor decodes' truncates.less.le
      (.inr (by linarith [notBefore.1])) (!isNegative dividend)
    exact ⟨quotient + 1, truncates.moved_standsFor finite' stands,
      .inl (truncates.isNearest_moved notBefore.1 notBefore.2)⟩
  next kept =>
    have notPast : 2 * |value rest| ≤ |value divisor| ∧
        (2 * |value rest| = |value divisor| → Even quotient) := by
      by_cases zero : value rest = 0
      · rw [zero, abs_zero, mul_zero]
        exact ⟨abs_nonneg _, fun tie => absurd tie truncates.divisor_pos.ne⟩
      · have stays := mt (fun moved => And.intro zero (moves.2 moved)) kept
        rw [not_or, not_lt, not_and] at stays
        refine ⟨by linarith [stays.1], fun tie => ?_⟩
        rw [← Nat.not_odd_iff_even, ← parity tie]
        exact stays.2 (by linarith)
    exact ⟨quotient, ⟨truncates.finite, truncates.rest_value⟩,
      .inl (truncates.isNearest_kept notPast.1 notPast.2)⟩

end Finite

end Truncates

/-! ## Divisors whose half is rounded -/

/-- A rest and a divisor in the smallest steps, with an odd number of them for the divisor. -/
structure InSteps (rest divisor : Float) (steps steps' : Nat) : Prop where
  rest_eq : |value rest| = steps * 2 ^ (-1074 : Int)
  divisor_eq : |value divisor| = steps' * 2 ^ (-1074 : Int)
  odd : Odd steps'

namespace InSteps

variable {dividend divisor rest : Float} {quotient steps steps' : Nat}
  (inSteps : InSteps rest divisor steps steps')

include inSteps

theorem twice_rest_eq : 2 * |value rest| = (2 * steps : Nat) * 2 ^ (-1074 : Int) := by
  rw [inSteps.rest_eq, Nat.cast_mul, Nat.cast_ofNat, mul_assoc]

theorem twice_rest_le_iff : 2 * |value rest| ≤ |value divisor| ↔ 2 * steps ≤ steps' := by
  rw [inSteps.twice_rest_eq, inSteps.divisor_eq, natCast_mul_zpow_le_iff]

theorem le_twice_rest_iff : |value divisor| ≤ 2 * |value rest| ↔ steps' ≤ 2 * steps := by
  rw [inSteps.twice_rest_eq, inSteps.divisor_eq, natCast_mul_zpow_le_iff]

/-- An odd number of steps has no half in steps. -/
theorem not_tie : 2 * |value rest| ≠ |value divisor| := by
  intro tie
  have notMore := inSteps.twice_rest_le_iff.1 tie.le
  have notLess := inSteps.le_twice_rest_iff.1 tie.ge
  obtain ⟨half, odd⟩ := inSteps.odd
  omega

theorem isOddMultiple : IsOddMultiple divisor :=
  ⟨steps', inSteps.odd, inSteps.divisor_eq⟩

theorem centred_kept (truncates : Truncates dividend divisor rest quotient)
    (notPast : 2 * steps ≤ steps' + 1) : Centred dividend divisor rest quotient := by
  refine ⟨⟨truncates.finite, truncates.rest_value⟩, ?_⟩
  by_cases before : 2 * steps ≤ steps'
  · exact .inl (truncates.isNearest_kept (inSteps.twice_rest_le_iff.2 before)
      fun tie => absurd tie inSteps.not_tie)
  · have same : 2 * steps = steps' + 1 := by
      omega
    refine .inr ⟨inSteps.isOddMultiple, ?_⟩
    rw [inSteps.twice_rest_eq, inSteps.divisor_eq, same, Nat.cast_succ, add_one_mul]

theorem centred_moved (truncates : Truncates dividend divisor rest quotient) {moved : Float}
    (exact : StandsFor moved (signed (isNegative dividend)
      (|value dividend| - (quotient + 1 : Nat) * |value divisor|)))
    (notBefore : steps' ≤ 2 * steps + 1) : Centred dividend divisor moved (quotient + 1) := by
  refine ⟨exact, ?_⟩
  by_cases past : steps' ≤ 2 * steps
  · exact .inl (truncates.isNearest_moved (inSteps.le_twice_rest_iff.2 past)
      fun tie => absurd tie inSteps.not_tie)
  · have same : steps' = 2 * steps + 1 := by
      omega
    have divisorNumber : |value divisor| = 2 * |value rest| + 2 ^ (-1074 : Int) := by
      rw [inSteps.twice_rest_eq, inSteps.divisor_eq, same, Nat.cast_succ, add_one_mul]
    have resultNumber : |value moved| = |value divisor| - |value rest| := by
      rw [exact.value_eq, abs_signed, truncates.total, Nat.cast_succ, add_one_mul,
        add_sub_add_left_eq_sub, abs_sub_comm]
      exact abs_of_nonneg (sub_nonneg.2 truncates.less.le)
    refine .inr ⟨inSteps.isOddMultiple, ?_⟩
    rw [resultNumber]
    linarith

end InSteps

/-- The rest, moved or not, where half of the divisor is rounded. -/
theorem Truncates.exists_centred_of_odd {dividend divisor rest : Float} {quotient steps' : Nat}
    (truncates : Truncates dividend divisor rest quotient) (finite' : isFinite divisor = true)
    (decodes' : Decodes divisor steps' (-1074)) (odd : Odd steps') :
    ∃ count, Centred dividend divisor
      (if value rest ≠ 0 ∧ movesRest dividend divisor rest = true then
        rest - withSignOf divisor.abs rest else rest) count := by
  obtain ⟨mantissa, exponent, decodes⟩ := exists_decodes truncates.finite
  have finest := decodes.grid.finest
  have moves := truncates.movesRest_iff
    (decodes'.rounded_half_standsFor (abs_pos.1 truncates.divisor_pos))
  have next := divideToEven_two steps'
  obtain ⟨steps, number⟩ : ∃ steps : Nat, |value rest| = steps * 2 ^ (-1074 : Int) :=
    ⟨_, decodes.abs_value_eq_steps finest⟩
  have inSteps : InSteps rest divisor steps steps' := ⟨number, decodes'.abs_value, odd⟩
  split
  next moved =>
    have reached : divideToEven steps' 2 ≤ steps := by
      rw [← natCast_mul_zpow_le_iff (-1074), ← number]
      exact (moves.1 moved.2).elim le_of_lt (fun same => same.1.ge)
    obtain ⟨z, stands⟩ := decodes.exists_sub_standsFor decodes' truncates.less.le (.inl finest)
      (!isNegative dividend)
    exact ⟨_, inSteps.centred_moved truncates (truncates.moved_standsFor finite' stands)
      (by omega)⟩
  next kept =>
    have notReached : steps ≤ divideToEven steps' 2 := by
      rw [← natCast_mul_zpow_le_iff (-1074), ← number]
      by_cases zero : value rest = 0
      · rw [zero, abs_zero]
        positivity
      · exact not_lt.1 fun past => kept ⟨zero, moves.2 (.inl past)⟩
    exact ⟨_, inSteps.centred_kept truncates (by omega)⟩

section Centred

variable {dividend divisor result : Float} {count : Nat}
  (centred : Centred dividend divisor result count)

include centred

theorem Centred.abs_value_le (positive : 0 < |value divisor|)
    (nearest : IsNearestEven (|value dividend| / |value divisor|) count) :
    2 * |value result| ≤ |value divisor| := by
  have near := nearest.abs_sub_le
  have distance : |value result| =
      |(|value dividend| / |value divisor| - ((count : Int) : ℚ))| * |value divisor| := by
    conv_rhs => rw [← abs_of_pos positive, ← abs_mul]
    rw [centred.exact.value_eq, abs_signed, Int.cast_natCast, abs_abs, sub_mul,
      div_mul_cancel₀ _ positive.ne']
  have scaled := mul_le_mul_of_nonneg_right near positive.le
  rw [distance]
  linarith

end Centred

end Binary64

open Binary64

/-- The centred remainder is the dividend without a whole multiple of the divisor. Its quotient is
the nearest integer, the even one of two; only where half of the divisor is no double, the
remainder may be half of the smallest step too far from zero. -/
theorem centredRemainder_eq_sub_mul {dividend divisor : Float} (finite : isFinite dividend = true)
    (finite' : isFinite divisor = true) (nonzero : value divisor ≠ 0) : ∃ quotient : ℤ,
    StandsFor (centredRemainder dividend divisor) (value dividend - quotient * value divisor) ∧
      (IsNearestEven (value dividend / value divisor) quotient ∧
          2 * |value (centredRemainder dividend divisor)| ≤ |value divisor| ∨
        IsOddMultiple divisor ∧
          2 * |value (centredRemainder dividend divisor)| =
            |value divisor| + 2 ^ (-1074 : Int)) := by
  obtain ⟨_, truncates⟩ := exists_truncates finite finite' nonzero
  obtain ⟨mantissa, exponent, decodes⟩ := exists_decodes finite'
  obtain ⟨count, centred⟩ : ∃ count,
      Centred dividend divisor (centredRemainder dividend divisor) count := by
    rw [centredRemainder_eq truncates.finite]
    by_cases half : exponent = -1074 → Even mantissa
    · exact truncates.exists_centred_of_half finite finite' (decodes.half_standsFor half)
    · rw [Classical.not_imp, Nat.not_even_iff_odd] at half
      obtain ⟨rfl, odd⟩ := half
      exact truncates.exists_centred_of_odd finite' decodes odd
  have number := value_eq_signed finite
  have number' := value_eq_signed finite'
  refine ⟨signedCount (isNegative dividend != isNegative divisor) count, ?_, ?_⟩
  · have exact := centred.exact
    rw [← signed_sub_signed, ← number, ← signed_mul_signed _ (isNegative divisor), ← number',
      ← cast_signedCount] at exact
    exact exact
  · refine centred.nearest.imp_left fun nearest =>
      ⟨?_, centred.abs_value_le truncates.divisor_pos nearest⟩
    have ratio := isNearestEven_signed nearest (isNegative dividend != isNegative divisor)
    rw [← signed_div_signed, ← number, ← number'] at ratio
    exact ratio

theorem centredRemainder_eq_sub_mul_seven_two :
    isFinite 7 = true ∧ isFinite 2 = true ∧ value 2 ≠ 0 ∧ ∃ quotient : ℤ,
      StandsFor (centredRemainder 7 2) (value 7 - quotient * value 2) ∧
        (IsNearestEven (value 7 / value 2) quotient ∧
            2 * |value (centredRemainder 7 2)| ≤ |value 2| ∨
          IsOddMultiple 2 ∧
            2 * |value (centredRemainder 7 2)| = |value 2| + 2 ^ (-1074 : Int)) := by
  have finite : isFinite 7 = true := by
    decide
  have nonzero : value 2 ≠ 0 := by
    rw [value_two]
    norm_num
  exact ⟨finite, isFinite_two, nonzero, centredRemainder_eq_sub_mul finite isFinite_two nonzero⟩

/-- The remainder of two by three of the smallest steps is not moved, as half of the divisor is
rounded up to two steps. -/
theorem not_centredRemainder_nearest : ¬ ∃ quotient : ℤ,
    StandsFor (centredRemainder (.ofBits 2) (.ofBits 3))
        (value (.ofBits 2) - quotient * value (.ofBits 3)) ∧
      IsNearestEven (value (.ofBits 2) / value (.ofBits 3)) quotient := by
  rintro ⟨quotient, ⟨-, exact⟩, nearest⟩
  have decoded : decode (.ofBits 2) = .finite false 2 (-1074) := by
    decide
  have decoded' : decode (.ofBits 3) = .finite false 3 (-1074) := by
    decide
  have kept : centredRemainder (.ofBits 2) (.ofBits 3) = .ofBits 2 :=
    Float.toBits_inj.1 (by decide +kernel)
  have step : (0 : ℚ) < 2 ^ (-1074 : Int) := by
    positivity
  have number : value (.ofBits 2) = 2 * 2 ^ (-1074 : Int) := by
    rw [value, decoded]
    rfl
  have number' : value (.ofBits 3) = 3 * 2 ^ (-1074 : Int) := by
    rw [value, decoded']
    rfl
  have near := nearest.abs_sub_le
  rw [kept, number, number'] at exact
  rw [number, number', mul_div_mul_right _ _ step.ne'] at near
  have none : (quotient : ℚ) = 0 := by
    have product : (quotient : ℚ) * (3 * 2 ^ (-1074 : Int)) = 0 := by
      linarith
    exact (mul_eq_zero.1 product).resolve_right (mul_ne_zero (by norm_num) step.ne')
  rw [none] at near
  norm_num at near

end RewardFormula
