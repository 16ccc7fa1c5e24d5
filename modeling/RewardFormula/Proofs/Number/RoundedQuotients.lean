import RewardFormula.Proofs.Number.Counting
import RewardFormula.Proofs.Number.Unpacked

/-!
# Rounding quotients

The arithmetic of doubles rounds a quotient from its whole part and two bits that tell what is
behind it. These bits decide as the quotient itself does, so the double that is found is the
nearest one.
-/

namespace RewardFormula

namespace Binary64

open Float.Model Float.Model.UnpackedFloat

/-- An extended mantissa has the whole part of a quotient, tells whether at least a half stands
behind it, and whether anything else does. -/
structure Extends (extended : ExtendedMantissa) (numerator denominator : Nat) : Prop where
  whole : extended.mantissa = numerator / denominator
  half : extended.roundBit = decide (denominator ≤ 2 * (numerator % denominator))
  rest : extended.stickyBit =
    decide (2 * (numerator % denominator) ≠ 0 ∧ 2 * (numerator % denominator) ≠ denominator)

section Quotients

variable {numerator denominator : Nat} {extended : ExtendedMantissa}

theorem extends_start (positive : 0 < denominator) :
    Extends (.ofMantissaAndAccuracy (numerator / denominator)
      (accuracyOfFraction (numerator % denominator) denominator)) numerator denominator := by
  unfold accuracyOfFraction
  split
  next zero =>
    refine ⟨rfl, ?_, ?_⟩
    · simp [ExtendedMantissa.ofMantissaAndAccuracy, zero, positive.ne']
    · simp [ExtendedMantissa.ofMantissaAndAccuracy, zero]
  next nonzero =>
    rcases Nat.lt_trichotomy (2 * (numerator % denominator)) denominator with below | equal | above
    · rw [Nat.compare_eq_lt.2 below]
      refine ⟨rfl, ?_, ?_⟩
      · simp [ExtendedMantissa.ofMantissaAndAccuracy, below]
      · simp [ExtendedMantissa.ofMantissaAndAccuracy, nonzero, below.ne]
    · rw [Nat.compare_eq_eq.2 equal]
      refine ⟨rfl, ?_, ?_⟩
      · simp [ExtendedMantissa.ofMantissaAndAccuracy, equal]
      · simp [ExtendedMantissa.ofMantissaAndAccuracy, equal]
    · rw [Nat.compare_eq_gt.2 above]
      refine ⟨rfl, ?_, ?_⟩
      · simp [ExtendedMantissa.ofMantissaAndAccuracy, above.le]
      · simp [ExtendedMantissa.ofMantissaAndAccuracy, nonzero, above.ne']

theorem Extends.shiftRightOne (kept : Extends extended numerator denominator)
    (positive : 0 < denominator) :
    Extends extended.shiftRightOne numerator (denominator * 2) := by
  have less := Nat.mod_lt numerator positive
  have rest : numerator % (denominator * 2) =
      numerator % denominator + denominator * (numerator / denominator % 2) :=
    Nat.mod_mul
  refine ⟨?_, ?_, ?_⟩
  · rw [ExtendedMantissa.shiftRightOne, kept.whole, Nat.div_div_eq_div_mul]
  · rw [ExtendedMantissa.shiftRightOne, kept.whole, rest]
    rcases Nat.mod_two_eq_zero_or_one (numerator / denominator) with even | odd
    · rw [even, Nat.mul_zero, Nat.add_zero]
      simp
      omega
    · rw [odd, Nat.mul_one]
      simp
      omega
  · rw [ExtendedMantissa.shiftRightOne, kept.half, kept.rest, rest]
    rw [← Bool.decide_or, decide_eq_decide]
    rcases Nat.mod_two_eq_zero_or_one (numerator / denominator) with even | odd
    · rw [even, Nat.mul_zero, Nat.add_zero]
      omega
    · rw [odd, Nat.mul_one]
      omega

theorem Extends.shiftRight (kept : Extends extended numerator denominator)
    (positive : 0 < denominator) (count : Nat) :
    Extends (extended >>> count) numerator (denominator * 2 ^ count) := by
  change Extends (count.repeat ExtendedMantissa.shiftRightOne extended) _ _
  induction count with
  | zero =>
      rw [pow_zero, Nat.mul_one]
      exact kept
  | succ count inductionHypothesis =>
      have step := inductionHypothesis.shiftRightOne
        (Nat.mul_pos positive (Nat.two_pow_pos count))
      rw [Nat.mul_assoc, ← pow_succ] at step
      exact step

/-- The bits that are kept tell how to round. -/
theorem Extends.roundedMantissa (kept : Extends extended numerator denominator)
    (positive : 0 < denominator) :
    extended.roundedMantissa = divideToEven numerator denominator := by
  obtain ⟨whole, half, rest⟩ := kept
  obtain ⟨mantissa, roundBit, stickyBit⟩ := extended
  simp only at whole half rest
  subst whole
  unfold divideToEven ExtendedMantissa.roundedMantissa
  cases roundBit with
  | false =>
      have below : 2 * (numerator % denominator) < denominator := by
        simpa using half
      simp only [if_pos below]
      cases stickyBit
      · rfl
      · rfl
  | true =>
      have above : denominator ≤ 2 * (numerator % denominator) := by
        simpa using half
      simp only [if_neg (Nat.not_lt.2 above)]
      cases stickyBit with
      | false =>
          have equal : 2 * (numerator % denominator) = denominator := by
            have bits : 2 * (numerator % denominator) = 0 ∨
                2 * (numerator % denominator) = denominator := by
              by_contra neither
              rw [not_or] at neither
              exact absurd rest (by simpa using neither)
            omega
          rw [if_neg (by omega)]
          rfl
      | true =>
          have different : 2 * (numerator % denominator) ≠ 0 ∧
              2 * (numerator % denominator) ≠ denominator := by
            simpa using rest
          rw [if_pos (by omega)]
          rfl

end Quotients

section Rounding

theorem div_le_divideToEven (numerator denominator : Nat) :
    numerator / denominator ≤ divideToEven numerator denominator := by
  unfold divideToEven
  dsimp only
  split
  · omega
  · split
    · omega
    · omega

theorem divideToEven_le (numerator denominator : Nat) :
    divideToEven numerator denominator ≤ numerator / denominator + 1 := by
  unfold divideToEven
  dsimp only
  split
  · omega
  · split
    · omega
    · omega

/-- The exponent to which a number is rounded. -/
theorem targetExponent_eq (total : Int) :
    Format.binary64.targetExponent total = max (total - 53) (-1074) := by
  rfl

/-- A mantissa that has its place on the grid is not shifted. -/
theorem shiftToTargetExponent_short {mantissa : Nat} {exponent : Int} (short : mantissa < 2 ^ 53)
    (finest : -1074 ≤ exponent) :
    shiftToTargetExponent Format.binary64 mantissa exponent .exact =
      (⟨mantissa, false, false⟩, exponent) := by
  have log : mantissa.log2 ≤ 52 := by
    rcases Nat.eq_zero_or_pos mantissa with rfl | positive
    · decide
    · exact log2_le_of_lt positive short
  have amount : (Format.binary64.targetExponent (totalExponent mantissa exponent) -
      exponent).toNat = 0 := by
    rw [targetExponent_eq, totalExponent]
    omega
  simp only [shiftToTargetExponent, shiftToExponent, amount]
  rw [Nat.cast_zero, add_zero]
  rfl

/-- A mantissa that was rounded up to 54 bits is shifted by one. -/
theorem shiftToTargetExponent_carry {exponent : Int} (finest : -1074 ≤ exponent) :
    shiftToTargetExponent Format.binary64 (2 ^ 53) exponent .exact =
      (⟨2 ^ 52, false, false⟩, exponent + 1) := by
  have amount : (Format.binary64.targetExponent (totalExponent (2 ^ 53) exponent) -
      exponent).toNat = 1 := by
    rw [targetExponent_eq, totalExponent, Nat.log2_two_pow]
    omega
  simp only [shiftToTargetExponent, shiftToExponent, amount]
  rfl

variable {numerator denominator : Nat} {exponent : Int}

/-- The quotient has the exponent of its whole part. -/
theorem max_log_of_whole (positive : 0 < numerator) (positive' : 0 < denominator)
    (enough : 2 ^ 52 ≤ numerator / denominator ∨ exponent ≤ -1074) :
    max (-1074) (Int.log 2 ((numerator : ℚ) / denominator * 2 ^ exponent) - 52) =
      max ((numerator / denominator).log2 + 1 + exponent - 53) (-1074) := by
  obtain ⟨whole, sameWhole⟩ : ∃ whole, numerator / denominator = whole := ⟨_, rfl⟩
  rw [sameWhole] at enough ⊢
  have denominatorPositive : (0 : ℚ) < denominator := by
    exact_mod_cast positive'
  have quotientPositive : (0 : ℚ) < (numerator : ℚ) / denominator * 2 ^ exponent := by
    positivity
  have upper : (numerator : ℚ) / denominator < 2 ^ ((whole.log2 : Int) + 1) := by
    have below : numerator < (whole + 1) * denominator := by
      rw [← Nat.div_lt_iff_lt_mul positive', sameWhole]
      exact Nat.lt_succ_self whole
    have reach : ((whole + 1 : Nat) : ℚ) ≤ 2 ^ ((whole.log2 : Int) + 1) := by
      exact_mod_cast Nat.succ_le_of_lt Nat.lt_log2_self
    calc (numerator : ℚ) / denominator
        < (whole + 1 : Nat) := by
          rw [div_lt_iff₀ denominatorPositive]
          exact_mod_cast below
      _ ≤ 2 ^ ((whole.log2 : Int) + 1) := reach
  have logUpper : Int.log 2 ((numerator : ℚ) / denominator * 2 ^ exponent) <
      (whole.log2 : Int) + 1 + exponent := by
    rw [← Int.lt_zpow_iff_log_lt (by decide) quotientPositive, Nat.cast_ofNat,
      zpow_add₀ (by norm_num)]
    exact mul_lt_mul_of_pos_right upper (by positivity)
  rcases Nat.eq_zero_or_pos whole with rfl | wholePositive
  · have lowest : exponent ≤ -1074 := enough.resolve_left (by decide)
    rw [Nat.log2_zero] at logUpper ⊢
    omega
  · have lower : (2 : ℚ) ^ (whole.log2 : Int) ≤ (numerator : ℚ) / denominator := by
      calc (2 : ℚ) ^ (whole.log2 : Int)
          ≤ whole := by
            exact_mod_cast Nat.log2_self_le wholePositive.ne'
        _ ≤ (numerator : ℚ) / denominator := by
            rw [le_div_iff₀ denominatorPositive, ← sameWhole]
            exact_mod_cast Nat.div_mul_le_self numerator denominator
    have logLower : (whole.log2 : Int) + exponent ≤
        Int.log 2 ((numerator : ℚ) / denominator * 2 ^ exponent) := by
      rw [← Int.zpow_le_iff_le_log (by decide) quotientPositive, Nat.cast_ofNat,
        zpow_add₀ (by norm_num)]
      exact mul_le_mul_of_nonneg_right lower (by positivity)
    omega

/-- The rounded mantissa is on the grid, or is the first one past it. -/
theorem divideToEven_shifted {shift : Nat}
    (covered : (numerator / denominator).log2 ≤ 52 + shift) :
    divideToEven numerator (denominator * 2 ^ shift) ≤ 2 ^ 53 ∧
      ((numerator / denominator).log2 = 52 + shift →
        2 ^ 52 ≤ divideToEven numerator (denominator * 2 ^ shift)) := by
  have shifted : numerator / (denominator * 2 ^ shift) = numerator / denominator / 2 ^ shift :=
    (Nat.div_div_eq_div_mul _ _ _).symm
  constructor
  · have short : numerator / denominator / 2 ^ shift < 2 ^ 53 := by
      rw [Nat.div_lt_iff_lt_mul (Nat.two_pow_pos shift), ← pow_add]
      calc numerator / denominator
          < 2 ^ ((numerator / denominator).log2 + 1) := Nat.lt_log2_self
        _ ≤ 2 ^ (53 + shift) := Nat.pow_le_pow_right (by decide) (by omega)
    have bound := divideToEven_le numerator (denominator * 2 ^ shift)
    omega
  · intro same
    calc 2 ^ 52
        ≤ numerator / denominator / 2 ^ shift := (shifted_bits same).1
      _ = numerator / (denominator * 2 ^ shift) := shifted.symm
      _ ≤ divideToEven numerator (denominator * 2 ^ shift) := div_le_divideToEven _ _

end Rounding

section Results

variable {numerator denominator : Nat} {exponent : Int}

/-- A quotient is rounded to a place on the grid, or carried to the next one. -/
theorem roundWithAccuracy_eq (negative : Bool) (positive' : 0 < denominator) {shift : Nat}
    (target : exponent + shift =
      max ((numerator / denominator).log2 + 1 + exponent - 53) (-1074)) :
    roundWithAccuracy Format.binary64 (unpackedSign negative) (numerator / denominator) exponent
        (accuracyOfFraction (numerator % denominator) denominator) =
      if divideToEven numerator (denominator * 2 ^ shift) < 2 ^ 53 then
        unpackedFinite negative (divideToEven numerator (denominator * 2 ^ shift))
          (exponent + shift)
      else unpackedFinite negative (2 ^ 52) (exponent + shift + 1) := by
  obtain ⟨bound, -⟩ := divideToEven_shifted
    (by omega : (numerator / denominator).log2 ≤ 52 + shift)
  have amount : (Format.binary64.targetExponent (totalExponent (numerator / denominator) exponent) -
      exponent).toNat = shift := by
    rw [targetExponent_eq, totalExponent, ← target]
    omega
  have rounded := ((extends_start positive' : Extends _ numerator denominator).shiftRight positive'
    shift).roundedMantissa (Nat.mul_pos positive' (Nat.two_pow_pos shift))
  have first : shiftToTargetExponent Format.binary64 (numerator / denominator) exponent
      (accuracyOfFraction (numerator % denominator) denominator) =
      (ExtendedMantissa.ofMantissaAndAccuracy (numerator / denominator)
        (accuracyOfFraction (numerator % denominator) denominator) >>> shift,
        exponent + shift) := by
    simp only [shiftToTargetExponent, shiftToExponent, amount]
  unfold roundWithAccuracy
  simp only [first, rounded]
  by_cases short : divideToEven numerator (denominator * 2 ^ shift) < 2 ^ 53
  · simp only [if_pos short,
      shiftToTargetExponent_short short (by omega : -1074 ≤ exponent + shift)]
    unfold unpackedFinite
    split
    next zero =>
      rw [dif_neg (by omega)]
    next nonzero =>
      rw [dif_pos (Nat.pos_of_ne_zero nonzero)]
  · have carried : divideToEven numerator (denominator * 2 ^ shift) = 2 ^ 53 :=
      Nat.le_antisymm bound (Nat.not_lt.1 short)
    rw [if_neg short]
    simp only [carried, shiftToTargetExponent_carry (by omega : -1074 ≤ exponent + shift)]
    rfl

/-- The bits of the nearest double, found from the whole part of the quotient. -/
theorem nearestMagnitude_shifted (positive' : 0 < denominator)
    (enough : 2 ^ 52 ≤ numerator / denominator ∨ exponent ≤ -1074) {shift : Nat}
    (target : exponent + shift =
      max ((numerator / denominator).log2 + 1 + exponent - 53) (-1074)) :
    nearestMagnitude (numerator * powerNumerator 2 exponent)
        (denominator * powerDenominator 2 exponent) =
      min infinityBits ((exponent + shift + 1074).toNat * fieldUnit +
        divideToEven numerator (denominator * 2 ^ shift)) := by
  have scale : 0 < denominator * powerDenominator 2 exponent :=
    Nat.mul_pos positive' (powerDenominator_pos (by decide) _)
  have quotient := scaled_div (by decide : 0 < 2) exponent numerator denominator
  unfold nearestMagnitude
  split
  next zero =>
    obtain rfl : numerator = 0 :=
      (Nat.mul_eq_zero.1 zero).resolve_right (powerNumerator_pos (by decide) _).ne'
    rw [Nat.zero_div, Nat.log2_zero] at target
    have lowest : (exponent + shift + 1074).toNat = 0 := by
      rw [Nat.zero_div] at enough
      omega
    have none : divideToEven 0 (denominator * 2 ^ shift) = 0 := by
      simp [divideToEven, positive']
    rw [lowest, none]
    rfl
  next nonzero =>
    have positive : 0 < numerator := Nat.pos_of_ne_zero fun zero => nonzero (by rw [zero, zero_mul])
    have grid : gridExponent (numerator * powerNumerator 2 exponent)
        (denominator * powerDenominator 2 exponent) = exponent + shift := by
      rw [gridExponent_eq (Nat.pos_of_ne_zero nonzero) scale, quotient, target]
      exact max_log_of_whole positive positive' enough
    have mantissa : divideToEven
        (numerator * powerNumerator 2 exponent * powerDenominator 2 (exponent + shift))
        (denominator * powerDenominator 2 exponent * powerNumerator 2 (exponent + shift)) =
        divideToEven numerator (denominator * 2 ^ shift) := by
      refine divideToEven_congr (Nat.mul_pos scale (powerNumerator_pos (by decide) _))
        (Nat.mul_pos positive' (Nat.two_pow_pos shift)) ?_
      rw [unscaled_div (by decide), quotient, Nat.cast_ofNat, zpow_add₀ (by norm_num),
        zpow_natCast]
      push_cast
      field_simp
    simp only [grid, mantissa]

/-- What is rounded is the nearest double, whatever is kept of the quotient. -/
theorem ofModel_pack_roundWithAccuracy (negative : Bool) (positive' : 0 < denominator)
    (enough : 2 ^ 52 ≤ numerator / denominator ∨ exponent ≤ -1074) :
    Float.ofModel (.pack (roundWithAccuracy Format.binary64 (unpackedSign negative)
        (numerator / denominator) exponent
        (accuracyOfFraction (numerator % denominator) denominator))) =
      nearest negative (numerator * powerNumerator 2 exponent)
        (denominator * powerDenominator 2 exponent) := by
  obtain ⟨shift, target⟩ : ∃ shift : Nat, exponent + shift =
      max ((numerator / denominator).log2 + 1 + exponent - 53) (-1074) := by
    have reaches : 52 ≤ (numerator / denominator).log2 ∨ exponent ≤ -1074 := by
      refine enough.imp_left fun large => (Nat.le_log2 ?_).2 large
      exact (Nat.lt_of_lt_of_le (Nat.two_pow_pos 52) large).ne'
    exact ⟨(max ((numerator / denominator).log2 + 1 + exponent - 53) (-1074) - exponent).toNat,
      by omega⟩
  rw [roundWithAccuracy_eq negative positive' target]
  obtain ⟨bound, leading⟩ := divideToEven_shifted
    (by omega : (numerator / denominator).log2 ≤ 52 + shift)
  rw [nearest, nearestMagnitude_shifted positive' enough target]
  by_cases short : divideToEven numerator (denominator * 2 ^ shift) < 2 ^ 53
  · rw [if_pos short]
    refine ofModel_pack_unpackedFinite negative ⟨short, by omega, ?_⟩
    by_cases lowest : exponent + shift = -1074
    · exact .inr lowest
    · exact .inl (leading (by omega))
  · rw [if_neg short, ofModel_pack_unpackedFinite negative
      ⟨by decide, by omega, .inl (le_refl _)⟩]
    have next : (exponent + shift + 1 + 1074).toNat = (exponent + shift + 1074).toNat + 1 := by
      omega
    rw [next, Nat.add_mul, Nat.le_antisymm bound (Nat.not_lt.1 short), Nat.add_assoc]
    rfl

end Results

theorem ofModel_pack_round (negative : Bool) {mantissa : Nat} (positive : 0 < mantissa)
    (exponent : Int) :
    Float.ofModel (.pack (UnpackedFloat.round Format.binary64 (unpackedSign negative) mantissa
        exponent)) =
      nearest negative (mantissa * powerNumerator 2 exponent) (powerDenominator 2 exponent) := by
  obtain ⟨shift, amount⟩ : ∃ shift : Nat, shift =
      (exponent - Format.binary64.targetExponent (totalExponent mantissa exponent)).toNat :=
    ⟨_, rfl⟩
  have log := log2_scaled positive shift
  have enough : 2 ^ 52 ≤ mantissa * 2 ^ shift / 1 ∨ exponent - shift ≤ -1074 := by
    rw [Nat.div_one, ← Nat.le_log2 (Nat.mul_pos positive (Nat.two_pow_pos shift)).ne', log]
    rw [targetExponent_eq, totalExponent] at amount
    omega
  have rounded := ofModel_pack_roundWithAccuracy negative Nat.one_pos enough
  have exact : accuracyOfFraction (mantissa * 2 ^ shift % 1) 1 = .exact := by
    rw [Nat.mod_one]
    rfl
  rw [exact, Nat.div_one] at rounded
  unfold UnpackedFloat.round
  simp only [decreaseExponent, ← amount, Nat.shiftLeft_eq]
  rw [rounded, Nat.one_mul]
  refine nearest_congr (powerDenominator_pos (by decide) _) (powerDenominator_pos (by decide) _) ?_
  have scaled := scaled_div (by decide : 0 < 2) (exponent - shift) (mantissa * 2 ^ shift) 1
  have scaled' := scaled_div (by decide : 0 < 2) exponent mantissa 1
  rw [Nat.one_mul, Nat.cast_one, div_one, Nat.cast_ofNat] at scaled scaled'
  rw [scaled, scaled', zpow_sub₀ (by norm_num), zpow_natCast]
  push_cast
  field_simp

theorem ofModel_pack_normalize {mantissa : Int} (nonzero : mantissa ≠ 0) (exponent : Int)
    (zeroSign : Sign) :
    Float.ofModel (.pack (UnpackedFloat.normalize Format.binary64 mantissa exponent zeroSign)) =
      ofRational (mantissa * 2 ^ exponent) := by
  have scale : (2 : ℚ) ^ exponent ≠ 0 := by
    positivity
  have number : (mantissa : ℚ) * 2 ^ exponent ≠ 0 :=
    mul_ne_zero (by exact_mod_cast nonzero) scale
  have rounds : ∀ (negative : Bool) (magnitude : Nat), 0 < magnitude →
      (mantissa : ℚ) = signed negative magnitude →
      Float.ofModel (.pack (UnpackedFloat.round Format.binary64 (unpackedSign negative) magnitude
        exponent)) = ofRational (mantissa * 2 ^ exponent) := by
    intro negative magnitude positive same
    have scaled := scaled_div (by decide : 0 < 2) exponent magnitude 1
    rw [Nat.one_mul, Nat.cast_one, div_one, Nat.cast_ofNat] at scaled
    rw [ofModel_pack_round negative positive]
    refine nearest_eq_ofRational (powerDenominator_pos (by decide) _) ?_ number
    rw [scaled, same]
    cases negative
    · rfl
    · exact neg_mul _ _
  unfold UnpackedFloat.normalize
  rcases lt_trichotomy mantissa 0 with below | zero | above
  · rw [compare_lt_iff_lt.2 below]
    refine rounds true _ (by omega) ?_
    have magnitude : (((-mantissa).toNat : Int) : ℚ) = -mantissa := by
      exact_mod_cast Int.toNat_of_nonneg (by omega : 0 ≤ -mantissa)
    simp only [signed, if_true]
    rw [← Int.cast_natCast, magnitude, neg_neg]
  · exact absurd zero nonzero
  · rw [compare_gt_iff_gt.2 above]
    refine rounds false _ (by omega) ?_
    have magnitude : ((mantissa.toNat : Int) : ℚ) = mantissa := by
      exact_mod_cast Int.toNat_of_nonneg above.le
    exact magnitude.symm

end Binary64

end RewardFormula
