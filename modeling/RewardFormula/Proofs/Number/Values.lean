import RewardFormula.Proofs.Number.Printed

/-!
# The numbers that doubles stand for

Every finite double is a rational number. A number of at most 53 bits on a scale that is not
too fine is one of them, and is not changed by rounding.
-/

namespace RewardFormula

namespace Binary64

/-- A number with a sign in front. -/
def signed (negative : Bool) (number : ℚ) : ℚ :=
  if negative then -number else number

theorem abs_signed (negative : Bool) (number : ℚ) : |signed negative number| = |number| := by
  cases negative
  · rfl
  · exact abs_neg number

theorem signed_zero (negative : Bool) : signed negative 0 = 0 := by
  cases negative
  · rfl
  · exact neg_zero

theorem signed_not (negative : Bool) (number : ℚ) :
    signed (!negative) number = -signed negative number := by
  cases negative
  · rfl
  · exact (neg_neg _).symm

theorem signed_neg (negative : Bool) (number : ℚ) :
    signed negative (-number) = -signed negative number := by
  cases negative
  · rfl
  · rfl

theorem signed_sub_signed (negative : Bool) (number number' : ℚ) :
    signed negative number - signed negative number' = signed negative (number - number') := by
  cases negative
  · rfl
  · exact (neg_sub_neg _ _).trans (neg_sub _ _).symm

theorem signed_mul_signed (negative negative' : Bool) (number number' : ℚ) :
    signed (negative != negative') number * signed negative' number' =
      signed negative (number * number') := by
  cases negative
  · cases negative'
    · rfl
    · exact neg_mul_neg _ _
  · cases negative'
    · exact neg_mul _ _
    · exact mul_neg _ _

theorem signed_mul (negative : Bool) (number factor : ℚ) :
    signed negative number * factor = signed negative (number * factor) := by
  cases negative
  · rfl
  · exact neg_mul _ _

theorem signed_div_signed (negative negative' : Bool) (number number' : ℚ) :
    signed negative number / signed negative' number' =
      signed (negative != negative') (number / number') := by
  cases negative
  · cases negative'
    · rfl
    · exact div_neg _
  · cases negative'
    · exact neg_div _ _
    · exact neg_div_neg_eq _ _

/-- The number that a finite double stands for. -/
def value (x : Float) : ℚ :=
  match decode x with
  | .finite negative mantissa exponent => signed negative (mantissa * 2 ^ exponent)
  | _ => 0

/-- A double is finite and stands for a number. -/
structure StandsFor (x : Float) (number : ℚ) : Prop where
  finite : isFinite x = true
  value_eq : value x = number

/-- The mantissa and the exponent that a finite double is decoded to. -/
structure Decodes (x : Float) (mantissa : Nat) (exponent : Int) : Prop where
  decoded : decode x = .finite (isNegative x) mantissa exponent
  grid : OnGrid mantissa exponent
  magnitude : (exponent + 1074).toNat * fieldUnit + mantissa = magnitudeOf x
  small : magnitudeOf x < infinityBits

theorem exists_decodes {x : Float} (finite : isFinite x = true) :
    ∃ mantissa exponent, Decodes x mantissa exponent := by
  obtain ⟨mantissa, exponent, decoded⟩ := exists_decode finite
  obtain ⟨-, grid, magnitude, small⟩ := decode_finite decoded
  exact ⟨mantissa, exponent, decoded, grid, magnitude, small⟩

namespace Decodes

variable {x : Float} {mantissa : Nat} {exponent : Int} (decodes : Decodes x mantissa exponent)

include decodes

theorem finite : isFinite x = true :=
  decide_eq_true decodes.small

theorem value_eq : value x = signed (isNegative x) (mantissa * 2 ^ exponent) := by
  rw [value, decodes.decoded]

theorem abs_value : |value x| = mantissa * 2 ^ exponent := by
  rw [decodes.value_eq, abs_signed]
  exact abs_of_nonneg (by positivity)

theorem value_eq_zero_iff : value x = 0 ↔ mantissa = 0 := by
  rw [← abs_eq_zero, decodes.abs_value, mul_eq_zero, Nat.cast_eq_zero]
  exact or_iff_left (by positivity)

theorem small_place : (exponent + 1074).toNat * fieldUnit + mantissa < infinityBits := by
  rw [decodes.magnitude]
  exact decodes.small

theorem exponent_le : exponent ≤ 971 := by
  obtain ⟨-, ⟨-, finest, leading⟩, magnitude, small⟩ := decodes
  rw [← magnitude] at small
  simp only [fieldUnit, infinityBits] at small
  omega

theorem abs_value_lt : |value x| < 2 ^ (1024 : Int) := by
  have short : (mantissa : ℚ) < 2 ^ (53 : Int) := by
    exact_mod_cast decodes.grid.short
  calc |value x|
      = mantissa * 2 ^ exponent := decodes.abs_value
    _ < 2 ^ (53 : Int) * 2 ^ exponent := mul_lt_mul_of_pos_right short (by positivity)
    _ = 2 ^ (53 + exponent) := (zpow_add₀ (by norm_num) _ _).symm
    _ ≤ 2 ^ (1024 : Int) :=
        zpow_le_zpow_right₀ (by norm_num) (by have := decodes.exponent_le; omega)

/-- A double on a finer scale. -/
theorem abs_value_eq_steps {scale : Int} (finer : scale ≤ exponent) :
    |value x| = (mantissa * powerNumerator 2 (exponent - scale) : Nat) * 2 ^ scale := by
  obtain ⟨shift, rfl⟩ : ∃ shift : Nat, exponent = scale + shift :=
    ⟨(exponent - scale).toNat, by omega⟩
  have power : powerNumerator 2 (scale + shift - scale) = 2 ^ shift := by
    rw [powerNumerator, add_sub_cancel_left]
    rfl
  rw [decodes.abs_value, power, zpow_add₀ (by norm_num), zpow_natCast]
  push_cast
  ring

end Decodes

theorem value_eq_signed {x : Float} (finite : isFinite x = true) :
    value x = signed (isNegative x) |value x| := by
  obtain ⟨mantissa, exponent, decodes⟩ := exists_decodes finite
  rw [decodes.abs_value]
  exact decodes.value_eq

/-- A place on the grid is the one of the double with its magnitude. -/
theorem decodes_ofMagnitude {mantissa : Nat} {exponent : Int} (negative : Bool)
    (grid : OnGrid mantissa exponent)
    (small : (exponent + 1074).toNat * fieldUnit + mantissa < infinityBits) :
    Decodes (ofMagnitude negative ((exponent + 1074).toNat * fieldUnit + mantissa))
      mantissa exponent := by
  have magnitude : magnitudeOf (ofMagnitude negative
      ((exponent + 1074).toNat * fieldUnit + mantissa)) = _ := magnitudeOf_ofMagnitude small.le
  refine ⟨?_, grid, magnitude.symm, magnitude.symm ▸ small⟩
  obtain ⟨short, finest, leading⟩ := grid
  obtain ⟨field, rfl⟩ : ∃ field : Nat, exponent = field - 1074 :=
    ⟨(exponent + 1074).toNat, by omega⟩
  have index : ((field : Int) - 1074 + 1074).toNat = field := by
    omega
  rw [index] at magnitude small ⊢
  unfold decode
  simp only [magnitude, Nat.not_lt.2 small.le, small.ne, if_false]
  generalize isNegative _ = sign
  split
  next noField =>
    simp only [fieldUnit] at *
    congr 1
    all_goals omega
  next someField =>
    simp only [fieldUnit] at *
    congr 1
    all_goals omega

/-- Every number of 53 bits on a scale that is not too fine has a place on the grid. -/
theorem exists_onGrid {mantissa : Nat} {exponent : Int} (short : mantissa < 2 ^ 53)
    (finest : -1074 ≤ exponent) :
    ∃ mantissa' exponent', OnGrid mantissa' exponent' ∧
      (mantissa' : ℚ) * 2 ^ exponent' = mantissa * 2 ^ exponent := by
  obtain ⟨height, sameHeight⟩ : ∃ height : Nat, exponent = height - 1074 :=
    ⟨(exponent + 1074).toNat, by omega⟩
  induction height generalizing mantissa exponent with
  | zero =>
      exact ⟨mantissa, exponent, ⟨short, finest, .inr (by omega)⟩, rfl⟩
  | succ height inductionHypothesis =>
      by_cases leading : 2 ^ 52 ≤ mantissa
      · exact ⟨mantissa, exponent, ⟨short, finest, .inl leading⟩, rfl⟩
      · obtain ⟨mantissa', exponent', grid, same⟩ := inductionHypothesis
          (by omega : 2 * mantissa < 2 ^ 53) (by omega : -1074 ≤ exponent - 1) (by omega)
        refine ⟨mantissa', exponent', grid, same.trans ?_⟩
        rw [zpow_sub₀ (by norm_num)]
        push_cast
        ring

/-- A place on the grid below the largest power is the one of a double. -/
theorem OnGrid.magnitude_lt {mantissa : Nat} {exponent : Int} (grid : OnGrid mantissa exponent)
    (bounded : (mantissa : ℚ) * 2 ^ exponent < 2 ^ (1024 : Int)) :
    (exponent + 1074).toNat * fieldUnit + mantissa < infinityBits := by
  obtain ⟨short, finest, leading⟩ := grid
  have small : exponent ≤ 971 := by
    rcases leading with leading | lowest
    · by_contra large
      have long : (2 : ℚ) ^ (52 : Int) ≤ mantissa := by
        exact_mod_cast leading
      have reaches : (2 : ℚ) ^ (1024 : Int) ≤ mantissa * 2 ^ exponent :=
        calc (2 : ℚ) ^ (1024 : Int)
            ≤ 2 ^ (52 + exponent) := zpow_le_zpow_right₀ (by norm_num) (by omega)
          _ = 2 ^ (52 : Int) * 2 ^ exponent := zpow_add₀ (by norm_num) _ _
          _ ≤ mantissa * 2 ^ exponent := mul_le_mul_of_nonneg_right long (by positivity)
      exact absurd bounded (not_lt.2 reaches)
    · omega
  simp only [fieldUnit, infinityBits]
  omega

section Exact

variable {mantissa : Nat} {exponent : Int} (negative : Bool) (short : mantissa < 2 ^ 53)
  (finest : -1074 ≤ exponent) (bounded : (mantissa : ℚ) * 2 ^ exponent < 2 ^ (1024 : Int))

include short finest bounded

/-- A number that is a double is not changed by rounding. -/
theorem exists_ofScaled_eq : ∃ mantissa' exponent',
    Decodes (ofScaled negative mantissa exponent) mantissa' exponent' ∧
      isNegative (ofScaled negative mantissa exponent) = negative ∧
      (mantissa' : ℚ) * 2 ^ exponent' = mantissa * 2 ^ exponent := by
  obtain ⟨mantissa', exponent', grid, same⟩ := exists_onGrid short finest
  have small := grid.magnitude_lt (same.trans_lt bounded)
  have quotients : ((mantissa * powerNumerator 2 exponent : Nat) : ℚ) /
      powerDenominator 2 exponent =
        (mantissa' * powerNumerator 2 exponent' : Nat) / powerDenominator 2 exponent' := by
    have scaled := scaled_div (by decide : 0 < 2) exponent mantissa 1
    have scaled' := scaled_div (by decide : 0 < 2) exponent' mantissa' 1
    rw [Nat.one_mul, Nat.cast_one, div_one, Nat.cast_ofNat] at scaled scaled'
    rw [scaled, scaled', same]
  have nearest : nearestMagnitude (mantissa * powerNumerator 2 exponent)
      (powerDenominator 2 exponent) = (exponent' + 1074).toNat * fieldUnit + mantissa' := by
    rw [nearestMagnitude_congr (powerDenominator_pos (by decide) _)
      (powerDenominator_pos (by decide) _) quotients]
    rcases Nat.eq_zero_or_pos mantissa' with rfl | positive
    · rw [grid.leading.resolve_left (by decide)]
      rfl
    · exact grid.nearestMagnitude_eq positive small
  refine ⟨mantissa', exponent', ?_, ?_, same⟩
  · rw [ofScaled, Binary64.nearest, nearest]
    exact decodes_ofMagnitude negative grid small
  · rw [ofScaled, Binary64.nearest, nearest]
    exact isNegative_ofMagnitude small.le

theorem ofScaled_standsFor :
    StandsFor (ofScaled negative mantissa exponent)
      (signed negative (mantissa * 2 ^ exponent)) := by
  obtain ⟨mantissa', exponent', decodes, sign, same⟩ :=
    exists_ofScaled_eq negative short finest bounded
  exact ⟨decodes.finite, by rw [decodes.value_eq, sign, same]⟩

end Exact

/-- A whole number of 53 bits is a double. -/
theorem ofScaled_whole_standsFor (negative : Bool) {count : Nat} (short : count < 2 ^ 53) :
    StandsFor (ofScaled negative count 0) (signed negative count) := by
  have cast : (count : ℚ) < 2 ^ (53 : Int) := by
    exact_mod_cast short
  have bounded : (count : ℚ) * 2 ^ (0 : Int) < 2 ^ (1024 : Int) := by
    rw [zpow_zero, mul_one]
    exact cast.trans_le (zpow_le_zpow_right₀ (by norm_num) (by norm_num))
  have stands := ofScaled_standsFor negative short (by norm_num) bounded
  rw [zpow_zero, mul_one] at stands
  exact stands

/-- A number of steps that is not larger than that of a double is a double. -/
theorem Decodes.exists_standsFor {x : Float} {mantissa : Nat} {exponent : Int}
    (decodes : Decodes x mantissa exponent) {number : ℚ} {steps : Nat} {scale : Int}
    (finest : -1074 ≤ scale) (same : number = steps * 2 ^ scale) (short : steps < 2 ^ 53)
    (notLarger : number ≤ |value x|) (negative : Bool) :
    ∃ z, StandsFor z (signed negative number) := by
  have bounded := notLarger.trans_lt decodes.abs_value_lt
  rw [same] at bounded ⊢
  exact ⟨_, ofScaled_standsFor negative short finest bounded⟩

/-- The double nearest to a rational number; a zero has no sign. -/
def ofRational (number : ℚ) : Float :=
  nearest (decide (number < 0)) number.num.natAbs number.den

theorem nearest_congr {negative : Bool} {numerator denominator numerator' denominator' : Nat}
    (positive : 0 < denominator) (positive' : 0 < denominator')
    (same : (numerator : ℚ) / denominator = (numerator' : ℚ) / denominator') :
    nearest negative numerator denominator = nearest negative numerator' denominator' := by
  rw [nearest, nearest, nearestMagnitude_congr positive positive' same]

theorem natAbs_num_div_den (number : ℚ) : (number.num.natAbs : ℚ) / number.den = |number| := by
  conv_rhs => rw [← Rat.num_div_den number]
  rw [abs_div, Nat.abs_cast, Nat.cast_natAbs, Int.cast_abs]

theorem nearest_eq_ofRational {numerator denominator : Nat} {number : ℚ} {negative : Bool}
    (positive : 0 < denominator)
    (same : number = signed negative ((numerator : ℚ) / denominator)) (nonzero : number ≠ 0) :
    nearest negative numerator denominator = ofRational number := by
  have magnitude : |number| = (numerator : ℚ) / denominator := by
    rw [same, abs_signed]
    exact abs_of_nonneg (by positivity)
  have quotientPositive : 0 < (numerator : ℚ) / denominator := by
    rw [← magnitude]
    exact abs_pos.2 nonzero
  have sign : decide (number < 0) = negative := by
    rw [same]
    cases negative
    · exact decide_eq_false (not_lt.2 quotientPositive.le)
    · exact decide_eq_true (neg_neg_iff_pos.2 quotientPositive)
  rw [ofRational, sign]
  exact nearest_congr positive number.den_pos (by rw [natAbs_num_div_den, magnitude])

/-- The number of a double is rounded to the double. -/
theorem ofRational_value {x : Float} (finite : isFinite x = true) (nonzero : value x ≠ 0) :
    ofRational (value x) = x := by
  obtain ⟨mantissa, exponent, decodes⟩ := exists_decodes finite
  have positive : 0 < mantissa :=
    Nat.pos_of_ne_zero (mt decodes.value_eq_zero_iff.2 nonzero)
  have scaled := scaled_div (by decide : 0 < 2) exponent mantissa 1
  rw [Nat.one_mul, Nat.cast_one, div_one, Nat.cast_ofNat] at scaled
  have small := decodes.small
  rw [← decodes.magnitude] at small
  rw [← nearest_eq_ofRational (powerDenominator_pos (by decide : 0 < 2) exponent)
      (by rw [scaled, decodes.value_eq]) nonzero, nearest,
    decodes.grid.nearestMagnitude_eq positive small, decodes.magnitude]
  exact ofMagnitude_magnitudeOf decodes.small.le

/-- A number that is a double is rounded to a double that stands for it. -/
theorem StandsFor.ofRational {x : Float} {number : ℚ} (stands : StandsFor x number)
    (nonzero : number ≠ 0) : StandsFor (ofRational number) number := by
  obtain ⟨finite, rfl⟩ := stands
  rw [ofRational_value finite nonzero]
  exact ⟨finite, rfl⟩

theorem natCast_mul_zpow_le_iff {number number' : Nat} (scale : Int) :
    (number : ℚ) * 2 ^ scale ≤ number' * 2 ^ scale ↔ number ≤ number' := by
  rw [mul_le_mul_iff_left₀ (by positivity), Nat.cast_le]

theorem compare_neg_neg (number number' : ℚ) :
    compare (-number) (-number') = (compare number number').swap := by
  rcases lt_trichotomy number number' with below | rfl | above
  · rw [compare_lt_iff_lt.2 below, compare_gt_iff_gt.2 (neg_lt_neg below)]
    rfl
  · rw [compare_eq_iff_eq.2 rfl, compare_eq_iff_eq.2 rfl]
    rfl
  · rw [compare_gt_iff_gt.2 above, compare_lt_iff_lt.2 (neg_lt_neg above)]
    rfl

/-- Places on the grid are in the order of their exponents, then of their mantissas. -/
theorem OnGrid.compare_eq {mantissa mantissa' : Nat} {exponent exponent' : Int}
    (grid : OnGrid mantissa exponent) (grid' : OnGrid mantissa' exponent') :
    (compare exponent exponent').then (compare mantissa mantissa') =
      compare ((mantissa : ℚ) * 2 ^ exponent) (mantissa' * 2 ^ exponent') := by
  have lower : ∀ {mantissa mantissa' : Nat} {exponent exponent' : Int}, OnGrid mantissa exponent →
      OnGrid mantissa' exponent' → exponent < exponent' →
      (mantissa : ℚ) * 2 ^ exponent < mantissa' * 2 ^ exponent' := by
    intro mantissa mantissa' exponent exponent' grid grid' below
    have short : (mantissa : ℚ) < 2 ^ (53 : Int) := by
      exact_mod_cast grid.short
    have long : (2 : ℚ) ^ (52 : Int) ≤ mantissa' := by
      have finest := grid.finest
      exact_mod_cast grid'.leading.resolve_right (by omega)
    calc (mantissa : ℚ) * 2 ^ exponent
        < 2 ^ (53 : Int) * 2 ^ exponent := mul_lt_mul_of_pos_right short (by positivity)
      _ = 2 ^ (53 + exponent) := (zpow_add₀ (by norm_num) _ _).symm
      _ ≤ 2 ^ (52 + exponent') := zpow_le_zpow_right₀ (by norm_num) (by omega)
      _ = 2 ^ (52 : Int) * 2 ^ exponent' := zpow_add₀ (by norm_num) _ _
      _ ≤ mantissa' * 2 ^ exponent' := mul_le_mul_of_nonneg_right long (by positivity)
  rcases lt_trichotomy exponent exponent' with below | rfl | above
  · rw [compare_lt_iff_lt.2 below, compare_lt_iff_lt.2 (lower grid grid' below)]
    rfl
  · have scale : (0 : ℚ) < 2 ^ exponent := by positivity
    rw [compare_eq_iff_eq.2 rfl, Ordering.eq_then]
    rcases lt_trichotomy mantissa mantissa' with below | rfl | above
    · rw [compare_lt_iff_lt.2 below, compare_lt_iff_lt.2]
      exact mul_lt_mul_of_pos_right (by exact_mod_cast below) scale
    · rw [compare_eq_iff_eq.2 rfl, compare_eq_iff_eq.2 rfl]
    · rw [compare_gt_iff_gt.2 above, compare_gt_iff_gt.2]
      exact mul_lt_mul_of_pos_right (by exact_mod_cast above) scale
  · rw [compare_gt_iff_gt.2 above, compare_gt_iff_gt.2 (lower grid' grid above)]
    rfl

end Binary64

end RewardFormula
