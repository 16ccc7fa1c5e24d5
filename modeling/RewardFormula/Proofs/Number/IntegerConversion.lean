import RewardFormula.Evaluation
import RewardFormula.Proofs.Number.NearestIntegers
import RewardFormula.Proofs.Number.Unpacked

/-!
# Conversion to integers

Rounding to the nearest integer is exact on doubles, and so are the bounds of the integers of
thirty-two bits. The conversion therefore never meets the limits of the cast behind it.
-/

namespace RewardFormula

namespace Binary64

/-- A fraction is rounded away from zero if at least a half is cut off. -/
theorem isNearestAway_magnitude (negative : Bool) (mantissa places : Nat) :
    IsNearestAway ((mantissa : ℚ) / 2 ^ places)
      (Rounding.halfAwayFromZero.magnitude negative mantissa places) := by
  have power : (0 : ℚ) < 2 ^ places := by
    positivity
  have less : ((mantissa % 2 ^ places : Nat) : ℚ) < 2 ^ places := by
    exact_mod_cast Nat.mod_lt mantissa (Nat.two_pow_pos places)
  have number : (mantissa : ℚ) / 2 ^ places =
      (mantissa / 2 ^ places : Nat) + (mantissa % 2 ^ places : Nat) / 2 ^ places := by
    have parts : (mantissa : ℚ) =
        2 ^ places * (mantissa / 2 ^ places : Nat) + (mantissa % 2 ^ places : Nat) := by
      exact_mod_cast (Nat.div_add_mod mantissa (2 ^ places)).symm
    conv_lhs => rw [parts, add_div, mul_div_cancel_left₀ _ power.ne']
  have half : decide (2 ^ places ≤ 2 * (mantissa % 2 ^ places)) = true ↔
      (1 : ℚ) / 2 ≤ (mantissa % 2 ^ places : Nat) / 2 ^ places := by
    rw [decide_eq_true_iff, div_le_div_iff₀ (by norm_num) power, one_mul, mul_comm _ (2 : ℚ)]
    exact_mod_cast Iff.rfl
  rw [number]
  unfold Rounding.magnitude
  simp only [Nat.pow_eq]
  split
  next up =>
    exact isNearestAway_up _ (half.1 up) ((div_lt_one power).2 less)
  next down =>
    exact isNearestAway_down _ (by positivity) (not_le.1 (mt half.2 down))

theorem magnitude_le (rule : Rounding) (negative : Bool) (mantissa places : Nat) :
    rule.magnitude negative mantissa places ≤ mantissa / 2 ^ places + 1 := by
  have step : ∀ (moves : Bool) (whole : Nat), (if moves then whole + 1 else whole) ≤ whole + 1 := by
    intro moves whole
    cases moves
    · exact Nat.le_succ whole
    · exact le_refl _
  exact step _ _

/-- Rounding a finite double gives the double of its nearest integer. -/
theorem exists_apply_standsFor {x : Float} (finite : isFinite x = true) :
    ∃ integer : ℤ, IsNearestAway (value x) integer ∧
      StandsFor (Rounding.halfAwayFromZero.apply x) integer := by
  obtain ⟨mantissa, exponent, decodes⟩ := exists_decodes finite
  have short := decodes.grid.short
  unfold Rounding.apply
  simp only [decodes.decoded]
  split
  next whole =>
    obtain ⟨shift, rfl⟩ : ∃ shift : Nat, exponent = shift := ⟨exponent.toNat, by omega⟩
    have number : value x = signedCount (isNegative x) (mantissa * 2 ^ shift) := by
      rw [decodes.value_eq, cast_signedCount, zpow_natCast]
      push_cast
      rfl
    refine ⟨_, ?_, finite, number⟩
    rw [number]
    exact isNearest_self _ _
  next fractional =>
    obtain ⟨places, rfl⟩ : ∃ places : Nat, exponent = -(places + 1 : Nat) :=
      ⟨(-exponent).toNat - 1, by omega⟩
    have amount : (- -((places + 1 : Nat) : Int)).toNat = places + 1 := by
      omega
    have magnitude := isNearestAway_magnitude (isNegative x) mantissa (places + 1)
    have nearest := isNearestAway_signed magnitude (isNegative x)
    have number : value x = signed (isNegative x) ((mantissa : ℚ) / 2 ^ (places + 1)) := by
      rw [decodes.value_eq, zpow_neg, zpow_natCast, div_eq_mul_inv]
    refine ⟨_, number ▸ nearest, ?_⟩
    rw [amount]
    refine ofScaled_signedCount_standsFor _ ?_
    have bound := magnitude_le .halfAwayFromZero (isNegative x) mantissa (places + 1)
    have fewer : mantissa / 2 ^ (places + 1) ≤ mantissa := Nat.div_le_self _ _
    have halved : mantissa / 2 ^ (places + 1) ≤ mantissa / 2 := by
      rw [pow_succ', ← Nat.div_div_eq_div_mul]
      exact Nat.div_le_self _ _
    omega

theorem ofInt32_standsFor (number : Int32) : StandsFor (ofInt32 number) number.toInt := by
  have lower := number.le_toInt
  have upper := number.toInt_lt
  have stands := ofScaled_signedCount_standsFor (decide (number.toInt < 0))
    (by omega : number.toInt.natAbs < 2 ^ 53)
  have same : signedCount (decide (number.toInt < 0)) number.toInt.natAbs = number.toInt := by
    unfold signedCount
    split
    next negative =>
      rw [decide_eq_true_iff] at negative
      omega
    next nonneg =>
      rw [decide_eq_true_iff] at nonneg
      omega
  rw [same] at stands
  exact stands

/-- The integral part of an integral double is the integer itself. -/
theorem truncateToInt32_eq {x : Float} {integer : ℤ} (stands : StandsFor x integer) :
    truncateToInt32 x = Int32.ofIntClamp integer := by
  obtain ⟨mantissa, exponent, decodes⟩ := exists_decodes stands.finite
  have number := decodes.value_eq
  rw [stands.value_eq] at number
  have scaled := scaled_div (by decide : 0 < 2) exponent mantissa 1
  rw [Nat.one_mul, Nat.cast_one, div_one, Nat.cast_ofNat] at scaled
  have denominator : 0 < powerDenominator 2 exponent := powerDenominator_pos (by decide) exponent
  have magnitude : (integer.natAbs : ℚ) =
      (mantissa * powerNumerator 2 exponent : Nat) / (powerDenominator 2 exponent : Nat) := by
    rw [Nat.cast_natAbs, Int.cast_abs, number, abs_signed, scaled]
    exact abs_of_nonneg (by positivity)
  have whole : mantissa * powerNumerator 2 exponent / powerDenominator 2 exponent =
      integer.natAbs := by
    rw [eq_div_iff (by positivity)] at magnitude
    have product : mantissa * powerNumerator 2 exponent =
        integer.natAbs * powerDenominator 2 exponent := by
      exact_mod_cast magnitude.symm
    rw [product]
    exact Nat.mul_div_cancel _ denominator
  have sign : signedCount (isNegative x) integer.natAbs = integer := by
    have cast : (signedCount (isNegative x) integer.natAbs : ℚ) = integer := by
      rw [cast_signedCount, magnitude, scaled, number]
    exact_mod_cast cast
  unfold truncateToInt32
  simp only [decodes.decoded, whole]
  exact congrArg Int32.ofIntClamp sign

/-- The integer nearest to a finite double has thirty-two bits. -/
structure FitsInt32 (x : Float) (integer : ℤ) : Prop where
  finite : isFinite x = true
  nearest : IsNearestAway (value x) integer
  lower : -2 ^ 31 ≤ integer
  upper : integer ≤ 2 ^ 31 - 1

/-- A double is converted to its nearest integer if that has thirty-two bits, and to the default
otherwise. -/
def ConvertsTo (x : Float) (default result : Int32) : Prop :=
  FitsInt32 x result.toInt ∨ (¬ ∃ integer, FitsInt32 x integer) ∧ result = default

theorem fitsInt32_ofInt32 (number : Int32) : FitsInt32 (ofInt32 number) number.toInt := by
  obtain ⟨finite, same⟩ := ofInt32_standsFor number
  refine ⟨finite, ?_, number.le_toInt, Int.le_of_lt_add_one number.toInt_lt⟩
  rw [same]
  exact isNearest_self _ _

theorem ConvertsTo.unique {x : Float} {default result result' : Int32}
    (converts : ConvertsTo x default result) (converts' : ConvertsTo x default result') :
    result = result' := by
  rcases converts with fits | ⟨none, rfl⟩
  · rcases converts' with fits' | ⟨none', -⟩
    · exact Int32.toInt_inj.1 (fits.nearest.unique fits'.nearest)
    · exact absurd ⟨_, fits⟩ none'
  · rcases converts' with fits' | ⟨-, rfl⟩
    · exact absurd ⟨_, fits'⟩ none
    · rfl

end Binary64

open Binary64

/-- The bounds are compared exactly, so that only an integer that fits is cast. -/
theorem roundToInt_of_standsFor {x : Float} {integer : ℤ}
    (stands : StandsFor (Rounding.halfAwayFromZero.apply x) integer) (default : Int32) :
    roundToInt x default =
      if -2 ^ 31 ≤ integer ∧ integer ≤ 2 ^ 31 - 1 then Int32.ofIntClamp integer else default := by
  have least := ofInt32_standsFor Int32.minValue
  have greatest := ofInt32_standsFor Int32.maxValue
  have lower : ofInt32 Int32.minValue ≤ Rounding.halfAwayFromZero.apply x ↔ -2 ^ 31 ≤ integer := by
    rw [le_iff_value_le least.finite stands.finite, least.value_eq, stands.value_eq, Int.cast_le,
      Int32.toInt_minValue]
  have upper : Rounding.halfAwayFromZero.apply x ≤ ofInt32 Int32.maxValue ↔
      integer ≤ 2 ^ 31 - 1 := by
    rw [le_iff_value_le stands.finite greatest.finite, greatest.value_eq, stands.value_eq,
      Int.cast_le, Int32.toInt_maxValue]
  unfold roundToInt
  simp only [isFinite_eq, stands.finite, truncateToInt32_eq stands, lower, upper, Bool.true_and,
    Bool.and_eq_true, decide_eq_true_eq]

theorem roundToInt_of_not_finite {x : Float} (infinite : isFinite x = false) (default : Int32) :
    roundToInt x default = default := by
  have same : Rounding.halfAwayFromZero.apply x = x := by
    unfold Rounding.apply
    split
    next decoded =>
      have finite := decide_eq_true (decode_finite decoded).2.2.2
      rw [← isFinite, infinite] at finite
      exact absurd finite Bool.false_ne_true
    next =>
      rfl
  unfold roundToInt
  simp only [same, isFinite_eq, infinite, Bool.false_and, Bool.false_eq_true, if_false]

theorem convertsTo_roundToInt (x : Float) (default : Int32) :
    ConvertsTo x default (roundToInt x default) := by
  by_cases finite : isFinite x = true
  · obtain ⟨integer, nearest, stands⟩ := exists_apply_standsFor finite
    rw [roundToInt_of_standsFor stands]
    split
    next fits =>
      have cast : (Int32.ofIntClamp integer).toInt = integer :=
        Int32.toInt_ofIntClamp fits.1 (by rw [Int32.toInt_maxValue]; exact fits.2)
      refine .inl ?_
      rw [cast]
      exact ⟨finite, nearest, fits.1, fits.2⟩
    next outside =>
      refine .inr ⟨?_, rfl⟩
      rintro ⟨other, fits⟩
      obtain rfl := nearest.unique fits.nearest
      exact outside ⟨fits.lower, fits.upper⟩
  · exact .inr ⟨fun fits => finite fits.choose_spec.finite,
      roundToInt_of_not_finite (Bool.eq_false_of_not_eq_true finite) default⟩

theorem roundToInt_mono {x y : Float} {default : Int32} (fits : ∃ integer, FitsInt32 x integer)
    (fits' : ∃ integer, FitsInt32 y integer) (notMore : x ≤ y) :
    roundToInt x default ≤ roundToInt y default := by
  have result := (convertsTo_roundToInt x default).resolve_right fun other => other.1 fits
  have result' := (convertsTo_roundToInt y default).resolve_right fun other => other.1 fits'
  rw [Int32.le_iff_toInt_le]
  exact result.nearest.mono result'.nearest
    ((le_iff_value_le result.finite result'.finite).1 notMore)

/-- Conversion gives the nearest integer or the default, and nothing else; among the doubles that
are not converted to the default it keeps the order. What a formula gives as an integer is its
value, converted so. -/
theorem roundToInt_iff_convertsTo {G : Game} (registry : Registry G) (state : G.State) :
    (∀ x default result, roundToInt x default = result ↔ ConvertsTo x default result) ∧
      (∀ x y default, (∃ integer, FitsInt32 x integer) → (∃ integer, FitsInt32 y integer) →
        x ≤ y → roundToInt x default ≤ roundToInt y default) ∧
      (∀ (evaluation : Evaluation) default,
        ConvertsTo evaluation.value default (evaluation.toInt default)) ∧
      ∀ formula table default result,
        (evaluateInt registry state formula table default).result = .ok result ↔
          ∃ value, (evaluate registry state formula table).result = .ok value ∧
            ConvertsTo value default result := by
  have converted : ∀ x default result,
      roundToInt x default = result ↔ ConvertsTo x default result := by
    intro x default result
    constructor
    · rintro rfl
      exact convertsTo_roundToInt x default
    · exact (convertsTo_roundToInt x default).unique
  refine ⟨converted, fun x y default => roundToInt_mono,
    fun evaluation default => convertsTo_roundToInt _ _, ?_⟩
  intro formula table default result
  rw [evaluateInt, Outcome.map]
  cases (evaluate registry state formula table).result with
  | error error =>
      constructor
      · intro impossible
        cases impossible
      · rintro ⟨value, impossible, -⟩
        cases impossible
  | ok value =>
      constructor
      · intro succeeds
        exact ⟨value, rfl, (converted value default result).1 (Except.ok.inj succeeds)⟩
      · rintro ⟨value', same, converts⟩
        cases same
        exact congrArg Except.ok ((converted value default result).2 converts)

theorem roundToInt_iff_convertsTo_half :
    FitsInt32 2.5 3 ∧ roundToInt 2.5 0 ≤ roundToInt (ofInt32 Int32.maxValue) 0 ∧
      (evaluateInt Registry.empty () (.single "reward" (.const 2.5))
        (.empty : Variables ⟨Unit, Unit, Unit⟩) 0).result = .ok 3 := by
  have decoded : decode 2.5 = .finite false (5 * 2 ^ 50) (-51) := by
    decide +kernel
  have number : value 2.5 = (2 : Nat) + 1 / 2 := by
    rw [value, decoded]
    norm_num [signed]
  have fits : FitsInt32 2.5 3 :=
    ⟨by decide +kernel, number ▸ isNearestAway_up 2 (le_refl _) (by norm_num), by decide, by decide⟩
  have greatest := ofInt32_standsFor Int32.maxValue
  have notMore : 2.5 ≤ ofInt32 Int32.maxValue := by
    rw [le_iff_value_le fits.finite greatest.finite, number, greatest.value_eq,
      Int32.toInt_maxValue]
    norm_num
  obtain ⟨-, mono, -, evaluates⟩ :=
    roundToInt_iff_convertsTo (Registry.empty : Registry ⟨Unit, Unit, Unit⟩) ()
  exact ⟨fits, mono _ _ 0 ⟨3, fits⟩ ⟨_, fitsInt32_ofInt32 _⟩ notMore,
    (evaluates _ _ _ _).2 ⟨2.5, rfl, .inl fits⟩⟩

end RewardFormula
