import RewardFormula.Proofs.Number.Bits

/-!
# Counting in doubles

Natural numbers below `2 ^ 53` are doubles, so counts are added without rounding. Larger
ones are rounded, but not below one.
-/

namespace RewardFormula

namespace Binary64

open Float.Model Float.Model.UnpackedFloat

/-- The double of a positive number that has at most 53 bits: the bits at the top of the
mantissa. -/
def unpackedPositive (n : Nat) (positive : 0 < n) : UnpackedFloat :=
  .finite .positive (n * 2 ^ (52 - n.log2)) (n.log2 - 52)
    (Nat.mul_pos positive (Nat.two_pow_pos _))

def unpackedCount (n : Nat) : UnpackedFloat :=
  if positive : 0 < n then unpackedPositive n positive else .zero .positive

theorem log2_le_of_lt {n : Nat} (positive : 0 < n) (small : n < 2 ^ 53) : n.log2 ≤ 52 := by
  have below := (Nat.log2_lt (Nat.ne_of_gt positive)).2 small
  omega

theorem log2_scaled {n : Nat} (positive : 0 < n) (scale : Nat) :
    (n * 2 ^ scale).log2 = n.log2 + scale := by
  induction scale with
  | zero =>
      rw [pow_zero, mul_one, Nat.add_zero]
  | succ scale inductionHypothesis =>
      have doubled : n * 2 ^ (scale + 1) = 2 * (n * 2 ^ scale) := by
        rw [pow_succ]
        ring
      have nonzero : n * 2 ^ scale ≠ 0 := Nat.ne_of_gt (Nat.mul_pos positive (Nat.two_pow_pos _))
      rw [doubled, Nat.log2_two_mul nonzero, inductionHypothesis, Nat.add_assoc]

/-- A number that is not too small is rounded to 53 bits. -/
theorem targetExponent_normal {mantissa : Nat} {exponent : Int}
    (least : -1022 ≤ mantissa.log2 + exponent) :
    Format.binary64.targetExponent (totalExponent mantissa exponent) =
      mantissa.log2 + exponent - 52 := by
  have lowest : Format.binary64.minExponent = -1074 := by
    decide
  have bits : (Format.binary64.mantissaBits : Int) = 53 := by
    decide
  rw [totalExponent, Format.targetExponent, lowest, bits]
  omega

theorem targetExponent_scaled {n : Nat} (positive : 0 < n) (scale : Nat) :
    Format.binary64.targetExponent (totalExponent (n * 2 ^ scale) (-scale)) = n.log2 - 52 := by
  have log := log2_scaled positive scale
  rw [targetExponent_normal (by omega), log]
  omega

theorem shiftToTargetExponent_wide {mantissa shift : Nat} {exponent : Int}
    (wide : mantissa.log2 = 52 + shift) (least : -1022 ≤ mantissa.log2 + exponent) :
    shiftToTargetExponent Format.binary64 mantissa exponent .exact =
      ((⟨mantissa, false, false⟩ : ExtendedMantissa) >>> shift, exponent + shift) := by
  have amount : ((mantissa.log2 : Int) + exponent - 52 - exponent).toNat = shift := by
    omega
  simp only [shiftToTargetExponent, targetExponent_normal least, shiftToExponent, amount,
    ExtendedMantissa.ofMantissaAndAccuracy]

/-- Bits that are zero are shifted out without a trace. -/
theorem shiftRight_scaled (mantissa shift : Nat) :
    (⟨mantissa * 2 ^ shift, false, false⟩ : ExtendedMantissa) >>> shift =
      ⟨mantissa, false, false⟩ := by
  change shift.repeat ExtendedMantissa.shiftRightOne _ = _
  induction shift generalizing mantissa with
  | zero =>
      simp [Nat.repeat]
  | succ shift inductionHypothesis =>
      have doubled : mantissa * 2 ^ (shift + 1) = 2 * mantissa * 2 ^ shift := by
        rw [pow_succ]
        ring
      rw [Nat.repeat, doubled, inductionHypothesis (2 * mantissa)]
      simp [ExtendedMantissa.shiftRightOne]

theorem shiftToTargetExponent_scaled {n scale : Nat} (positive : 0 < n)
    (wide : 52 ≤ n.log2 + scale) (small : n < 2 ^ 53) :
    shiftToTargetExponent Format.binary64 (n * 2 ^ scale) (-scale) .exact =
      (⟨n * 2 ^ (52 - n.log2), false, false⟩, (n.log2 : Int) - 52) := by
  have log := log2_le_of_lt positive small
  have scaled := log2_scaled positive scale
  obtain ⟨shift, rfl⟩ : ∃ shift, scale = (52 - n.log2) + shift :=
    ⟨n.log2 + scale - 52, by omega⟩
  have wide' : (n * 2 ^ (52 - n.log2 + shift)).log2 = 52 + shift := by
    omega
  rw [shiftToTargetExponent_wide wide' (by omega), pow_add, ← mul_assoc, shiftRight_scaled]
  congr 1
  omega

/-- A number of 53 bits is not changed by rounding, on whatever scale it is given. -/
theorem roundWithAccuracy_scaled {n scale : Nat} (positive : 0 < n)
    (wide : 52 ≤ n.log2 + scale) (small : n < 2 ^ 53) :
    roundWithAccuracy Format.binary64 .positive (n * 2 ^ scale) (-scale) .exact =
      unpackedPositive n positive := by
  have log := log2_le_of_lt positive small
  have exponent : (n.log2 : Int) - 52 = -((52 - n.log2 : Nat) : Int) := by
    omega
  have wide' : 52 ≤ n.log2 + (52 - n.log2) := by
    omega
  have again := shiftToTargetExponent_scaled positive wide' small
  rw [← exponent] at again
  have nonzero : n * 2 ^ (52 - n.log2) ≠ 0 :=
    Nat.ne_of_gt (Nat.mul_pos positive (Nat.two_pow_pos _))
  simp only [roundWithAccuracy, shiftToTargetExponent_scaled positive wide small,
    ExtendedMantissa.roundedMantissa, ExtendedMantissa.accuracy, Accuracy.roundToNearestEven,
    again, nonzero, dite_false, unpackedPositive]

/-- A scale is made finer by shifting. -/
theorem decreaseExponent_scaled (n shift scale : Nat) :
    decreaseExponent (n * 2 ^ shift) (-shift) (-scale) =
      (n * 2 ^ max shift scale, -((max shift scale : Nat) : Int)) := by
  obtain ⟨lift, finest⟩ : ∃ lift, max shift scale = shift + lift :=
    ⟨max shift scale - shift, by omega⟩
  have amount : (-(shift : Int) - -(scale : Int)).toNat = lift := by
    omega
  simp only [decreaseExponent, amount, finest, Nat.shiftLeft_eq, mul_assoc, ← pow_add]
  congr 1
  omega

theorem round_scaled {n : Nat} (positive : 0 < n) (small : n < 2 ^ 53) (scale : Nat) :
    UnpackedFloat.round Format.binary64 .positive (n * 2 ^ scale) (-scale) =
      unpackedPositive n positive := by
  have log := log2_le_of_lt positive small
  have target : (n.log2 : Int) - 52 = -((52 - n.log2 : Nat) : Int) := by
    omega
  simp only [UnpackedFloat.round, targetExponent_scaled positive, target, decreaseExponent_scaled]
  exact roundWithAccuracy_scaled positive (by omega) small

theorem normalize_scaled {n : Nat} (small : n < 2 ^ 53) (scale : Nat) :
    UnpackedFloat.normalize Format.binary64 (n * 2 ^ scale : Nat) (-scale) .positive =
      unpackedCount n := by
  unfold UnpackedFloat.normalize unpackedCount
  by_cases positive : 0 < n
  · have scaled : (0 : Int) < (n * 2 ^ scale : Nat) :=
      Int.natCast_pos.2 (Nat.mul_pos positive (Nat.two_pow_pos _))
    rw [compare_gt_iff_gt.2 scaled, dif_pos positive]
    exact round_scaled positive small scale
  · obtain rfl : n = 0 := by
      omega
    rw [zero_mul]
    rfl

/-- The top bit of a mantissa is left out of its word and put back. -/
theorem toNat_one_append {mantissa : Nat} (low : 2 ^ 52 ≤ mantissa) (high : mantissa < 2 ^ 53) :
    (1#1 ++ BitVec.ofNat 52 mantissa).toNat = mantissa := by
  obtain ⟨fraction, rfl⟩ := Nat.exists_eq_add_of_le low
  have short : fraction < 2 ^ 52 := by
    omega
  rw [BitVec.toNat_append, BitVec.toNat_ofNat, BitVec.toNat_ofNat, Nat.add_mod_left,
    Nat.mod_eq_of_lt short, ← Nat.shiftLeft_add_eq_or_of_lt short]
  rfl

/-- The exponent fields of zeros and infinities are not those of other exponents. -/
theorem ofNat_field_normal {field : Nat} (positive : 0 < field) (fits : field + 1 < 2 ^ 11) :
    (BitVec.ofNat 11 field).toNat = field ∧ BitVec.ofNat 11 field ≠ 0#11 ∧
      BitVec.ofNat 11 field ≠ -1#11 := by
  have same : (BitVec.ofNat 11 field).toNat = field := by
    rw [BitVec.toNat_ofNat, Nat.mod_eq_of_lt (by omega)]
  refine ⟨same, fun zero => ?_, fun ones => ?_⟩
  · have value : (BitVec.ofNat 11 field).toNat = 0 := by
      rw [zero]
      rfl
    omega
  · have value : (BitVec.ofNat 11 field).toNat = 2047 := by
      rw [ones]
      rfl
    omega

/-- A mantissa of 53 bits is given back by its word, unless the exponent is too large. -/
theorem unpack_pack_normal {mantissa : Nat} {exponent : Int} (positive : 0 < mantissa)
    (low : 2 ^ 52 ≤ mantissa) (high : mantissa < 2 ^ 53) (least : -1074 ≤ exponent) :
    (Float.Model.pack (.finite .positive mantissa exponent positive)).unpack =
      if 972 ≤ exponent then .infinity .positive
      else .finite .positive mantissa exponent positive := by
  have normal : mantissa.log2 + 1 = Format.binary64.mantissaBits := by
    rw [(Nat.log2_eq_iff (Nat.ne_of_gt positive)).2 ⟨low, high⟩]
    rfl
  obtain ⟨field, sameField⟩ : ∃ field : Nat, exponent + 1075 = field :=
    ⟨(exponent + 1075).toNat, by omega⟩
  have bias : (Format.binary64.exponentBias : Int) = 1023 := by
    decide
  have biased : (exponent + (Format.binary64.exponentBias : Int) + ((52 : Nat) : Int)).toNat =
      field := by
    omega
  unfold Float.Model.unpack Float.Model.pack
  simp only [UnpackedFloat.pack, biased, normal, if_true]
  by_cases large : 972 ≤ exponent
  · have overflows : 2 ^ 11 ≤ field + 1 := by
      omega
    rw [if_pos overflows, if_pos large]
    rfl
  · have fits : field + 1 < 2 ^ 11 := by
      omega
    obtain ⟨value, notZero, notOnes⟩ := ofNat_field_normal (by omega) fits
    rw [if_neg (Nat.not_le.2 fits), if_neg large]
    simp only [UnpackedFloat.unpack, unpackExponent_packComponents, unpackMantissa_packComponents,
      unpackSign_packComponents, Sign.ofBitVec_toBitVec, notOnes, notZero, if_false,
      toNat_one_append low high, value]
    congr 1
    omega

theorem unpackedPositive_bits {n : Nat} (positive : 0 < n) (small : n < 2 ^ 53) :
    2 ^ 52 ≤ n * 2 ^ (52 - n.log2) ∧ n * 2 ^ (52 - n.log2) < 2 ^ 53 := by
  have log := log2_le_of_lt positive small
  constructor
  · calc
      2 ^ 52 = 2 ^ n.log2 * 2 ^ (52 - n.log2) := by
        rw [← pow_add, Nat.add_sub_of_le log]
      _ ≤ n * 2 ^ (52 - n.log2) :=
        Nat.mul_le_mul_right _ (Nat.log2_self_le (Nat.ne_of_gt positive))
  · calc
      n * 2 ^ (52 - n.log2) < 2 ^ (n.log2 + 1) * 2 ^ (52 - n.log2) :=
        Nat.mul_lt_mul_of_pos_right Nat.lt_log2_self (Nat.two_pow_pos _)
      _ = 2 ^ 53 := by
        rw [← pow_add, Nat.add_right_comm, Nat.add_sub_of_le log]

theorem unpack_pack_count {n : Nat} (small : n < 2 ^ 53) :
    (Float.Model.pack (unpackedCount n)).unpack = unpackedCount n := by
  unfold unpackedCount
  split
  next positive =>
    have log := log2_le_of_lt positive small
    obtain ⟨low, high⟩ := unpackedPositive_bits positive small
    rw [unpackedPositive, unpack_pack_normal _ low high (by omega), if_neg (by omega)]
  next =>
    rfl

/-- Two numbers are added on the finer of their scales. -/
theorem add_unpackedPositive {m n : Nat} (positiveM : 0 < m) (positiveN : 0 < n)
    (small : m + n < 2 ^ 53) :
    UnpackedFloat.add Format.binary64 (unpackedPositive m positiveM)
      (unpackedPositive n positiveN) = unpackedCount (m + n) := by
  have logM := log2_le_of_lt positiveM (by omega)
  have logN := log2_le_of_lt positiveN (by omega)
  have exponentM : (m.log2 : Int) - 52 = -((52 - m.log2 : Nat) : Int) := by
    omega
  have exponentN : (n.log2 : Int) - 52 = -((52 - n.log2 : Nat) : Int) := by
    omega
  obtain ⟨scale, finest⟩ : ∃ scale, max (52 - m.log2) (52 - n.log2) = scale :=
    ⟨_, rfl⟩
  have common : min (-((52 - m.log2 : Nat) : Int)) (-((52 - n.log2 : Nat) : Int)) =
      -(scale : Int) := by
    omega
  have finerM : max (52 - m.log2) scale = scale := by
    omega
  have finerN : max (52 - n.log2) scale = scale := by
    omega
  have total : ((m * 2 ^ scale : Nat) : Int) + (n * 2 ^ scale : Nat) =
      ((m + n) * 2 ^ scale : Nat) := by
    rw [← Nat.cast_add, Nat.add_mul]
  rw [unpackedPositive, unpackedPositive]
  simp only [UnpackedFloat.add, exponentM, exponentN, common, decreaseExponent_scaled, finerM,
    finerN, Sign.apply, total, normalize_scaled small]

theorem add_unpackedCount {m n : Nat} (small : m + n < 2 ^ 53) :
    UnpackedFloat.add Format.binary64 (unpackedCount m) (unpackedCount n) =
      unpackedCount (m + n) := by
  rcases Nat.eq_zero_or_pos m with rfl | positiveM
  · rw [Nat.zero_add]
    rcases Nat.eq_zero_or_pos n with rfl | positiveN
    · rfl
    · rw [unpackedCount, unpackedCount, dif_pos positiveN]
      rfl
  · rcases Nat.eq_zero_or_pos n with rfl | positiveN
    · rw [Nat.add_zero, unpackedCount, dif_pos positiveM]
      rfl
    · rw [unpackedCount, unpackedCount, dif_pos positiveM, dif_pos positiveN,
        add_unpackedPositive positiveM positiveN small]

theorem mul_unpackedCount_one {n : Nat} (small : n < 2 ^ 53) :
    UnpackedFloat.mul Format.binary64 (unpackedCount n) (unpackedCount 1) = unpackedCount n := by
  have unit : unpackedCount 1 = .finite .positive (2 ^ 52) (-52) (Nat.two_pow_pos 52) := rfl
  rw [unit, unpackedCount]
  split
  next positive =>
    have log := log2_le_of_lt positive small
    have exponent : (n.log2 : Int) - 52 + -52 = -((52 - n.log2 + 52 : Nat) : Int) := by
      omega
    rw [unpackedPositive, UnpackedFloat.mul, mul_assoc, ← pow_add, exponent]
    exact roundWithAccuracy_scaled positive (by omega) small
  next =>
    rfl

theorem toFloat_eq {n : Nat} (small : n < 2 ^ 53) :
    n.toUInt64.toFloat = .ofModel (.pack (unpackedCount n)) := by
  have whole : n.toUInt64.toNat = n := by
    rw [Nat.toUInt64, UInt64.toNat_ofNat', Nat.mod_eq_of_lt (by omega)]
  have scaled := normalize_scaled small 0
  rw [pow_zero, mul_one, Nat.cast_zero, neg_zero] at scaled
  rw [UInt64.toFloat, Float.Model.ofUInt64, UnpackedFloat.ofUInt64, whole, UnpackedFloat.ofNat,
    UnpackedFloat.ofInt, scaled]

theorem ofNat_eq {n : Nat} (small : n < 2 ^ 53) :
    Float.ofNat n = .ofModel (.pack (unpackedCount n)) := by
  have unit : Float.exactlyRepresentablePowersOfTen[0] = .ofModel (.pack (unpackedCount 1)) := rfl
  unfold Float.ofNat OfScientific.ofScientific instOfScientificFloat Float.ofScientific
  dsimp only
  rw [dif_pos ⟨small, by decide⟩, if_neg Bool.false_ne_true, unit, toFloat_eq small]
  change Float.ofModel (.pack
    (UnpackedFloat.mul _ (Float.Model.unpack _) (Float.Model.unpack _))) = _
  rw [unpack_pack_count small, unpack_pack_count (by norm_num), mul_unpackedCount_one small]

/-- Counts are added as numbers. -/
theorem ofNat_add {m n : Nat} (small : m + n < 2 ^ 53) :
    Float.ofNat m + Float.ofNat n = Float.ofNat (m + n) := by
  have smallM : m < 2 ^ 53 := by
    omega
  have smallN : n < 2 ^ 53 := by
    omega
  rw [ofNat_eq small, ofNat_eq smallM, ofNat_eq smallN]
  change Float.ofModel (.pack
    (UnpackedFloat.add _ (Float.Model.unpack _) (Float.Model.unpack _))) = _
  rw [unpack_pack_count smallM, unpack_pack_count smallN, add_unpackedCount small]

theorem foldl_add_ofNat (counts : List Nat) {first : Nat} (small : first + counts.sum < 2 ^ 53) :
    counts.foldl (fun total count => total + Float.ofNat count) (Float.ofNat first) =
      Float.ofNat (first + counts.sum) := by
  induction counts generalizing first with
  | nil =>
      rfl
  | cons count counts inductionHypothesis =>
      rw [List.sum_cons] at small ⊢
      rw [List.foldl_cons, ofNat_add (by omega), inductionHypothesis (by omega), Nat.add_assoc]

theorem mantissa_shiftRight (extended : ExtendedMantissa) (shift : Nat) :
    (extended >>> shift).mantissa = extended.mantissa / 2 ^ shift := by
  change (shift.repeat ExtendedMantissa.shiftRightOne extended).mantissa = _
  induction shift with
  | zero =>
      rw [pow_zero, Nat.div_one]
      rfl
  | succ shift inductionHypothesis =>
      rw [Nat.repeat, ExtendedMantissa.shiftRightOne, inductionHypothesis, Nat.div_div_eq_div_mul,
        pow_succ]

theorem shifted_bits {mantissa shift : Nat} (wide : mantissa.log2 = 52 + shift) :
    2 ^ 52 ≤ mantissa / 2 ^ shift ∧ mantissa / 2 ^ shift < 2 ^ 53 := by
  have nonzero : mantissa ≠ 0 := by
    rintro rfl
    rw [Nat.log2_zero] at wide
    omega
  rw [Nat.le_div_iff_mul_le (Nat.two_pow_pos _), Nat.div_lt_iff_lt_mul (Nat.two_pow_pos _),
    ← pow_add, ← pow_add, Nat.add_right_comm 52 1, ← wide]
  exact ⟨Nat.log2_self_le nonzero, Nat.lt_log2_self⟩

theorem le_roundedMantissa (extended : ExtendedMantissa) :
    extended.mantissa ≤ extended.roundedMantissa := by
  unfold ExtendedMantissa.roundedMantissa Accuracy.roundToNearestEven
  split <;> omega

/-- A number of at least 53 bits is rounded to 53 bits, on a scale that is no finer. -/
theorem roundWithAccuracy_wide {mantissa : Nat} {exponent : Int} (wide : 52 ≤ mantissa.log2)
    (least : -1022 ≤ mantissa.log2 + exponent) :
    ∃ (rounded : Nat) (positive : 0 < rounded) (scale : Int),
      roundWithAccuracy Format.binary64 .positive mantissa exponent .exact =
        .finite .positive rounded scale positive ∧
      2 ^ 52 ≤ rounded ∧ rounded < 2 ^ 53 ∧ mantissa.log2 + exponent - 52 ≤ scale := by
  obtain ⟨shift, log⟩ := Nat.exists_eq_add_of_le wide
  obtain ⟨shifted, sameShifted⟩ : ∃ shifted : ExtendedMantissa,
      (⟨mantissa, false, false⟩ : ExtendedMantissa) >>> shift = shifted :=
    ⟨_, rfl⟩
  have truncated : shifted.mantissa = mantissa / 2 ^ shift := by
    rw [← sameShifted, mantissa_shiftRight]
  -- Rounding up can carry into one more bit, which the second shift takes away.
  have bits : 2 ^ 52 ≤ shifted.roundedMantissa :=
    calc
      2 ^ 52 ≤ shifted.mantissa := truncated ▸ (shifted_bits log).1
      _ ≤ shifted.roundedMantissa := le_roundedMantissa shifted
  have wide' : 52 ≤ shifted.roundedMantissa.log2 :=
    (Nat.le_log2 (by omega)).2 bits
  obtain ⟨carry, log'⟩ := Nat.exists_eq_add_of_le wide'
  have least' : -1022 ≤ (shifted.roundedMantissa.log2 : Int) + (exponent + shift) := by
    omega
  obtain ⟨low, high⟩ := shifted_bits log'
  refine ⟨_, Nat.lt_of_lt_of_le (Nat.two_pow_pos 52) low, exponent + shift + carry, ?_, low, high,
    by omega⟩
  have nonzero : shifted.roundedMantissa / 2 ^ carry ≠ 0 := by
    omega
  simp only [roundWithAccuracy, shiftToTargetExponent_wide log least, sameShifted,
    shiftToTargetExponent_wide log' least', mantissa_shiftRight, nonzero, dite_false]

/-- A number of more bits is read as the double that is nearest to it. -/
theorem ofNat_eq_round {n : Nat} (large : 2 ^ 53 ≤ n) :
    Float.ofNat n = .ofModel (.pack
      (roundWithAccuracy Format.binary64 .positive (n * 2 ^ 53) (-53) .exact)) := by
  have nonzero : n ≠ 0 := by
    omega
  have notTiny : ¬ Int.ofNat 0 < -(2 ^ Format.binary64.exponentBits + (n.log2 : Int)) := by
    have wide : (0 : Int) ≤ 2 ^ Format.binary64.exponentBits := by
      positivity
    rw [Int.ofNat_eq_natCast]
    omega
  unfold Float.ofNat OfScientific.ofScientific instOfScientificFloat Float.ofScientific
  dsimp only
  rw [dif_neg (by omega), if_neg Bool.false_ne_true, Float.Model.ofScientific,
    UnpackedFloat.ofScientific, dif_neg nonzero, if_neg (by decide), if_neg notTiny,
    if_pos (by decide), UnpackedFloat.mul, Nat.shiftLeft_eq]
  change Float.ofModel (.pack (roundWithAccuracy _ _ (n * 2 ^ 53 * 1) _ _)) = _
  rw [mul_one]
  rfl

/-- A normal double on a scale that is not below that of one is not below one. -/
theorem one_le_normal {mantissa : Nat} {exponent : Int} (positive : 0 < mantissa)
    (low : 2 ^ 52 ≤ mantissa) (high : mantissa < 2 ^ 53) (scale : -52 ≤ exponent) :
    1 ≤ Float.ofModel (.pack (.finite .positive mantissa exponent positive)) := by
  have unit : (1 : Float) =
      .ofModel (.pack (.finite .positive (2 ^ 52) (-52) (Nat.two_pow_pos 52))) :=
    ofNat_eq (by norm_num : 1 < 2 ^ 53)
  have unpacked := unpack_pack_normal (Nat.two_pow_pos 52) (le_refl _) (by norm_num)
    (by norm_num : (-1074 : Int) ≤ -52)
  rw [if_neg (by norm_num)] at unpacked
  rw [unit]
  change decide (UnpackedFloat.le (Float.Model.unpack _) (Float.Model.unpack _) = true) = true
  rw [unpacked, unpack_pack_normal positive low high (by omega)]
  split
  next =>
    rfl
  next =>
    have above : ((compare (-52) exponent).then (compare (2 ^ 52) mantissa)).isLE = true := by
      rcases Int.lt_or_eq_of_le scale with finer | rfl
      · rw [compare_lt_iff_lt.2 finer]
        rfl
      · rw [compare_eq_iff_eq.2 rfl]
        exact Nat.isLE_compare.2 low
    simp only [UnpackedFloat.le, UnpackedFloat.compare, Option.any_some, above, decide_true]

theorem one_le_ofNat {n : Nat} (positive : 0 < n) : 1 ≤ Float.ofNat n := by
  by_cases small : n < 2 ^ 53
  · have log := log2_le_of_lt positive small
    obtain ⟨low, high⟩ := unpackedPositive_bits positive small
    have same : unpackedCount n = unpackedPositive n positive := dif_pos positive
    rw [ofNat_eq small, same]
    exact one_le_normal _ low high (by omega)
  · have large : 2 ^ 53 ≤ n := Nat.le_of_not_lt small
    have log : 53 ≤ n.log2 := (Nat.le_log2 (Nat.ne_of_gt positive)).2 large
    have scaled := log2_scaled positive 53
    have wide : 52 ≤ (n * 2 ^ 53).log2 := by
      omega
    have least : -1022 ≤ ((n * 2 ^ 53).log2 : Int) + -53 := by
      omega
    obtain ⟨rounded, positive', scale, found, low, high, coarse⟩ :=
      roundWithAccuracy_wide wide least
    rw [ofNat_eq_round large, found]
    exact one_le_normal positive' low high (by omega)

theorem one_le_ofNat_iff {n : Nat} : 1 ≤ Float.ofNat n ↔ 1 ≤ n := by
  constructor
  · intro atLeast
    by_contra below
    obtain rfl : n = 0 := by
      omega
    exact absurd atLeast (by decide)
  · exact one_le_ofNat

end Binary64

end RewardFormula
