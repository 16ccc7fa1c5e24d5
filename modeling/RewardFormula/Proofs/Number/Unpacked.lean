import RewardFormula.Proofs.Number.Values

/-!
# Unpacked doubles

The arithmetic of doubles works on a sign, a mantissa and an exponent. A finite double is unpacked
to the mantissa and the exponent that it is decoded to, and a place on the grid is packed to the
double with its number.
-/

namespace RewardFormula

namespace Binary64

open Float.Model Float.Model.UnpackedFloat

/-- The sign of an unpacked double. -/
def unpackedSign (negative : Bool) : Sign :=
  if negative then .negative else .positive

/-- What a finite double is unpacked to. -/
def unpackedFinite (negative : Bool) (mantissa : Nat) (exponent : Int) : UnpackedFloat :=
  if positive : 0 < mantissa then .finite (unpackedSign negative) mantissa exponent positive
  else .zero (unpackedSign negative)

theorem unpackedFinite_zero (negative : Bool) (exponent : Int) :
    unpackedFinite negative 0 exponent = .zero (unpackedSign negative) :=
  rfl

theorem unpackedFinite_of_pos (negative : Bool) {mantissa : Nat} (positive : 0 < mantissa)
    (exponent : Int) :
    unpackedFinite negative mantissa exponent =
      .finite (unpackedSign negative) mantissa exponent positive :=
  dif_pos positive

section Words

variable (x : Float)

def word : BitVec Format.binary64.numBits :=
  x.toBits.toBitVec

theorem toNat_word : (word x).toNat = (isNegative x).toNat * signUnit + magnitudeOf x :=
  toNat_toBits x

theorem magnitudeOf_lt_signUnit : magnitudeOf x < signUnit :=
  Nat.mod_lt _ (by decide)

theorem ofBitVec_unpackSign_word :
    Sign.ofBitVec (unpackSign (word x)) = unpackedSign (isNegative x) := by
  have small := magnitudeOf_lt_signUnit x
  have sign : unpackSign (word x) = BitVec.ofBool (isNegative x) := by
    rw [← BitVec.toNat_inj, toNat_unpackSign, toNat_word, BitVec.toNat_ofBool]
    simp only [signUnit] at *
    omega
  rw [sign]
  cases isNegative x
  · rfl
  · rfl

theorem unpackExponent_word : (unpackExponent (word x)).toNat = magnitudeOf x / fieldUnit := by
  have small := magnitudeOf_lt_signUnit x
  rw [toNat_unpackExponent, toNat_word]
  simp only [signUnit, fieldUnit] at *
  omega

theorem unpackMantissa_word : (unpackMantissa (word x)).toNat = magnitudeOf x % fieldUnit := by
  rw [toNat_unpackMantissa, toNat_word]
  simp only [signUnit, fieldUnit]
  omega

end Words

theorem toNat_one_append_fraction (fraction : BitVec 52) :
    (1#1 ++ fraction).toNat = fraction.toNat + fieldUnit := by
  have bound := fraction.isLt
  rw [BitVec.toNat_append, ← Nat.shiftLeft_add_eq_or_of_lt bound]
  simp only [fieldUnit, BitVec.toNat_ofNat]
  omega

theorem finite_congr {sign sign' : Sign} {mantissa mantissa' : Nat} {exponent exponent' : Int}
    {positive : 0 < mantissa} {positive' : 0 < mantissa'} (sameSign : sign = sign')
    (sameMantissa : mantissa = mantissa') (sameExponent : exponent = exponent') :
    UnpackedFloat.finite sign mantissa exponent positive =
      .finite sign' mantissa' exponent' positive' := by
  subst sameSign sameMantissa sameExponent
  rfl

theorem Decodes.unpack {x : Float} {mantissa : Nat} {exponent : Int}
    (decodes : Decodes x mantissa exponent) :
    x.toModel.unpack = unpackedFinite (isNegative x) mantissa exponent := by
  obtain ⟨decoded, grid, magnitude, finite⟩ := decodes
  have field := unpackExponent_word x
  have fraction := unpackMantissa_word x
  have bias : (Format.binary64.exponentBias : Int) = 1023 := by
    decide
  unfold decode at decoded
  simp only [Nat.not_lt.2 finite.le, finite.ne, if_false] at decoded
  change UnpackedFloat.unpack Format.binary64 (word x) = _
  unfold UnpackedFloat.unpack
  simp only [ofBitVec_unpackSign_word]
  have notOnes : unpackExponent (word x) ≠ -1#11 := by
    intro ones
    rw [ones] at field
    change 2047 = _ at field
    simp only [infinityBits, fieldUnit] at *
    omega
  rw [if_neg notOnes]
  split at decoded
  next noField =>
    obtain ⟨-, rfl, rfl⟩ := decoded
    have zeros : unpackExponent (word x) = 0#11 :=
      BitVec.eq_of_toNat_eq (field.trans noField)
    have noFraction : unpackMantissa (word x) = 0#52 ↔ ¬ 0 < magnitudeOf x % fieldUnit := by
      rw [← BitVec.toNat_inj, fraction]
      change magnitudeOf x % fieldUnit = 0 ↔ _
      rw [Nat.pos_iff_ne_zero, not_not]
    rw [if_pos zeros, unpackedFinite]
    by_cases positive : 0 < magnitudeOf x % fieldUnit
    · rw [dif_pos positive, dif_neg (by rw [noFraction]; exact not_not.2 positive)]
      refine finite_congr rfl fraction ?_
      rw [field, noField, bias]
      rfl
    · rw [dif_neg positive, dif_pos (noFraction.2 positive)]
  next someField =>
    obtain ⟨-, rfl, rfl⟩ := decoded
    have notZeros : unpackExponent (word x) ≠ 0#11 := by
      intro zeros
      rw [zeros] at field
      exact someField field.symm
    have positive : 0 < magnitudeOf x % fieldUnit + fieldUnit :=
      Nat.add_pos_right _ (by decide)
    rw [if_neg notZeros, unpackedFinite, dif_pos positive]
    refine finite_congr rfl ((toNat_one_append_fraction _).trans (by rw [fraction])) ?_
    rw [field, bias]
    omega

theorem toNat_toBitVec_unpackedSign (negative : Bool) :
    (unpackedSign negative).toBitVec.toNat = negative.toNat := by
  cases negative
  · rfl
  · rfl

/-- A double is told by the word that its unpacked form is packed to. -/
theorem ofModel_pack_eq {unpacked : UnpackedFloat} {negative : Bool} {magnitude : Nat}
    (isNumber : magnitude ≤ infinityBits)
    (packed : (UnpackedFloat.pack Format.binary64 unpacked).toNat =
      negative.toNat * signUnit + magnitude) :
    Float.ofModel (.pack unpacked) = ofMagnitude negative magnitude := by
  refine Float.toBits_inj.1 (UInt64.toNat_inj.1 ?_)
  rw [toNat_toBits_ofMagnitude isNumber]
  exact packed

/-- A place on the grid is packed to the double with its magnitude, or to the infinity if it
is too large. -/
theorem ofModel_pack_unpackedFinite {mantissa : Nat} {exponent : Int} (negative : Bool)
    (grid : OnGrid mantissa exponent) :
    Float.ofModel (.pack (unpackedFinite negative mantissa exponent)) =
      ofMagnitude negative
        (min infinityBits ((exponent + 1074).toNat * fieldUnit + mantissa)) := by
  obtain ⟨short, finest, leading⟩ := grid
  refine ofModel_pack_eq (min_le_left _ _) ?_
  have bias : (Format.binary64.exponentBias : Int) = 1023 := by
    decide
  unfold unpackedFinite
  split
  next positive =>
    obtain ⟨field, sameField⟩ : ∃ field : Nat, exponent + 1074 = field :=
      ⟨(exponent + 1074).toNat, by omega⟩
    have biased : (exponent + 1023 + ((52 : Nat) : Int)).toNat = field + 1 := by
      omega
    have log : mantissa.log2 + 1 = Format.binary64.mantissaBits ↔ 2 ^ 52 ≤ mantissa := by
      have bits : Format.binary64.mantissaBits = 53 := rfl
      have bound := (Nat.log2_lt positive.ne').2 short
      rw [bits, ← Nat.le_log2 positive.ne']
      omega
    unfold UnpackedFloat.pack
    simp only [bias, biased, log, sameField, Int.toNat_natCast]
    split
    next overflows =>
      have large : infinityBits ≤ field * fieldUnit + mantissa := by
        simp only [infinityBits, fieldUnit] at *
        omega
      have infinite : (-1#11).toNat * fieldUnit + (0#52).toNat = infinityBits := by
        decide
      rw [min_eq_left large, packedInfinity, toNat_packComponents, toNat_toBitVec_unpackedSign,
        Nat.add_assoc]
      exact congrArg _ infinite
    next fits =>
      have small : field * fieldUnit + mantissa ≤ infinityBits := by
        simp only [infinityBits, fieldUnit] at *
        omega
      rw [min_eq_right small]
      split
      next normal =>
        rw [toNat_packComponents, toNat_toBitVec_unpackedSign, Nat.add_assoc, BitVec.toNat_ofNat,
          BitVec.toNat_ofNat]
        refine congrArg _ ?_
        simp only [fieldUnit]
        omega
      next subnormal =>
        rw [toNat_packComponents, toNat_toBitVec_unpackedSign, Nat.add_assoc, BitVec.toNat_ofNat,
          BitVec.toNat_ofNat]
        refine congrArg _ ?_
        obtain rfl : field = 0 := by
          omega
        rw [Nat.mod_eq_of_lt (Nat.not_le.1 subnormal), Nat.zero_mod]
  next zero =>
    obtain rfl : mantissa = 0 := by
      omega
    obtain rfl : exponent = -1074 := leading.resolve_left (by decide)
    rw [UnpackedFloat.pack, packedZero, toNat_packComponents, toNat_toBitVec_unpackedSign,
      Nat.add_assoc]
    refine congrArg _ ?_
    decide

/-- A place on the grid is packed to a double that stands for its number. -/
theorem ofModel_pack_standsFor (negative : Bool) {mantissa : Nat} {exponent : Int}
    (grid : OnGrid mantissa exponent)
    (small : (exponent + 1074).toNat * fieldUnit + mantissa < infinityBits) :
    StandsFor (Float.ofModel (.pack (unpackedFinite negative mantissa exponent)))
      (signed negative (mantissa * 2 ^ exponent)) := by
  have decodes := decodes_ofMagnitude negative grid small
  rw [ofModel_pack_unpackedFinite negative grid, min_eq_right small.le]
  exact ⟨decodes.finite, by rw [decodes.value_eq, isNegative_ofMagnitude small.le]⟩

theorem ofModel_pack_zero_standsFor (sign : Sign) :
    StandsFor (Float.ofModel (.pack (.zero sign))) 0 := by
  have grid : OnGrid 0 (-1074) := ⟨by decide, le_refl _, .inr rfl⟩
  have zero := fun negative => ofModel_pack_standsFor negative grid (by decide)
  simp only [Nat.cast_zero, zero_mul, signed_zero] at zero
  cases sign
  · exact zero true
  · exact zero false

/-- Unpacked doubles are compared as the numbers that they stand for. -/
theorem compare_unpackedFinite (negative negative' : Bool) {mantissa mantissa' : Nat}
    {exponent exponent' : Int} (grid : OnGrid mantissa exponent)
    (grid' : OnGrid mantissa' exponent') :
    (unpackedFinite negative mantissa exponent).compare
        (unpackedFinite negative' mantissa' exponent') =
      some (compare (signed negative (mantissa * 2 ^ exponent))
        (signed negative' (mantissa' * 2 ^ exponent'))) := by
  have order := grid.compare_eq grid'
  have above : ∀ {mantissa : Nat} {exponent : Int}, 0 < mantissa →
      (0 : ℚ) < mantissa * 2 ^ exponent := by
    intro mantissa exponent positive
    have cast : (0 : ℚ) < mantissa := by
      exact_mod_cast positive
    positivity
  rcases Nat.eq_zero_or_pos mantissa with rfl | positive
  · rw [Nat.cast_zero, zero_mul, signed_zero, unpackedFinite, dif_neg (Nat.lt_irrefl 0)]
    rcases Nat.eq_zero_or_pos mantissa' with rfl | positive'
    · rw [Nat.cast_zero, zero_mul, signed_zero, unpackedFinite, dif_neg (Nat.lt_irrefl 0)]
      exact congrArg some (compare_eq_iff_eq.2 rfl).symm
    · rw [unpackedFinite, dif_pos positive']
      cases negative' with
      | false =>
          exact congrArg some (compare_lt_iff_lt.2 (above positive')).symm
      | true =>
          exact congrArg some (compare_gt_iff_gt.2 (neg_neg_of_pos (above positive'))).symm
  · rw [unpackedFinite, dif_pos positive]
    rcases Nat.eq_zero_or_pos mantissa' with rfl | positive'
    · rw [Nat.cast_zero, zero_mul, signed_zero, unpackedFinite, dif_neg (Nat.lt_irrefl 0)]
      cases negative with
      | false =>
          exact congrArg some (compare_gt_iff_gt.2 (above positive)).symm
      | true =>
          exact congrArg some (compare_lt_iff_lt.2 (neg_neg_of_pos (above positive))).symm
    · rw [unpackedFinite, dif_pos positive']
      cases negative with
      | false =>
          cases negative' with
          | false =>
              exact congrArg some order
          | true =>
              exact congrArg some (compare_gt_iff_gt.2
                ((neg_neg_of_pos (above positive')).trans (above positive))).symm
      | true =>
          cases negative' with
          | false =>
              exact congrArg some (compare_lt_iff_lt.2
                ((neg_neg_of_pos (above positive)).trans (above positive'))).symm
          | true =>
              exact congrArg some ((congrArg Ordering.swap order).trans
                (compare_neg_neg _ _).symm)

theorem compare_unpack {x y : Float} (finite : isFinite x = true) (finite' : isFinite y = true) :
    x.toModel.unpack.compare y.toModel.unpack = some (compare (value x) (value y)) := by
  obtain ⟨mantissa, exponent, decodes⟩ := exists_decodes finite
  obtain ⟨mantissa', exponent', decodes'⟩ := exists_decodes finite'
  rw [decodes.unpack, decodes'.unpack, decodes.value_eq, decodes'.value_eq]
  exact compare_unpackedFinite _ _ decodes.grid decodes'.grid

section Order

variable {x y : Float} (finite : isFinite x = true) (finite' : isFinite y = true)

include finite finite'

theorem lt_iff_value_lt : x < y ↔ value x < value y := by
  change decide (x.toModel.unpack.lt y.toModel.unpack = true) = true ↔ _
  rw [decide_eq_true_iff, UnpackedFloat.lt, compare_unpack finite finite', beq_iff_eq,
    Option.some_inj, compare_lt_iff_lt]

theorem le_iff_value_le : x ≤ y ↔ value x ≤ value y := by
  change decide (x.toModel.unpack.le y.toModel.unpack = true) = true ↔ _
  rw [decide_eq_true_iff, UnpackedFloat.le, compare_unpack finite finite', Option.any_some,
    Ordering.isLE_iff_ne_gt]
  exact (not_congr compare_gt_iff_gt).trans not_lt

theorem beq_iff_value_eq : (x == y) = true ↔ value x = value y := by
  change x.toModel.unpack.beq y.toModel.unpack = true ↔ _
  rw [UnpackedFloat.beq, compare_unpack finite finite', beq_iff_eq, Option.some_inj,
    compare_eq_iff_eq]

end Order

theorem isFinite_eq (x : Float) : x.isFinite = isFinite x := by
  have field := unpackExponent_word x
  have small := magnitudeOf_lt_signUnit x
  have allOnes : unpackExponent (word x) = -1#11 ↔ infinityBits ≤ magnitudeOf x := by
    rw [← BitVec.toNat_inj, field]
    change magnitudeOf x / fieldUnit = 2047 ↔ _
    simp only [infinityBits, signUnit, fieldUnit] at *
    omega
  change (UnpackedFloat.unpack Format.binary64 (word x)).isFinite = _
  unfold UnpackedFloat.unpack isFinite
  dsimp only
  split
  next ones =>
    rw [decide_eq_false (Nat.not_lt.2 (allOnes.1 ones))]
    split
    · rfl
    · rfl
  next other =>
    rw [decide_eq_true (Nat.not_le.1 (mt allOnes.2 other))]
    split
    · split
      · rfl
      · rfl
    · rfl

theorem abs_eq_ofMagnitude {x : Float} (finite : isFinite x = true) :
    x.abs = ofMagnitude false (magnitudeOf x) := by
  obtain ⟨mantissa, exponent, decodes⟩ := exists_decodes finite
  change Float.ofModel (.pack x.toModel.unpack.abs) = _
  have unsigned : x.toModel.unpack.abs = unpackedFinite false mantissa exponent := by
    rw [decodes.unpack]
    unfold unpackedFinite
    split
    · rfl
    · rfl
  rw [unsigned, ofModel_pack_unpackedFinite false decodes.grid, decodes.magnitude,
    min_eq_right decodes.small.le]

/-- A finite double with another sign. -/
theorem Decodes.resign {x : Float} {mantissa : Nat} {exponent : Int}
    (decodes : Decodes x mantissa exponent) (negative : Bool) :
    Decodes (ofMagnitude negative (magnitudeOf x)) mantissa exponent := by
  have small := decodes.small
  rw [← decodes.magnitude] at small ⊢
  exact decodes_ofMagnitude negative decodes.grid small

theorem ofMagnitude_standsFor {x : Float} (finite : isFinite x = true) (negative : Bool) :
    StandsFor (ofMagnitude negative (magnitudeOf x)) (signed negative |value x|) := by
  obtain ⟨mantissa, exponent, decodes⟩ := exists_decodes finite
  have resigned := decodes.resign negative
  refine ⟨resigned.finite, ?_⟩
  rw [resigned.value_eq, isNegative_ofMagnitude decodes.small.le, decodes.abs_value]

theorem abs_standsFor {x : Float} (finite : isFinite x = true) : StandsFor x.abs |value x| := by
  rw [abs_eq_ofMagnitude finite]
  exact ofMagnitude_standsFor finite false

theorem withSignOf_standsFor {x : Float} (finite : isFinite x = true) (sign : Float) :
    StandsFor (withSignOf x sign) (signed (isNegative sign) |value x|) :=
  ofMagnitude_standsFor finite _

end Binary64

end RewardFormula
