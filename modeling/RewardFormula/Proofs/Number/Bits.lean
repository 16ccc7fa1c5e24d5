import Mathlib
import RewardFormula.Number.Binary64

/-!
# The bits of a double

A double other than a not-a-number is given back by the bits of its sign and its
magnitude, and its negation has the other sign. The laws of packed words that this
rests on are reached through Mathlib as a whole only.
-/

namespace RewardFormula

namespace Binary64

open Float.Model Float.Model.UnpackedFloat

section Fields

variable (word : BitVec Format.binary64.numBits)

theorem toNat_unpackMantissa :
    (unpackMantissa word).toNat = word.toNat % fieldUnit := by
  simp [unpackMantissa, fieldUnit]

theorem toNat_unpackExponent :
    (unpackExponent word).toNat = word.toNat / fieldUnit % 2048 := by
  simp [unpackExponent, fieldUnit, Nat.shiftRight_eq_div_pow]

theorem toNat_unpackSign :
    (unpackSign word).toNat = word.toNat / signUnit := by
  have bound : word.toNat < 2 ^ 64 := word.isLt
  simp [unpackSign, signUnit, Nat.shiftRight_eq_div_pow]
  omega

theorem toNat_packComponents (sign : Sign) (exponent : BitVec 11) (mantissa : BitVec 52) :
    (packComponents Format.binary64 sign exponent mantissa).toNat =
      sign.toBitVec.toNat * signUnit + exponent.toNat * fieldUnit + mantissa.toNat := by
  have exponentBound := exponent.isLt
  have mantissaBound := mantissa.isLt
  simp only [packComponents, BitVec.toNat_append]
  rw [← Nat.shiftLeft_add_eq_or_of_lt exponentBound, ← Nat.shiftLeft_add_eq_or_of_lt mantissaBound]
  simp only [Nat.shiftLeft_eq, signUnit, fieldUnit]
  omega

/-- The word with the other sign. -/
def resigned : UInt64 :=
  .ofBitVec (packComponents Format.binary64 (-Sign.ofBitVec (unpackSign word))
    (unpackExponent word) (unpackMantissa word))

theorem toNat_resigned :
    (resigned word).toNat = (1 - word.toNat / signUnit) * signUnit + word.toNat % signUnit := by
  have opposite : ∀ bit : BitVec 1, (-Sign.ofBitVec bit).toBitVec.toNat = 1 - bit.toNat := by
    decide
  change (packComponents Format.binary64 _ _ _).toNat = _
  rw [toNat_packComponents, opposite, toNat_unpackSign]
  have field := toNat_unpackExponent word
  have fraction := toNat_unpackMantissa word
  change (unpackExponent word).toNat = _ at field
  rw [field, fraction]
  simp only [signUnit, fieldUnit]
  omega

theorem unpack_resigned :
    unpack Format.binary64 (resigned word).toBitVec = (unpack Format.binary64 word).neg := by
  conv => rhs; rw [← packComponents_unpackSign_unpackExponent_unpackMantissa word]
  unfold UnpackedFloat.unpack
  simp only [resigned, unpackSign_packComponents, unpackExponent_packComponents,
    unpackMantissa_packComponents, Sign.ofBitVec_toBitVec]
  split
  · split <;> rfl
  · split
    · split <;> rfl
    · rfl

end Fields

theorem isNaNBits_iff (word : BitVec Format.binary64.numBits) :
    isNaNBits word = true ↔ infinityBits < word.toNat % signUnit := by
  have field := toNat_unpackExponent word
  have fraction := toNat_unpackMantissa word
  have allOnes : unpackExponent word = -1#11 ↔ word.toNat / fieldUnit % 2048 = 2047 := by
    rw [← BitVec.toNat_inj, field]
    rfl
  have noFraction : unpackMantissa word = 0#52 ↔ word.toNat % fieldUnit = 0 := by
    rw [← BitVec.toNat_inj, fraction]
    rfl
  simp only [isNaNBits, decide_eq_true_eq, ne_eq]
  change (unpackExponent word = -1#11 ∧ ¬unpackMantissa word = 0#52) ↔ _
  rw [allOnes, noFraction]
  simp only [signUnit, fieldUnit, infinityBits]
  omega

/-- The not-a-numbers are beyond the infinities. -/
theorem isNaN_iff (x : Float) : x.isNaN = true ↔ infinityBits < magnitudeOf x := by
  have unpacked : x.isNaN = @isNaNBits Format.binary64 x.toBits.toBitVec := by
    change (unpack Format.binary64 x.toBits.toBitVec).isNaN = _
    unfold UnpackedFloat.unpack isNaNBits
    dsimp only
    split
    next allOnes =>
      split
      next noFraction =>
        simp only [allOnes, noFraction, ne_eq, not_true_eq_false, and_false, decide_false]
        rfl
      next someFraction =>
        simp only [allOnes, someFraction, ne_eq, not_false_eq_true, and_self, decide_true]
        rfl
    next other =>
      simp only [other, false_and, decide_false]
      split
      · split <;> rfl
      · rfl
  rw [unpacked, isNaNBits_iff]
  rfl

theorem toBits_ofBits {word : UInt64} (isNumber : word.toNat % signUnit ≤ infinityBits) :
    (Float.ofBits word).toBits = word := by
  have notNaN : ¬ @isNaNBits Format.binary64 word.toBitVec = true := by
    rw [isNaNBits_iff, not_lt]
    exact isNumber
  refine UInt64.toBitVec_inj.1 ?_
  change UnpackedFloat.pack Format.binary64 (unpack Format.binary64 word.toBitVec) = word.toBitVec
  rw [pack_unpack, if_neg notNaN]

variable {x : Float} {negative : Bool} {magnitude : Nat}

theorem toNat_toBits (x : Float) :
    x.toBits.toNat = (isNegative x).toNat * signUnit + magnitudeOf x := by
  have bound := x.toBits.toNat_lt
  unfold isNegative magnitudeOf
  by_cases sign : signUnit ≤ x.toBits.toNat
  · simp only [sign, decide_true, Bool.toNat_true]
    simp only [signUnit] at *
    omega
  · simp only [sign, decide_false, Bool.toNat_false]
    simp only [signUnit] at *
    omega

theorem toNat_toBits_ofMagnitude (isNumber : magnitude ≤ infinityBits) :
    (ofMagnitude negative magnitude).toBits.toNat = negative.toNat * signUnit + magnitude := by
  have written :
      (UInt64.ofNat (if negative = true then signUnit + magnitude else magnitude)).toNat =
      negative.toNat * signUnit + magnitude := by
    rw [UInt64.toNat_ofNat']
    cases negative
    all_goals simp [signUnit, infinityBits] at *
    all_goals omega
  rw [ofMagnitude, toBits_ofBits, written]
  rw [written]
  cases negative
  all_goals simp [signUnit, infinityBits] at *
  all_goals omega

theorem isNegative_ofMagnitude (isNumber : magnitude ≤ infinityBits) :
    isNegative (ofMagnitude negative magnitude) = negative := by
  rw [isNegative, toNat_toBits_ofMagnitude isNumber]
  cases negative
  all_goals simp [signUnit, infinityBits] at *
  all_goals omega

theorem magnitudeOf_ofMagnitude (isNumber : magnitude ≤ infinityBits) :
    magnitudeOf (ofMagnitude negative magnitude) = magnitude := by
  rw [magnitudeOf, toNat_toBits_ofMagnitude isNumber]
  cases negative
  all_goals simp [signUnit, infinityBits] at *
  all_goals omega

/-- A double other than a not-a-number has the bits of its sign and magnitude. -/
theorem ofMagnitude_magnitudeOf (isNumber : magnitudeOf x ≤ infinityBits) :
    ofMagnitude (isNegative x) (magnitudeOf x) = x := by
  refine Float.toBits_inj.1 (UInt64.toNat_inj.1 ?_)
  rw [toNat_toBits_ofMagnitude isNumber, toNat_toBits]

theorem neg_eq_ofBits (x : Float) : -x = Float.ofBits (resigned x.toBits.toBitVec) := by
  refine Float.toBits_inj.1 (UInt64.toBitVec_inj.1 ?_)
  change UnpackedFloat.pack Format.binary64 (unpack Format.binary64 x.toBits.toBitVec).neg =
    UnpackedFloat.pack Format.binary64
      (unpack Format.binary64 (resigned x.toBits.toBitVec).toBitVec)
  rw [unpack_resigned]

theorem neg_eq_ofMagnitude (isNumber : magnitudeOf x ≤ infinityBits) :
    -x = ofMagnitude (!isNegative x) (magnitudeOf x) := by
  have small : magnitudeOf x < signUnit := Nat.mod_lt _ (by decide)
  have other : (resigned x.toBits.toBitVec).toNat =
      (!isNegative x).toNat * signUnit + magnitudeOf x := by
    rw [toNat_resigned]
    change (1 - x.toBits.toNat / signUnit) * signUnit + magnitudeOf x = _
    rw [toNat_toBits]
    generalize magnitudeOf x = magnitude at small ⊢
    cases isNegative x
    all_goals simp [signUnit] at *
    all_goals omega
  refine Float.toBits_inj.1 (UInt64.toNat_inj.1 ?_)
  rw [toNat_toBits_ofMagnitude isNumber, neg_eq_ofBits, toBits_ofBits, other]
  rw [other, Nat.mul_add_mod_of_lt small]
  exact isNumber

end Binary64

end RewardFormula
