import RewardFormula.Proofs.Number.RoundedQuotients

/-!
# Differences and quotients of doubles

A difference and a quotient are rounded to the nearest double, so they are exact when they are
doubles themselves.
-/

namespace RewardFormula

namespace Binary64

open Float.Model Float.Model.UnpackedFloat

/-- A mantissa on a finer scale. -/
theorem decreaseExponent_value {mantissa : Nat} {exponent target : Int}
    (finer : target ≤ exponent) :
    ((decreaseExponent mantissa exponent target).1 : ℚ) * 2 ^ target = mantissa * 2 ^ exponent := by
  obtain ⟨shift, rfl⟩ : ∃ shift : Nat, exponent = target + shift :=
    ⟨(exponent - target).toNat, by omega⟩
  have amount : (target + shift - target).toNat = shift := by
    omega
  simp only [decreaseExponent, amount, Nat.shiftLeft_eq]
  rw [zpow_add₀ (by norm_num), zpow_natCast]
  push_cast
  ring

theorem cast_apply_unpackedSign (negative : Bool) (number : Nat) :
    ((unpackedSign negative).apply number : ℚ) = signed negative number := by
  cases negative
  · rfl
  · exact Int.cast_neg _

theorem neg_unpackedSign (negative : Bool) : -unpackedSign negative = unpackedSign !negative := by
  cases negative
  · rfl
  · rfl

theorem exists_sub_zero_zero (sign sign' : Sign) : ∃ sign'',
    UnpackedFloat.sub Format.binary64 (.zero sign) (.zero sign') = .zero sign'' := by
  cases sign
  · cases sign'
    · exact ⟨_, rfl⟩
    · exact ⟨_, rfl⟩
  · cases sign'
    · exact ⟨_, rfl⟩
    · exact ⟨_, rfl⟩

theorem sub_unpackedFinite_zero_left (negative negative' : Bool) (mantissa : Nat)
    (positive : 0 < mantissa) (exponent exponent' : Int) :
    UnpackedFloat.sub Format.binary64 (unpackedFinite negative 0 exponent)
        (unpackedFinite negative' mantissa exponent') =
      unpackedFinite (!negative') mantissa exponent' := by
  rw [unpackedFinite_of_pos _ positive, unpackedFinite_of_pos _ positive, ← neg_unpackedSign]
  rfl

theorem sub_unpackedFinite_zero_right (negative negative' : Bool) (mantissa : Nat)
    (positive : 0 < mantissa) (exponent exponent' : Int) :
    UnpackedFloat.sub Format.binary64 (unpackedFinite negative mantissa exponent)
        (unpackedFinite negative' 0 exponent') =
      unpackedFinite negative mantissa exponent := by
  rw [unpackedFinite_of_pos _ positive]
  rfl

section Differences

variable {x y : Float}

/-- The difference of two doubles other than zero, before it is rounded. -/
theorem exists_sub_eq_normalize {mantissa mantissa' : Nat} {exponent exponent' : Int}
    (decodes : Decodes x mantissa exponent) (decodes' : Decodes y mantissa' exponent')
    (positive : 0 < mantissa) (positive' : 0 < mantissa') :
    ∃ (number scale : Int), (number : ℚ) * 2 ^ scale = value x - value y ∧
      UnpackedFloat.sub Format.binary64 x.toModel.unpack y.toModel.unpack =
        UnpackedFloat.normalize Format.binary64 number scale .positive := by
  refine ⟨(unpackedSign (isNegative x)).apply
      (decreaseExponent mantissa exponent (min exponent exponent')).1 -
    (unpackedSign (isNegative y)).apply
      (decreaseExponent mantissa' exponent' (min exponent exponent')).1,
    min exponent exponent', ?_, ?_⟩
  · rw [Int.cast_sub, sub_mul, cast_apply_unpackedSign, cast_apply_unpackedSign, signed_mul,
      signed_mul, decreaseExponent_value (min_le_left _ _),
      decreaseExponent_value (min_le_right _ _), decodes.value_eq, decodes'.value_eq]
  · rw [decodes.unpack, decodes'.unpack, unpackedFinite_of_pos _ positive,
      unpackedFinite_of_pos _ positive']
    rfl

/-- A difference that is a double is not rounded. -/
theorem sub_standsFor (finite : isFinite x = true) (finite' : isFinite y = true) {z : Float}
    (stands : StandsFor z (value x - value y)) : StandsFor (x - y) (value x - value y) := by
  obtain ⟨mantissa, exponent, decodes⟩ := exists_decodes finite
  obtain ⟨mantissa', exponent', decodes'⟩ := exists_decodes finite'
  change StandsFor (.ofModel (.pack
    (UnpackedFloat.sub Format.binary64 x.toModel.unpack y.toModel.unpack))) _
  rcases Nat.eq_zero_or_pos mantissa with rfl | positive
  · rw [decodes.value_eq_zero_iff.2 rfl, zero_sub, decodes.unpack, decodes'.unpack]
    rcases Nat.eq_zero_or_pos mantissa' with rfl | positive'
    · obtain ⟨sign, zero⟩ := exists_sub_zero_zero (unpackedSign (isNegative x))
        (unpackedSign (isNegative y))
      rw [unpackedFinite_zero, unpackedFinite_zero, zero, decodes'.value_eq_zero_iff.2 rfl,
        neg_zero]
      exact ofModel_pack_zero_standsFor sign
    · rw [sub_unpackedFinite_zero_left _ _ _ positive', decodes'.value_eq, ← signed_not]
      exact ofModel_pack_standsFor _ decodes'.grid decodes'.small_place
  · rcases Nat.eq_zero_or_pos mantissa' with rfl | positive'
    · rw [decodes'.value_eq_zero_iff.2 rfl, sub_zero, decodes.unpack, decodes'.unpack,
        sub_unpackedFinite_zero_right _ _ _ positive, decodes.value_eq]
      exact ofModel_pack_standsFor _ decodes.grid decodes.small_place
    · obtain ⟨number, scale, same, rounded⟩ :=
        exists_sub_eq_normalize decodes decodes' positive positive'
      rw [rounded]
      by_cases equal : number = 0
      · rw [← same, equal, Int.cast_zero, zero_mul]
        exact ofModel_pack_zero_standsFor _
      · rw [ofModel_pack_normalize equal, same]
        refine stands.ofRational ?_
        rw [← same]
        exact mul_ne_zero (by exact_mod_cast equal) (by positivity)

end Differences

theorem div_unpackedSign (negative negative' : Bool) :
    unpackedSign negative / unpackedSign negative' = unpackedSign (negative != negative') := by
  cases negative
  · cases negative'
    · rfl
    · rfl
  · cases negative'
    · rfl
    · rfl

/-- So many bits are put below the dividend that the quotient has a full mantissa. -/
theorem divCore_enough {mantissa mantissa' : Nat} (positive : 0 < mantissa)
    (positive' : 0 < mantissa') {exponent exponent' target : Int} {shift : Nat}
    (targeted : target = min (exponent - exponent') (Format.binary64.targetExponent
      (totalExponent mantissa exponent - totalExponent mantissa' exponent')))
    (shifted : shift = (exponent - exponent' - target).toNat) :
    2 ^ 52 ≤ mantissa * 2 ^ shift / mantissa' ∨ target ≤ -1074 := by
  rw [targetExponent_eq, totalExponent, totalExponent] at targeted
  by_cases low : target ≤ -1074
  · exact .inr low
  · refine .inl ((Nat.le_div_iff_mul_le positive').2 ?_)
    have bits : 52 + (mantissa'.log2 + 1) ≤ mantissa.log2 + shift := by
      omega
    calc 2 ^ 52 * mantissa'
        ≤ 2 ^ 52 * 2 ^ (mantissa'.log2 + 1) := Nat.mul_le_mul_left _ Nat.lt_log2_self.le
      _ = 2 ^ (52 + (mantissa'.log2 + 1)) := (pow_add _ _ _).symm
      _ ≤ 2 ^ (mantissa.log2 + shift) := Nat.pow_le_pow_right (by decide) bits
      _ = 2 ^ mantissa.log2 * 2 ^ shift := pow_add _ _ _
      _ ≤ mantissa * 2 ^ shift := Nat.mul_le_mul_right _ (Nat.log2_self_le positive.ne')

section Quotients

variable {x y : Float} (finite : isFinite x = true) (finite' : isFinite y = true)
  (nonzero' : value y ≠ 0)

include finite finite' nonzero'

/-- A quotient other than zero is rounded to the nearest double. -/
theorem div_eq_ofRational (nonzero : value x ≠ 0) : x / y = ofRational (value x / value y) := by
  obtain ⟨mantissa, exponent, decodes⟩ := exists_decodes finite
  obtain ⟨mantissa', exponent', decodes'⟩ := exists_decodes finite'
  have positive := Nat.pos_of_ne_zero (mt decodes.value_eq_zero_iff.2 nonzero)
  have positive' := Nat.pos_of_ne_zero (mt decodes'.value_eq_zero_iff.2 nonzero')
  obtain ⟨target, targeted⟩ : ∃ target, target = min (exponent - exponent')
      (Format.binary64.targetExponent
        (totalExponent mantissa exponent - totalExponent mantissa' exponent')) := ⟨_, rfl⟩
  obtain ⟨shift, shifted⟩ : ∃ shift, shift = (exponent - exponent' - target).toNat := ⟨_, rfl⟩
  have enough := divCore_enough positive positive' targeted shifted
  have rounded := ofModel_pack_roundWithAccuracy (isNegative x != isNegative y) positive' enough
  have quotient : UnpackedFloat.div Format.binary64 x.toModel.unpack y.toModel.unpack =
      roundWithAccuracy Format.binary64 (unpackedSign (isNegative x != isNegative y))
        (mantissa * 2 ^ shift / mantissa') target
        (accuracyOfFraction (mantissa * 2 ^ shift % mantissa') mantissa') := by
    rw [decodes.unpack, decodes'.unpack, unpackedFinite_of_pos _ positive,
      unpackedFinite_of_pos _ positive', ← div_unpackedSign, ← Nat.shiftLeft_eq, shifted, targeted]
    rfl
  have scaled := scaled_div (by decide : 0 < 2) target (mantissa * 2 ^ shift) mantissa'
  have exponents : exponent = exponent' + target + shift := by
    omega
  change Float.ofModel (.pack (UnpackedFloat.div Format.binary64 _ _)) = _
  rw [quotient, rounded]
  refine nearest_eq_ofRational (Nat.mul_pos positive' (powerDenominator_pos (by decide) _)) ?_
    (div_ne_zero nonzero nonzero')
  rw [scaled, decodes.value_eq, decodes'.value_eq, signed_div_signed, exponents,
    Nat.cast_ofNat, zpow_add₀ (by norm_num), zpow_add₀ (by norm_num), zpow_natCast]
  push_cast
  congr 1
  field_simp

/-- A quotient that is a double is not rounded. -/
theorem div_standsFor {z : Float} (stands : StandsFor z (value x / value y)) :
    StandsFor (x / y) (value x / value y) := by
  by_cases zero : value x = 0
  · obtain ⟨mantissa, exponent, decodes⟩ := exists_decodes finite
    obtain ⟨mantissa', exponent', decodes'⟩ := exists_decodes finite'
    have positive' := Nat.pos_of_ne_zero (mt decodes'.value_eq_zero_iff.2 nonzero')
    rw [zero, zero_div]
    change StandsFor (.ofModel (.pack
      (UnpackedFloat.div Format.binary64 x.toModel.unpack y.toModel.unpack))) 0
    rw [decodes.unpack, decodes'.unpack, decodes.value_eq_zero_iff.1 zero, unpackedFinite_zero,
      unpackedFinite_of_pos _ positive']
    exact ofModel_pack_zero_standsFor _
  · rw [div_eq_ofRational finite finite' nonzero' zero]
    exact stands.ofRational (div_ne_zero zero nonzero')

end Quotients

end Binary64

end RewardFormula
