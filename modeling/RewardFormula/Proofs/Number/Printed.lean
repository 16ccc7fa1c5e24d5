import RewardFormula.Number.Text
import RewardFormula.Proofs.Number.Bits
import RewardFormula.Proofs.Number.Shortest
import RewardFormula.Proofs.Source.NumeralReading

/-!
# The text of a number is its numeral

The plain text of a double without a sign is a numeral without an exponent, and
the double nearest to this numeral is the double itself.
-/

namespace RewardFormula

namespace Decimal

theorem ofDigitChars_append_zeros (digits : List Char) (count : Nat) :
    ofDigitChars (digits ++ NumberText.zeros count) = 10 ^ count * ofDigitChars digits := by
  change Nat.ofDigitChars 10 (digits ++ List.replicate count '0') 0 = _
  rw [Nat.ofDigitChars_append, Nat.ofDigitChars_replicate_zero]
  rfl

theorem ofDigitChars_zeros_append (digits : List Char) (count : Nat) :
    ofDigitChars (NumberText.zeros count ++ digits) = ofDigitChars digits := by
  change Nat.ofDigitChars 10 (List.replicate count '0' ++ digits) 0 = _
  rw [Nat.ofDigitChars_append, Nat.ofDigitChars_replicate_zero, Nat.mul_zero]
  rfl

theorem ofDigitChars_toDigits (number : Nat) : ofDigitChars (Nat.toDigits 10 number) = number :=
  Nat.ofDigitChars_ten_toDigits

/-- The decimal of digits with the last `count` of them behind the point. -/
def pointed (digits : List Char) (count : Nat) : Decimal :=
  ⟨ofDigitChars digits, -count⟩

end Decimal

namespace NumberText

open Grammar

variable {decimal : Decimal}

theorem digits_zeros (count : Nat) : Digits (zeros count) := by
  intro digit member
  rw [List.eq_of_mem_replicate member]
  rfl

theorem Digits.append {digits digits' : List Char} (first : Digits digits)
    (second : Digits digits') : Digits (digits ++ digits') := by
  intro digit member
  exact (List.mem_append.1 member).elim (first digit) (second digit)

/-- Only zeros are left away at the end. -/
theorem toDigits_eq (decimal : Decimal) :
    ∃ count, Nat.toDigits 10 decimal.digits = significantDigits decimal ++ zeros count := by
  let reversed := (Nat.toDigits 10 decimal.digits).reverse
  have allZeros : reversed.takeWhile (· == '0') =
      zeros (reversed.takeWhile (· == '0')).length := by
    refine List.eq_replicate_iff.2 ⟨rfl, fun c member => ?_⟩
    simpa using List.mem_takeWhile_imp member
  refine ⟨(reversed.takeWhile (· == '0')).length, ?_⟩
  calc Nat.toDigits 10 decimal.digits
      = (reversed.takeWhile (· == '0') ++ reversed.dropWhile (· == '0')).reverse := by
        rw [List.takeWhile_append_dropWhile, List.reverse_reverse]
    _ = significantDigits decimal ++ (reversed.takeWhile (· == '0')).reverse := List.reverse_append
    _ = significantDigits decimal ++ zeros (reversed.takeWhile (· == '0')).length := by
        rw [allZeros, zeros, List.reverse_replicate, List.length_replicate]
        rfl

theorem digits_significantDigits (decimal : Decimal) : Digits (significantDigits decimal) := by
  obtain ⟨count, split⟩ := toDigits_eq decimal
  intro digit member
  have written : digit ∈ Nat.toDigits 10 decimal.digits := by
    rw [split]
    exact List.mem_append_left _ member
  exact Nat.isDigit_of_mem_toDigits (by decide) (by decide) written

theorem value_eq_significant (decimal : Decimal) :
    decimal.value = (Decimal.ofDigitChars (significantDigits decimal) : ℚ) *
      10 ^ (position decimal - (significantDigits decimal).length) := by
  obtain ⟨count, split⟩ := toDigits_eq decimal
  have digits := Decimal.ofDigitChars_toDigits decimal.digits
  have lengths := congrArg List.length split
  rw [split, Decimal.ofDigitChars_append_zeros] at digits
  rw [List.length_append, zeros, List.length_replicate] at lengths
  have exponents : position decimal - (significantDigits decimal).length =
      count + decimal.exponent := by
    rw [position, Decimal.digitCount, lengths]
    push_cast
    ring
  rw [exponents, Decimal.value, ← digits, zpow_add₀ (by norm_num), zpow_natCast]
  push_cast
  ring

section Positions

variable {digits : List Char} (allDigits : Digits digits) (nonempty : digits ≠ []) {position : Int}

include allDigits

theorem point_before (before : position ≤ 0) :
    ∃ whole fraction,
      Significand ('0' :: '.' :: (zeros (-position).toNat ++ digits)) whole fraction ∧
        (Decimal.pointed (whole ++ fraction) fraction.length).value =
          (Decimal.ofDigitChars digits : ℚ) * 10 ^ (position - digits.length) := by
  have zeroDigit : Digits ['0'] := digits_zeros 1
  refine ⟨['0'], zeros (-position).toNat ++ digits, .pointed zeroDigit (by simp)
    (Digits.append (digits_zeros _) allDigits), ?_⟩
  have joined : Decimal.ofDigitChars (['0'] ++ (zeros (-position).toNat ++ digits)) =
      Decimal.ofDigitChars digits := by
    rw [← Decimal.ofDigitChars_zeros_append digits (-position).toNat]
    exact Decimal.ofDigitChars_zeros_append _ 1
  have exponents : -(((zeros (-position).toNat ++ digits).length : Nat) : Int) =
      position - digits.length := by
    simp only [zeros, List.length_append, List.length_replicate]
    omega
  simp only [Decimal.pointed, Decimal.value, joined, exponents]

include nonempty

theorem point_behind (behind : digits.length ≤ position) :
    ∃ whole fraction,
      Significand (digits ++ zeros (position.toNat - digits.length)) whole fraction ∧
        (Decimal.pointed (whole ++ fraction) fraction.length).value =
          (Decimal.ofDigitChars digits : ℚ) * 10 ^ (position - digits.length) := by
  refine ⟨digits ++ zeros (position.toNat - digits.length), [],
    .whole (Digits.append allDigits (digits_zeros _)) (by simp [nonempty]), ?_⟩
  have power : (10 : ℚ) ^ (position - digits.length) =
      10 ^ (position.toNat - digits.length) := by
    rw [← zpow_natCast]
    congr 1
    omega
  simp only [Decimal.pointed, Decimal.value, List.append_nil, Decimal.ofDigitChars_append_zeros,
    List.length_nil, Nat.cast_zero, neg_zero, zpow_zero, mul_one, power]
  push_cast
  ring

theorem point_inside (positive : 0 < position) (inside : position < digits.length) :
    ∃ whole fraction,
      Significand (digits.take position.toNat ++ '.' :: digits.drop position.toNat) whole fraction ∧
        (Decimal.pointed (whole ++ fraction) fraction.length).value =
          (Decimal.ofDigitChars digits : ℚ) * 10 ^ (position - digits.length) := by
  have taken : digits.take position.toNat ≠ [] := by
    rw [Ne, List.take_eq_nil_iff]
    rintro (zero | empty)
    · omega
    · exact nonempty empty
  refine ⟨digits.take position.toNat, digits.drop position.toNat, .pointed
    (fun digit member => allDigits digit (List.mem_of_mem_take member)) taken
    fun digit member => allDigits digit (List.mem_of_mem_drop member), ?_⟩
  have exponents : -(((digits.drop position.toNat).length : Nat) : Int) =
      position - digits.length := by
    rw [List.length_drop]
    omega
  simp only [Decimal.pointed, Decimal.value, List.take_append_drop, exponents]

/-- Whichever side the point is on, the digits around it have the value of the
digits at their place. -/
theorem positional_plain (position : Int) :
    ∃ whole fraction, Significand (positional .plain digits position) whole fraction ∧
      (Decimal.pointed (whole ++ fraction) fraction.length).value =
        (Decimal.ofDigitChars digits : ℚ) * 10 ^ (position - digits.length) := by
  unfold positional
  split
  next before =>
    exact point_before allDigits before
  next positive =>
    split
    next behind =>
      rw [NumberStyle.plain, List.append_nil]
      exact point_behind allDigits nonempty behind
    next inside =>
      exact point_inside allDigits nonempty (by omega) (by omega)

end Positions

/-- The plain text of a decimal has the value of the decimal. -/
theorem ofDecimal_plain (decimal : Decimal) :
    ∃ whole fraction, Significand (ofDecimal .plain decimal) whole fraction ∧
      (Decimal.pointed (whole ++ fraction) fraction.length).value = decimal.value := by
  have value := value_eq_significant decimal
  unfold ofDecimal
  simp only
  split
  next empty =>
    rw [List.isEmpty_iff] at empty
    rw [empty] at value
    refine ⟨['0'], [], .whole (digits_zeros 1) (by simp), ?_⟩
    rw [value]
    simp [Decimal.pointed, Decimal.value, Decimal.ofDigitChars]
  next nonempty =>
    rw [value]
    exact positional_plain (digits_significantDigits decimal) (by simpa using nonempty) _

/-- The decimal that is written for what a finite double is decoded to. -/
def decimalOf (mantissa : Nat) (exponent : Int) (magnitude : Nat) : Decimal :=
  if mantissa = 0 then ⟨0, 0⟩ else .shortest mantissa exponent magnitude

theorem decimalOf_magnitude {mantissa : Nat} {exponent : Int}
    (grid : Binary64.OnGrid mantissa exponent)
    (finite : (exponent + 1074).toNat * Binary64.fieldUnit + mantissa < Binary64.infinityBits) :
    (decimalOf mantissa exponent
      ((exponent + 1074).toNat * Binary64.fieldUnit + mantissa)).magnitude =
        (exponent + 1074).toNat * Binary64.fieldUnit + mantissa := by
  unfold decimalOf
  split
  next zero =>
    have lowest : exponent = -1074 := grid.leading.resolve_left (by omega)
    rw [zero, lowest]
    rfl
  next nonzero =>
    exact Decimal.shortest_magnitude grid (Nat.pos_of_ne_zero nonzero) finite

end NumberText

namespace Binary64

/-- Whether a double is neither an infinity nor a not-a-number. -/
def isFinite (x : Float) : Bool :=
  decide (magnitudeOf x < infinityBits)

variable {x : Float}

theorem magnitudeOf_lt (finite : isFinite x = true) : magnitudeOf x < infinityBits :=
  of_decide_eq_true finite

theorem exists_decode (finite : isFinite x = true) :
    ∃ mantissa exponent, decode x = .finite (isNegative x) mantissa exponent := by
  have bound := magnitudeOf_lt finite
  unfold decode
  simp only [Nat.not_lt.2 bound.le, bound.ne, if_false]
  split
  · exact ⟨_, _, rfl⟩
  · exact ⟨_, _, rfl⟩

theorem isFinite_neg (finite : isFinite x = true) : isFinite (-x) = true := by
  have bound := magnitudeOf_lt finite
  rw [isFinite, neg_eq_ofMagnitude bound.le, magnitudeOf_ofMagnitude bound.le]
  exact finite

theorem isNegative_neg (finite : isFinite x = true) : isNegative (-x) = !isNegative x := by
  have bound := magnitudeOf_lt finite
  rw [neg_eq_ofMagnitude bound.le, isNegative_ofMagnitude bound.le]

end Binary64

namespace NumberText

open Binary64 Grammar

variable {x : Float}

/-- The text is the one of a decimal that is read back as the double, with the
sign in front. -/
theorem ofFloat_plain (finite : isFinite x = true) :
    ∃ decimal : Decimal, decimal.magnitude = magnitudeOf x ∧
      ofFloat .plain x = signed (isNegative x) (ofDecimal .plain decimal) := by
  obtain ⟨mantissa, exponent, decoded⟩ := exists_decode finite
  obtain ⟨-, grid, magnitude, bound⟩ := decode_finite decoded
  refine ⟨decimalOf mantissa exponent (magnitudeOf x), ?_, ?_⟩
  · rw [← magnitude] at bound ⊢
    exact decimalOf_magnitude grid bound
  · simp only [ofFloat, decoded, decimalOf]

/-- The text of a double without a sign is a numeral for it. -/
theorem ofFloat_unsigned (finite : isFinite x = true) (unsigned : isNegative x = false) :
    ∃ whole fraction, Significand (ofFloat .plain x) whole fraction ∧
      (Decimal.pointed (whole ++ fraction) fraction.length).toFloat false = x := by
  obtain ⟨decimal, magnitude, text⟩ := ofFloat_plain finite
  obtain ⟨whole, fraction, significand, value⟩ := ofDecimal_plain decimal
  refine ⟨whole, fraction, ?_, ?_⟩
  · rw [text, unsigned]
    exact significand
  · rw [Decimal.toFloat, Decimal.magnitude_congr value, magnitude, ← unsigned]
    exact ofMagnitude_magnitudeOf (magnitudeOf_lt finite).le

/-- The decimal of the text depends on the magnitude only. -/
theorem ofFloat_negative (finite : isFinite x = true) (negative : isNegative x = true) :
    ofFloat .plain x = '-' :: ofFloat .plain (-x) := by
  have bound := magnitudeOf_lt finite
  have magnitude : magnitudeOf (-x) = magnitudeOf x := by
    rw [neg_eq_ofMagnitude bound.le, magnitudeOf_ofMagnitude bound.le]
  have sign : isNegative (-x) = false := by
    rw [isNegative_neg finite, negative]
    rfl
  unfold ofFloat
  simp only [decode, magnitude, sign, negative, Nat.not_lt.2 bound.le, bound.ne, if_false]
  split
  next nan => split at nan <;> contradiction
  next infinite => split at infinite <;> contradiction
  next same =>
    split at same
    all_goals
      obtain ⟨rfl, rfl, rfl⟩ := same
      simp [*, signed]

end NumberText

namespace Grammar

open Binary64

/-- The characters that names and numerals are made of. -/
def isWordPart (c : Char) : Bool :=
  Name.isPart c || Name.isStart c || c == '.'

/-- Neither a name nor a numeral goes on here. -/
def Separate (rest : List Char) : Prop :=
  EndsBefore isWordPart rest

theorem Separate.mono {rest : List Char} (separate : Separate rest) {isPart : Char → Bool}
    (within : ∀ c, isPart c = true → isWordPart c = true) :
    EndsBefore isPart rest := by
  intro next member
  by_contra goesOn
  rw [Bool.not_eq_false] at goesOn
  have contradicts := separate next member
  rw [within next goesOn] at contradicts
  cases contradicts

theorem significand_literal {text whole fraction rest : List Char}
    (significand : Significand text whole fraction) (separate : Separate rest) :
    Literal (text ++ rest) ((Decimal.pointed (whole ++ fraction) fraction.length).toFloat false)
      rest := by
  have noDigit : EndsBefore Char.isDigit rest :=
    separate.mono fun c isDigit => by
      simp [isWordPart, Name.isPart, Char.isAlphanum, isDigit]
  have noMark : EndsBefore isExponentMark rest := by
    refine separate.mono fun c isMark => ?_
    rw [isExponentMark, Bool.or_eq_true, beq_iff_eq, beq_iff_eq] at isMark
    rcases isMark with rfl | rfl <;> rfl
  have noPoint : EndsBefore (· == '.') rest :=
    separate.mono fun c isPoint => by simp [isWordPart, isPoint]
  have noName : EndsBefore Name.isStart rest :=
    separate.mono fun c isStart => by simp [isWordPart, isStart]
  have scanned := scan_of_numeral significand .absent
    ⟨⟨noDigit, fun _ => noMark⟩, fun _ _ => noPoint⟩
  rw [Int.zero_sub, List.nil_append] at scanned
  exact literal_iff_scan.2 ⟨_, scanned, noName, rfl⟩

/-- A double without a sign is read back from its text. -/
theorem literal_numberText {x : Float} (finite : isFinite x = true)
    (unsigned : isNegative x = false) {rest : List Char} (separate : Separate rest) :
    Literal ((numberText x).toList ++ rest) x rest := by
  obtain ⟨whole, fraction, significand, value⟩ := NumberText.ofFloat_unsigned finite unsigned
  rw [numberText, String.toList_ofList]
  have literal := significand_literal significand separate
  rwa [value] at literal

theorem numberText_negative {x : Float} (finite : isFinite x = true)
    (negative : isNegative x = true) :
    (numberText x).toList = '-' :: (numberText (-x)).toList := by
  rw [numberText, numberText, String.toList_ofList, String.toList_ofList]
  exact NumberText.ofFloat_negative finite negative

end Grammar

end RewardFormula
