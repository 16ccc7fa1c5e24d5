import RewardFormula.Number.Reading
import RewardFormula.Proofs.Number.Printed

/-!
# Reading back the texts of numbers

A double and an integer are read back from their texts. What is accepted as a number consists of
few characters.
-/

namespace RewardFormula

open Grammar

section Digits

variable {limit value : Nat} {pastLimit : IntegerFault} {digits : List Char}

theorem le_ofDigitChars (value : Nat) (digits : List Char) :
    value ≤ Nat.ofDigitChars 10 digits value := by
  induction digits generalizing value with
  | nil =>
      exact le_refl _
  | cons digit digits inductionHypothesis =>
      rw [Nat.ofDigitChars_cons]
      have further := inductionHypothesis (10 * value + (digit.toNat - '0'.toNat))
      omega

theorem readDigits_of_digits (allDigits : Digits digits)
    (within : Nat.ofDigitChars 10 digits value ≤ limit) :
    readDigits limit pastLimit value digits = .ok (Nat.ofDigitChars 10 digits value) := by
  induction digits generalizing value with
  | nil =>
      rfl
  | cons digit digits inductionHypothesis =>
      rw [Nat.ofDigitChars_cons] at within ⊢
      have notMore := (le_ofDigitChars _ digits).trans within
      rw [readDigits, if_pos (allDigits digit List.mem_cons_self)]
      simp only [if_neg (Nat.not_lt.2 notMore)]
      exact inductionHypothesis
        (fun other member => allDigits other (List.mem_cons_of_mem _ member)) within

theorem digits_of_readDigits {number : Nat}
    (accepted : readDigits limit pastLimit value digits = .ok number) : Digits digits := by
  induction digits generalizing value with
  | nil =>
      simp [Digits]
  | cons digit digits inductionHypothesis =>
      rw [readDigits] at accepted
      split at accepted
      next isDigit =>
        dsimp only at accepted
        split at accepted
        · cases accepted
        · intro other member
          rcases List.mem_cons.1 member with rfl | further
          · exact isDigit
          · exact inductionHypothesis accepted other further
      next =>
        cases accepted

end Digits

/-- What is accepted as an integer is a sign and digits. -/
theorem characters_of_readInt32 {text : String} {number : Int32}
    (accepted : readInt32 text = .ok number) :
    ∀ c ∈ text.toList, c.isDigit = true ∨ c = '-' ∨ c = '+' := by
  have signless : ∀ {limit : Nat} {pastLimit : IntegerFault} {digits : List Char}
      {convert : Nat → Int32},
      (readDigits limit pastLimit 0 digits).map convert = .ok number → Digits digits := by
    intro limit pastLimit digits convert accepted
    cases read : readDigits limit pastLimit 0 digits with
    | error fault =>
        rw [read] at accepted
        cases accepted
    | ok value =>
        exact digits_of_readDigits read
  unfold readInt32 at accepted
  split at accepted
  · cases accepted
  · cases accepted
  · cases accepted
  next rest _ same =>
    rw [same]
    intro c member
    rcases List.mem_cons.1 member with rfl | further
    · exact .inr (.inl rfl)
    · exact .inl (signless accepted c further)
  next rest _ same =>
    rw [same]
    intro c member
    rcases List.mem_cons.1 member with rfl | further
    · exact .inr (.inr rfl)
    · exact .inl (signless accepted c further)
  next =>
    intro c member
    exact .inl (signless accepted c member)

theorem isDigit_ne_sign {digit : Char} (isDigit : digit.isDigit = true) :
    digit ≠ '-' ∧ digit ≠ '+' :=
  ⟨isDigit_ne isDigit rfl, isDigit_ne isDigit rfl⟩

theorem readInt32_digits {digits : List Char} (allDigits : Digits digits) (nonempty : digits ≠ []) :
    readInt32 (String.ofList digits) =
      (readDigits (int32Limit - 1) .tooLarge 0 digits).map (Int32.ofNat ·) := by
  obtain ⟨digit, others, rfl⟩ := List.exists_cons_of_ne_nil nonempty
  obtain ⟨notMinus, notPlus⟩ := isDigit_ne_sign (allDigits digit List.mem_cons_self)
  unfold readInt32
  rw [String.toList_ofList]
  simp [notMinus, notPlus]

theorem readInt32_minus {digits : List Char} (nonempty : digits ≠ []) :
    readInt32 (String.ofList ('-' :: digits)) =
      (readDigits int32Limit .tooSmall 0 digits).map
        fun (value : Nat) => Int32.ofInt (-(value : Int)) := by
  obtain ⟨digit, others, rfl⟩ := List.exists_cons_of_ne_nil nonempty
  unfold readInt32
  rw [String.toList_ofList]
  rfl

/-- The digits of a natural number are read back. -/
theorem readDigits_toDigits {limit number : Nat} (within : number ≤ limit)
    (pastLimit : IntegerFault) :
    readDigits limit pastLimit 0 (Nat.toDigits 10 number) = .ok number := by
  have digits : Digits (Nat.toDigits 10 number) := fun digit member =>
    Nat.isDigit_of_mem_toDigits (by decide) (by decide) member
  have written : Nat.ofDigitChars 10 (Nat.toDigits 10 number) 0 = number :=
    Nat.ofDigitChars_ten_toDigits
  rw [readDigits_of_digits digits (by rw [written]; exact within), written]

theorem readInt32_toString (number : Int32) : readInt32 (toString number.toInt) = .ok number := by
  have lower := number.le_toInt
  have upper := number.toInt_lt
  have back := Int32.ofInt_toInt number
  generalize number.toInt = integer at lower upper back
  subst back
  cases integer with
  | ofNat magnitude =>
      have text : toString (Int.ofNat magnitude) = String.ofList (Nat.toDigits 10 magnitude) :=
        rfl
      have within : magnitude ≤ int32Limit - 1 := by
        rw [Int.ofNat_eq_natCast] at upper
        simp only [int32Limit]
        omega
      rw [text, readInt32_digits
        (fun digit member => Nat.isDigit_of_mem_toDigits (by decide) (by decide) member)
        Nat.toDigits_ne_nil, readDigits_toDigits within]
      exact congrArg Except.ok Int32.ofInt_eq_ofNat.symm
  | negSucc magnitude =>
      have text : toString (Int.negSucc magnitude) =
          String.ofList ('-' :: Nat.toDigits 10 (magnitude + 1)) := by
        change "-" ++ String.ofList (Nat.toDigits 10 (magnitude + 1)) = _
        rw [← String.toList_inj]
        simp
      have within : magnitude + 1 ≤ int32Limit := by
        simp only [int32Limit]
        omega
      rw [text, readInt32_minus Nat.toDigits_ne_nil, readDigits_toDigits within]
      rfl

theorem characters_of_significand {text whole fraction : List Char}
    (significand : Significand text whole fraction) :
    ∀ c ∈ text, c.isDigit = true ∨ c = '.' := by
  intro c member
  cases significand with
  | whole digits nonempty =>
      exact .inl (digits c member)
  | pointed digits nonempty digits' =>
      rw [List.mem_append, List.mem_cons] at member
      rcases member with inWhole | point | inFraction
      · exact .inl (digits c inWhole)
      · exact .inr point
      · exact .inl (digits' c inFraction)
  | fraction digits nonempty =>
      rcases List.mem_cons.1 member with point | inFraction
      · exact .inr point
      · exact .inl (digits c inFraction)

theorem ne_nil_of_significand {text whole fraction : List Char}
    (significand : Significand text whole fraction) : text ≠ [] := by
  cases significand with
  | whole digits nonempty =>
      exact nonempty
  | pointed digits nonempty digits' =>
      exact List.append_ne_nil_of_right_ne_nil _ (List.cons_ne_nil _ _)
  | fraction digits nonempty =>
      exact List.cons_ne_nil _ _

theorem slash_not_mem_of_digits {digits : List Char} (allDigits : Digits digits) :
    '/' ∉ digits := by
  intro slash
  exact absurd (allDigits '/' slash) (by decide)

theorem slash_not_mem_of_exponentPart {part : List Char} {exponent : Int}
    (written : ExponentPart part exponent) : '/' ∉ part := by
  cases written with
  | absent =>
      exact List.not_mem_nil
  | marked isMark signed digits nonempty =>
      have noMark : ∀ mark : Char, mark = 'e' ∨ mark = 'E' → '/' ≠ mark := by
        rintro mark (rfl | rfl)
        · decide
        · decide
      have noSign : ∀ {sign : List Char} {negative : Bool}, ExponentSign sign negative →
          '/' ∉ sign := by
        rintro sign negative (_ | _ | _)
        · decide
        · decide
        · decide
      rw [List.mem_cons, List.mem_append, not_or, not_or]
      exact ⟨noMark _ isMark, noSign signed, slash_not_mem_of_digits digits⟩

/-- No slash is accepted in a double. -/
theorem slash_not_mem_of_readMagnitude {negative : Bool} {text : List Char} {x : Float}
    (accepted : readMagnitude negative text = .ok x) : '/' ∉ text := by
  have named : ∀ {name : List Char}, '/' ∉ name → text.map Char.toLower = name → '/' ∉ text := by
    rintro _ noSlash rfl slash
    exact noSlash (List.mem_map.2 ⟨'/', slash, rfl⟩)
  unfold readMagnitude at accepted
  simp only [Bool.or_eq_true, beq_iff_eq] at accepted
  split at accepted
  next infinity =>
    rcases infinity with short | long
    · exact named (by decide : '/' ∉ "inf".toList) (by rw [← short, String.toList_ofList])
    · exact named (by decide : '/' ∉ "infinity".toList) (by rw [← long, String.toList_ofList])
  next =>
    split at accepted
    next nan =>
      exact named (by decide : '/' ∉ "nan".toList) (by rw [← nan, String.toList_ofList])
    next =>
      split at accepted
      next scanned =>
        obtain ⟨significand, whole, fraction, part, exponent, rfl, around, written, -⟩ :=
          numeral_of_scan scanned
        rw [List.append_nil, List.mem_append, not_or]
        refine ⟨fun slash => ?_, slash_not_mem_of_exponentPart written⟩
        exact absurd (characters_of_significand around '/' slash) (by decide)
      next =>
        cases accepted

theorem slash_not_mem_of_readFloat {text : String} {x : Float} (accepted : readFloat text = .ok x) :
    '/' ∉ text.toList := by
  unfold readFloat at accepted
  split at accepted
  next =>
    cases accepted
  next rest same =>
    rw [same, List.mem_cons, not_or]
    exact ⟨by decide, slash_not_mem_of_readMagnitude accepted⟩
  next rest same =>
    rw [same, List.mem_cons, not_or]
    exact ⟨by decide, slash_not_mem_of_readMagnitude accepted⟩
  next =>
    exact slash_not_mem_of_readMagnitude accepted

theorem not_isAlpha_of_isDigit {c : Char} (isDigit : c.isDigit = true) : c.isAlpha = false := by
  simp [Char.isDigit, Char.isAlpha, Char.isUpper, Char.isLower, UInt32.le_iff_toNat_le] at *
  omega

/-- A numeral is none of the names of what is no finite double. -/
theorem map_toLower_ne {text whole fraction : List Char}
    (significand : Significand text whole fraction) {name : String} {letter : Char}
    (inName : letter ∈ name.toList) (isAlpha : letter.isAlpha = true) :
    String.ofList (text.map Char.toLower) ≠ name := by
  rintro rfl
  rw [String.toList_ofList, List.mem_map] at inName
  obtain ⟨c, member, rfl⟩ := inName
  rw [Char.isAlpha_toLower_eq_isAlpha] at isAlpha
  rcases characters_of_significand significand c member with isDigit | rfl
  · rw [not_isAlpha_of_isDigit isDigit] at isAlpha
    cases isAlpha
  · cases isAlpha

theorem readMagnitude_significand (negative : Bool) {text whole fraction : List Char}
    (significand : Significand text whole fraction) :
    readMagnitude negative text =
      .ok ((Decimal.pointed (whole ++ fraction) fraction.length).toFloat negative) := by
  have scanned : Decimal.scan text =
      some (Decimal.pointed (whole ++ fraction) fraction.length, []) := by
    have numeral := Numeral.scan (.mk significand .absent)
    rw [List.append_nil, Int.zero_sub] at numeral
    exact numeral
  have notShort := map_toLower_ne significand (by decide : 'i' ∈ "inf".toList) rfl
  have notLong := map_toLower_ne significand (by decide : 'i' ∈ "infinity".toList) rfl
  have notNaN := map_toLower_ne significand (by decide : 'n' ∈ "nan".toList) rfl
  unfold readMagnitude
  simp only [Bool.or_eq_true, beq_iff_eq, notShort, notLong, notNaN, or_self, if_false, scanned]

/-- A text without a sign in front is read as a magnitude. -/
theorem readFloat_unsigned {text : List Char} (nonempty : text ≠ []) (notMinus : '-' ∉ text.head?)
    (notPlus : '+' ∉ text.head?) : readFloat (String.ofList text) = readMagnitude false text := by
  obtain ⟨first, others, rfl⟩ := List.exists_cons_of_ne_nil nonempty
  have minus : first ≠ '-' := by
    rintro rfl
    exact notMinus rfl
  have plus : first ≠ '+' := by
    rintro rfl
    exact notPlus rfl
  unfold readFloat
  rw [String.toList_ofList]
  simp [minus, plus]

section Texts

open Binary64

variable {x : Float}

theorem readFloat_numberText_of_finite (finite : isFinite x = true) :
    readFloat (numberText x) = .ok x := by
  obtain ⟨decimal, magnitude, text⟩ := NumberText.ofFloat_plain finite
  obtain ⟨whole, fraction, significand, same⟩ := NumberText.ofDecimal_plain decimal
  have back : ∀ negative, readMagnitude negative (NumberText.ofDecimal .plain decimal) =
      .ok (ofMagnitude negative (magnitudeOf x)) := by
    intro negative
    rw [readMagnitude_significand negative significand, Decimal.toFloat,
      Decimal.magnitude_congr same, magnitude]
  have characters := characters_of_significand significand
  have known := ofMagnitude_magnitudeOf (magnitudeOf_lt finite).le
  rw [numberText, text]
  cases negative : isNegative x with
  | true =>
      rw [negative] at known
      rw [NumberText.signed, if_pos rfl, readFloat, String.toList_ofList]
      exact (back true).trans (congrArg Except.ok known)
  | false =>
      rw [negative] at known
      have noSign : ∀ sign : Char, sign.isDigit = false → sign ≠ '.' →
          sign ∉ (NumberText.ofDecimal .plain decimal).head? := by
        intro sign noDigit noPoint first
        rcases characters sign (List.mem_of_mem_head? first) with isDigit | isPoint
        · rw [isDigit] at noDigit
          cases noDigit
        · exact noPoint isPoint
      rw [NumberText.signed, if_neg Bool.false_ne_true, readFloat_unsigned
        (ne_nil_of_significand significand) (noSign '-' rfl (by decide))
        (noSign '+' rfl (by decide))]
      exact (back false).trans (congrArg Except.ok known)

theorem readFloat_infinite (negative : Bool) :
    readFloat (String.ofList (NumberText.signed negative ['i', 'n', 'f'])) =
      .ok (infinity negative) := by
  have named : readMagnitude negative ['i', 'n', 'f'] = .ok (infinity negative) := by
    rw [readMagnitude]
    exact if_pos (by decide)
  unfold readFloat
  rw [String.toList_ofList]
  cases negative with
  | true =>
      exact named
  | false =>
      exact named

theorem numberText_of_isNaN {x : Float} (nan : x.isNaN = true) :
    numberText x = String.ofList ['N', 'a', 'N'] := by
  have decoded : decode x = .notANumber := by
    simp only [decode, (isNaN_iff x).1 nan, if_true]
  rw [numberText, NumberText.ofFloat, decoded]

theorem readFloat_notANumber :
    readFloat (String.ofList ['N', 'a', 'N']) = .ok notANumber := by
  unfold readFloat
  rw [String.toList_ofList]
  change readMagnitude false ['N', 'a', 'N'] = _
  rw [readMagnitude]
  exact (if_neg (by decide)).trans (if_pos (by decide))

/-- A double is read back from its text. All not-a-numbers have the same one. -/
theorem readFloat_numberText (x : Float) :
    readFloat (numberText x) = .ok (if x.isNaN then notANumber else x) := by
  rcases lt_trichotomy (magnitudeOf x) infinityBits with below | equal | above
  · have number : ¬ x.isNaN = true := by
      rw [isNaN_iff]
      exact below.not_gt
    rw [if_neg number]
    exact readFloat_numberText_of_finite (decide_eq_true below)
  · have number : ¬ x.isNaN = true := by
      rw [isNaN_iff]
      exact equal.not_gt
    have known := ofMagnitude_magnitudeOf equal.le
    have decoded : decode x = .infinite (isNegative x) := by
      simp only [decode, equal, Nat.lt_irrefl, if_false, if_true]
    rw [if_neg number, numberText, NumberText.ofFloat, decoded]
    rw [equal] at known
    exact (readFloat_infinite (isNegative x)).trans (congrArg Except.ok known)
  · have nan := (isNaN_iff x).2 above
    rw [if_pos nan, numberText_of_isNaN nan]
    exact readFloat_notANumber

end Texts

end RewardFormula
