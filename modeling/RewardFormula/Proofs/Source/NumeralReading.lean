import RewardFormula.Proofs.Source.TokenReading

/-!
# Numerals are read to their end

Scanning a source finds the longest numeral at its front, and fails only where
a numeral would run into a letter.
-/

namespace RewardFormula

namespace Grammar

def isExponentMark (c : Char) : Bool :=
  c == 'e' || c == 'E'

theorem isDigit_ne {c other : Char} (digit : c.isDigit = true) (notDigit : other.isDigit = false) :
    c ≠ other := by
  rintro rfl
  rw [digit] at notDigit
  cases notDigit

/-- The characters at which an exponent, or its absence, ends. -/
def ExponentEnds (part rest : List Char) : Prop :=
  EndsBefore Char.isDigit rest ∧ (part = [] → EndsBefore isExponentMark rest)

theorem scanExponent_of_exponentPart {part rest : List Char} {exponent : Int}
    (written : ExponentPart part exponent) (ends : ExponentEnds part rest) :
    Decimal.scanExponent (part ++ rest) = some (exponent, rest) := by
  cases written with
  | absent =>
      cases rest with
      | nil =>
          rfl
      | cons c rest =>
          have noMark := ends.2 rfl c rfl
          simp only [isExponentMark, Bool.or_eq_false_iff, beq_eq_false_iff_ne] at noMark
          simp [Decimal.scanExponent, noMark]
  | @marked mark sign digits negative isMark signed allDigits nonempty =>
      have run := takeWhile_run allDigits ends.1
      have after := dropWhile_run allDigits ends.1
      obtain ⟨digit, others, rfl⟩ := List.exists_cons_of_ne_nil nonempty
      have isDigit := allDigits digit List.mem_cons_self
      have notMinus : digit ≠ '-' := isDigit_ne isDigit rfl
      have notPlus : digit ≠ '+' := isDigit_ne isDigit rfl
      cases signed <;> simp_all [Decimal.scanExponent]

/-- The exponent that a mark, a sign and the digits after them write. -/
theorem exponentPart_of_run {mark : Char} {sign digitsOn : List Char} {negative : Bool}
    (isMark : mark = 'e' ∨ mark = 'E') (signed : ExponentSign sign negative)
    (nonempty : digitsOn.takeWhile Char.isDigit ≠ []) :
    ∃ part, mark :: (sign ++ digitsOn) = part ++ digitsOn.dropWhile Char.isDigit ∧
      ExponentPart part
        (if negative then -(Decimal.ofDigitChars (digitsOn.takeWhile Char.isDigit) : Int)
          else Decimal.ofDigitChars (digitsOn.takeWhile Char.isDigit)) ∧
      ExponentEnds part (digitsOn.dropWhile Char.isDigit) := by
  obtain ⟨split, inside, ends⟩ := run_spec Char.isDigit digitsOn
  refine ⟨mark :: (sign ++ digitsOn.takeWhile Char.isDigit), ?_,
    .marked isMark signed inside nonempty, ends, by simp⟩
  rw [List.cons_append, List.append_assoc, ← split]

theorem exponentPart_of_scanExponent {source rest : List Char} {exponent : Int}
    (scanned : Decimal.scanExponent source = some (exponent, rest))
    (noDigit : EndsBefore Char.isDigit source) :
    ∃ part, source = part ++ rest ∧ ExponentPart part exponent ∧ ExponentEnds part rest := by
  cases source with
  | nil =>
      cases scanned
      exact ⟨[], rfl, .absent, noDigit, by simp [EndsBefore]⟩
  | cons mark tail =>
      by_cases isMark : mark = 'e' ∨ mark = 'E'
      · simp only [Decimal.scanExponent, isMark, if_true] at scanned
        split at scanned
        all_goals
          simp only [Option.ite_none_left_eq_some, List.isEmpty_iff, Option.some.injEq,
            Prod.mk.injEq] at scanned
          obtain ⟨nonempty, rfl, rfl⟩ := scanned
        · exact exponentPart_of_run isMark .minus nonempty
        · exact exponentPart_of_run isMark .plus nonempty
        · exact exponentPart_of_run isMark .absent nonempty
      · simp only [Decimal.scanExponent, isMark, if_false, Option.some.injEq, Prod.mk.injEq]
          at scanned
        obtain ⟨rfl, rfl⟩ := scanned
        refine ⟨[], rfl, .absent, noDigit, ?_⟩
        rintro - next ⟨⟩
        simpa [isExponentMark] using isMark

/-- The characters at which a numeral ends: no digit follows it, no exponent if
it has none, and no point if it has neither point nor exponent. -/
def NumeralEnds (significand whole part rest : List Char) : Prop :=
  ExponentEnds part rest ∧ (significand = whole → part = [] → EndsBefore (· == '.') rest)

theorem endsBefore_part_append {isPart : Char → Bool} {part rest : List Char} {exponent : Int}
    (written : ExponentPart part exponent)
    (noMark : ∀ c, isExponentMark c = true → isPart c = false)
    (ends : part = [] → EndsBefore isPart rest) : EndsBefore isPart (part ++ rest) := by
  cases written with
  | absent =>
      exact ends rfl
  | @marked mark sign digits negative isMark signed allDigits nonempty =>
      rintro next ⟨⟩
      exact noMark mark (by simpa [isExponentMark] using isMark)

theorem scan_of_numeral {significand whole fraction part rest : List Char} {exponent : Int}
    (around : Significand significand whole fraction) (written : ExponentPart part exponent)
    (ends : NumeralEnds significand whole part rest) :
    Decimal.scan (significand ++ (part ++ rest)) =
      some (⟨Decimal.ofDigitChars (whole ++ fraction), exponent - fraction.length⟩, rest) := by
  have exponentRead := scanExponent_of_exponentPart written ends.1
  have noDigit : EndsBefore Char.isDigit (part ++ rest) := by
    refine endsBefore_part_append written (fun c mark => ?_) fun _ => ends.1.1
    rcases by simpa [isExponentMark] using mark with rfl | rfl <;> rfl
  cases around with
  | whole digits nonempty =>
      have noPoint : EndsBefore (· == '.') (part ++ rest) := by
        refine endsBefore_part_append written (fun c mark => ?_) (ends.2 rfl)
        rcases by simpa [isExponentMark] using mark with rfl | rfl <;> rfl
      have notEmpty : significand.isEmpty = false := by simpa using nonempty
      simp only [Decimal.scan, takeWhile_run digits noDigit, dropWhile_run digits noDigit]
      split
      next afterPoint isPoint =>
        rw [isPoint] at noPoint
        simpa using noPoint '.' rfl
      next =>
        simp [notEmpty, exponentRead]
  | @pointed whole fraction digits nonempty fractionDigits =>
      have noDigitPoint : EndsBefore Char.isDigit ('.' :: (fraction ++ (part ++ rest))) := by
        rintro next ⟨⟩
        rfl
      have afterWhole : whole.isEmpty = false := by simpa using nonempty
      rw [List.append_assoc, List.cons_append]
      simp [Decimal.scan, takeWhile_run digits noDigitPoint, dropWhile_run digits noDigitPoint,
        takeWhile_run fractionDigits noDigit, dropWhile_run fractionDigits noDigit, afterWhole,
        exponentRead]
  | @fraction fraction digits nonempty =>
      have afterPoint : fraction.isEmpty = false := by simpa using nonempty
      simp [Decimal.scan, takeWhile_run digits noDigit, dropWhile_run digits noDigit, afterPoint,
        exponentRead]

theorem numeral_of_scan {source rest : List Char} {decimal : Decimal}
    (scanned : Decimal.scan source = some (decimal, rest)) :
    ∃ significand whole fraction part exponent,
      source = significand ++ (part ++ rest) ∧ Significand significand whole fraction ∧
        ExponentPart part exponent ∧ NumeralEnds significand whole part rest ∧
        decimal = ⟨Decimal.ofDigitChars (whole ++ fraction), exponent - fraction.length⟩ := by
  obtain ⟨splitting, digits, ends⟩ := run_spec Char.isDigit source
  simp only [Decimal.scan] at scanned
  generalize source.takeWhile Char.isDigit = whole at *
  generalize source.dropWhile Char.isDigit = afterWhole at *
  split at scanned
  next afterPoint =>
    simp only [Option.ite_none_left_eq_some, Option.map_eq_some_iff] at scanned
    obtain ⟨someDigit, ⟨exponent, left⟩, exponentScanned, same⟩ := scanned
    obtain ⟨rfl, rfl⟩ := Prod.mk.inj same
    obtain ⟨splittingPoint, fractionDigits, fractionEnds⟩ := run_spec Char.isDigit afterPoint
    generalize afterPoint.takeWhile Char.isDigit = fraction at *
    generalize afterPoint.dropWhile Char.isDigit = afterFraction at *
    obtain ⟨part, rfl, written, partEnds⟩ :=
      exponentPart_of_scanExponent exponentScanned fractionEnds
    rw [splitting, splittingPoint]
    by_cases noWhole : whole = []
    · subst noWhole
      have nonempty : fraction ≠ [] := by simpa using someDigit
      exact ⟨'.' :: fraction, [], fraction, part, exponent, rfl, .fraction fractionDigits nonempty,
        written, ⟨partEnds, by simp⟩, rfl⟩
    · exact ⟨whole ++ '.' :: fraction, whole, fraction, part, exponent, by simp,
        .pointed digits noWhole fractionDigits, written, ⟨partEnds, by simp⟩, rfl⟩
  next noPoint =>
    simp only [Option.ite_none_left_eq_some, Option.map_eq_some_iff] at scanned
    obtain ⟨someDigit, ⟨exponent, left⟩, exponentScanned, same⟩ := scanned
    obtain ⟨rfl, rfl⟩ := Prod.mk.inj same
    obtain ⟨part, rfl, written, partEnds⟩ := exponentPart_of_scanExponent exponentScanned ends
    have nonempty : whole ≠ [] := by simpa using someDigit
    refine ⟨whole, whole, [], part, exponent, splitting, .whole digits nonempty, written,
      ⟨partEnds, ?_⟩, rfl⟩
    rintro - rfl next member
    obtain ⟨tail, rfl⟩ : ∃ tail, left = next :: tail := List.head?_eq_some_iff.1 member
    simpa using fun isPoint : next = '.' => noPoint tail (by rw [isPoint]; rfl)

theorem scan_suffix {source rest : List Char} {decimal : Decimal}
    (scanned : Decimal.scan source = some (decimal, rest)) : rest <:+ source := by
  obtain ⟨significand, -, -, part, -, rfl, -⟩ := numeral_of_scan scanned
  exact (List.suffix_append part rest).trans (List.suffix_append significand _)

/-- A numeral may go on after a digit, a point or a mark only. -/
theorem numeral_append_digit {significand whole fraction part : List Char} {exponent : Int}
    (around : Significand significand whole fraction) (written : ExponentPart part exponent)
    {digit : Char} (isDigit : digit.isDigit = true) :
    ∃ decimal, Numeral (significand ++ part ++ [digit]) decimal := by
  have snoc : ∀ {digits : List Char}, Digits digits → Digits (digits ++ [digit]) := by
    intro digits all c member
    rcases List.mem_append.1 member with inside | last
    · exact all c inside
    · rw [List.mem_singleton.1 last]
      exact isDigit
  cases written with
  | absent =>
      rw [List.append_nil]
      cases around with
      | whole digits nonempty =>
          have longer := Numeral.mk (.whole (snoc digits) (by simp)) .absent
          exact ⟨_, by simpa using longer⟩
      | pointed digits nonempty fractionDigits =>
          have longer := Numeral.mk (.pointed digits nonempty (snoc fractionDigits)) .absent
          exact ⟨_, by simpa using longer⟩
      | fraction digits nonempty =>
          have longer := Numeral.mk (.fraction (snoc digits) (by simp)) .absent
          exact ⟨_, by simpa using longer⟩
  | marked isMark signed digits nonempty =>
      have longer := Numeral.mk around (.marked isMark signed (snoc digits) (by simp))
      exact ⟨_, by simpa using longer⟩

/-- A longest numeral in front of a name character that is no letter has ended. -/
theorem numeralEnds_of_longest {significand whole fraction part rest : List Char} {exponent : Int}
    (around : Significand significand whole fraction) (written : ExponentPart part exponent)
    (longest : ∀ longer decimal, Numeral longer decimal →
      longer <+: significand ++ part ++ rest → longer.length ≤ (significand ++ part).length)
    (ends : EndsBefore Name.isStart rest) : NumeralEnds significand whole part rest := by
  have stuck : ∀ {c : Char} {tail : List Char}, rest = c :: tail →
      ¬ ∃ decimal, Numeral (significand ++ part ++ [c]) decimal := by
    rintro c tail rfl ⟨decimal, numeral⟩
    have bound := longest _ decimal numeral ⟨tail, by simp⟩
    simp only [List.length_append, List.length_singleton] at bound
    omega
  refine ⟨⟨fun next member => ?_, fun _ next member => ?_⟩, fun same noPart next member => ?_⟩
  all_goals obtain ⟨tail, atFront⟩ := List.head?_eq_some_iff.1 member
  · by_contra isDigit
    exact stuck atFront (numeral_append_digit around written (by simpa using isDigit))
  · by_contra isMark
    have notStart := ends next member
    rw [Bool.not_eq_false, isExponentMark, Bool.or_eq_true, beq_iff_eq, beq_iff_eq] at isMark
    rcases isMark with rfl | rfl <;> cases notStart
  · by_contra isPoint
    obtain rfl : next = '.' := by simpa using isPoint
    subst noPart
    cases around with
    | whole digits nonempty =>
        have noDigits : Digits [] := by simp [Digits]
        have longer := Numeral.mk (.pointed digits nonempty noDigits) .absent
        exact stuck atFront ⟨_, by simpa using longer⟩
    | pointed =>
        simp at same
    | fraction =>
        cases same

theorem endsBefore_nil {isPart : Char → Bool} : EndsBefore isPart [] := by
  simp [EndsBefore]

theorem EndsBefore.mono {isPart : Char → Bool} {rest front : List Char}
    (ends : EndsBefore isPart rest) (isFront : front <+: rest) : EndsBefore isPart front := by
  obtain ⟨tail, rfl⟩ := isFront
  cases front with
  | nil =>
      simp [EndsBefore]
  | cons c front =>
      exact ends

theorem NumeralEnds.mono {significand whole part rest front : List Char}
    (ends : NumeralEnds significand whole part rest) (isFront : front <+: rest) :
    NumeralEnds significand whole part front :=
  ⟨⟨ends.1.1.mono isFront, fun noPart => (ends.1.2 noPart).mono isFront⟩,
    fun same noPart => (ends.2 same noPart).mono isFront⟩

theorem Numeral.scan {numeral : List Char} {decimal : Decimal} (written : Numeral numeral decimal) :
    Decimal.scan numeral = some (decimal, []) := by
  obtain ⟨around, written⟩ := written
  have scanned := scan_of_numeral around written
    ⟨⟨endsBefore_nil, fun _ => endsBefore_nil⟩, fun _ _ => endsBefore_nil⟩
  simpa using scanned

theorem literal_iff_scan {source rest : List Char} {value : Float} :
    Literal source value rest ↔
      ∃ decimal, Decimal.scan source = some (decimal, rest) ∧ EndsBefore Name.isStart rest ∧
        value = decimal.toFloat false := by
  constructor
  · rintro ⟨numeral, decimal, rfl, numeralWritten, longest, ends, rfl⟩
    obtain ⟨around, written⟩ := numeralWritten
    have scanned :=
      scan_of_numeral around written (numeralEnds_of_longest around written longest ends)
    exact ⟨_, by rw [List.append_assoc, scanned], ends, rfl⟩
  · rintro ⟨decimal, scanned, ends, rfl⟩
    obtain ⟨significand, whole, fraction, part, exponent, rfl, around, written, numeralEnds, rfl⟩ :=
      numeral_of_scan scanned
    refine ⟨significand ++ part, _, by rw [List.append_assoc], .mk around written, ?_, ends, rfl⟩
    rintro longer decimal' numeral front
    by_contra notLonger
    -- A longer numeral would be scanned to its own end, and also up to the rest only.
    obtain ⟨extra, rfl⟩ : significand ++ part <+: longer :=
      List.prefix_of_prefix_length_le ⟨rest, by simp⟩ front (by omega)
    have extraFront : extra <+: rest := by
      simpa [← List.append_assoc, List.prefix_append_right_inj] using front
    have scannedShort := scan_of_numeral around written (numeralEnds.mono extraFront)
    have scannedLong := numeral.scan
    rw [List.append_assoc, scannedShort] at scannedLong
    obtain ⟨-, rfl⟩ := Prod.mk.inj (Option.some.inj scannedLong)
    simp at notLonger

end Grammar

namespace Reader

open Grammar

theorem number_eq_read {source rest : List Char} {value : Float} :
    number source = .read value rest ↔ Literal source value rest := by
  rw [literal_iff_scan]
  cases source with
  | nil =>
      simp [number, Decimal.scan]
  | cons first tail =>
      by_cases starts : (first.isDigit || first == '.') = true
      · simp only [number, starts, if_true]
        split
        next =>
          simp [*]
        next decimal scanned =>
          simp only [scanned, Reply.read.injEq, Option.some.injEq, Prod.mk.injEq]
          constructor
          · rintro ⟨rfl, rfl⟩
            exact ⟨decimal, ⟨rfl, rfl⟩, endsBefore_nil, rfl⟩
          · rintro ⟨_, ⟨rfl, rfl⟩, -, rfl⟩
            exact ⟨rfl, rfl⟩
        next decimal next rest' scanned =>
          by_cases glued : Name.isStart next = true
          · simp only [glued, if_true, reduceCtorEq, scanned, Option.some.injEq, Prod.mk.injEq,
              false_iff]
            rintro ⟨_, ⟨rfl, rfl⟩, ends, -⟩
            rw [ends next rfl] at glued
            cases glued
          · have free : Name.isStart next = false := Bool.eq_false_iff.2 glued
            simp only [free, Bool.false_eq_true, if_false, scanned, Reply.read.injEq,
              Option.some.injEq, Prod.mk.injEq]
            constructor
            · rintro ⟨rfl, rfl⟩
              refine ⟨decimal, ⟨rfl, rfl⟩, ?_, rfl⟩
              rintro _ ⟨⟩
              exact free
            · rintro ⟨_, ⟨rfl, rfl⟩, -, rfl⟩
              exact ⟨rfl, rfl⟩
      · have notDigit : first.isDigit = false := by simp_all
        have notPoint : first ≠ '.' := by simp_all
        simp [number, Decimal.scan, notDigit, notPoint]

theorem number_refuses {source : List Char}
    (other : ∀ c ∈ source.head?, c.isDigit = false ∧ c ≠ '.') : number.Refuses source := by
  cases source with
  | nil =>
      exact ⟨_, rfl⟩
  | cons c tail =>
      obtain ⟨notDigit, notPoint⟩ := other c rfl
      simp [number, Refuses, notDigit, notPoint, refuse]

end Reader

end RewardFormula
