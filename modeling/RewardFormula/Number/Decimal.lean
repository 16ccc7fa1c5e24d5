import RewardFormula.Number.Binary64

/-!
# Decimal numerals

A decimal is a natural number of units, each a power of ten. This module reads
unsigned numerals, takes a decimal to the double nearest to it, and finds for a
double the decimal with the fewest digits that is read back as that double.
-/

namespace RewardFormula

/-- The number `digits * 10 ^ exponent`. -/
structure Decimal where
  digits : Nat
  exponent : Int
  deriving DecidableEq, Repr

namespace Decimal

/-- The natural number that a list of decimal digits writes. -/
def ofDigitChars (digits : List Char) : Nat :=
  digits.foldl (fun value digit => 10 * value + (digit.toNat - '0'.toNat)) 0

/-- Reads an exponent mark with its sign and digits. A mark without digits is
an error; without a mark the exponent is zero. -/
def scanExponent : List Char → Option (Int × List Char)
  | mark :: rest =>
    if mark = 'e' ∨ mark = 'E' then
      let (negative, rest) :=
        match rest with
        | '-' :: rest => (true, rest)
        | '+' :: rest => (false, rest)
        | rest => (false, rest)
      let digits := rest.takeWhile Char.isDigit
      let exponent : Int := ofDigitChars digits
      if digits.isEmpty then none
      else some (if negative then -exponent else exponent, rest.dropWhile Char.isDigit)
    else some (0, mark :: rest)
  | [] => some (0, [])

/-- Reads the longest unsigned numeral at the front: digits with an optional
point among or around them, and an optional exponent. There is none if no digit
stands beside the point, or no digit follows the exponent mark. -/
def scan (source : List Char) : Option (Decimal × List Char) :=
  let whole := source.takeWhile Char.isDigit
  let afterWhole := source.dropWhile Char.isDigit
  let (fraction, rest) :=
    match afterWhole with
    | '.' :: afterPoint => (afterPoint.takeWhile Char.isDigit, afterPoint.dropWhile Char.isDigit)
    | _ => ([], afterWhole)
  if whole.isEmpty && fraction.isEmpty then none
  else
    (scanExponent rest).map fun (exponent, rest) =>
      (⟨ofDigitChars (whole ++ fraction), exponent - fraction.length⟩, rest)

/-- How many digits a natural number is written with. -/
def digitCount (value : Nat) : Nat :=
  (Nat.toDigits 10 value).length

/-- The magnitude of the double nearest to a decimal. Decimals far outside the
range of doubles are recognised by their number of digits, so that no power of
ten larger than the range needs is formed. -/
def magnitude (decimal : Decimal) : Nat :=
  let position := digitCount decimal.digits + decimal.exponent
  if decimal.digits = 0 ∨ position < -400 then 0
  else if 400 < position then Binary64.infinityBits
  else
    Binary64.nearestMagnitude
      (decimal.digits * powerNumerator 10 decimal.exponent)
      (powerDenominator 10 decimal.exponent)

/-- The double nearest to a decimal, with the given sign. -/
def toFloat (negative : Bool) (decimal : Decimal) : Float :=
  Binary64.ofMagnitude negative decimal.magnitude

/-- The decimal that equals `mantissa * 2 ^ exponent`. -/
def ofScaled (mantissa : Nat) (exponent : Int) : Decimal :=
  if 0 ≤ exponent then ⟨mantissa * powerNumerator 2 exponent, 0⟩
  else ⟨mantissa * powerDenominator 5 exponent, exponent⟩

/-- How many digits stand before the point of `numerator / denominator`; for
quotients below one, less the zeros right after the point. -/
def pointPosition (numerator denominator : Nat) : Int :=
  let estimate := (digitCount numerator : Int) - digitCount denominator
  if denominator * powerNumerator 10 estimate ≤ numerator * powerDenominator 10 estimate then
    estimate + 1
  else estimate

/-- The decimal nearest to `numerator / denominator`, of the two neighbours on
the grid of powers `10 ^ exponent`, among those that are read back as
`magnitude`. Of two equally near ones it is the larger. -/
def neighbour? (numerator denominator magnitude : Nat) (exponent : Int) : Option Decimal :=
  let scaledNumerator := numerator * powerDenominator 10 exponent
  let scaledDenominator := denominator * powerNumerator 10 exponent
  let lower : Decimal := ⟨scaledNumerator / scaledDenominator, exponent⟩
  let upper : Decimal := ⟨lower.digits + 1, exponent⟩
  let lowerFits := lower.magnitude == magnitude
  let upperFits := upper.magnitude == magnitude
  let lowerIsNearer := decide (2 * (scaledNumerator % scaledDenominator) < scaledDenominator)
  if lowerFits && (lowerIsNearer || !upperFits) then some lower
  else if upperFits then some upper
  else none

/-- The decimal with the fewest digits that is read back as the finite double
`mantissa * 2 ^ exponent`, whose bits are `magnitude`. Seventeen digits are
enough for every double; the exact decimal stands behind them. -/
def shortest (mantissa : Nat) (exponent : Int) (magnitude : Nat) : Decimal :=
  let numerator := mantissa * powerNumerator 2 exponent
  let denominator := powerDenominator 2 exponent
  let position := pointPosition numerator denominator
  let byDigits (count : Nat) := neighbour? numerator denominator magnitude (position - (count + 1))
  ((List.range 17).findSome? byDigits).getD (ofScaled mantissa exponent)

end Decimal

end RewardFormula
