import RewardFormula.Number.Binary64

/-!
# Rounding to integers

The four ways of taking a double to an integral double, and the conversion to
a thirty-two bit integer that falls back to a default instead of wrapping.
-/

namespace RewardFormula

/-- How a number that lies between two integers is moved to one of them. -/
inductive Rounding where
  | down
  | up
  | towardZero
  | halfAwayFromZero
  deriving DecidableEq, Repr

namespace Rounding

/-- The integral magnitude for `mantissa / 2 ^ places` under a sign. -/
def magnitude (rule : Rounding) (negative : Bool) (mantissa places : Nat) : Nat :=
  let whole := mantissa / Nat.pow 2 places
  let rest := mantissa % Nat.pow 2 places
  let movesOut :=
    match rule with
    | .down => negative && decide (rest ≠ 0)
    | .up => !negative && decide (rest ≠ 0)
    | .towardZero => false
    | .halfAwayFromZero => decide (Nat.pow 2 places ≤ 2 * rest)
  if movesOut then whole + 1 else whole

/-- The integral double chosen by a rule; it keeps the sign of its argument,
also when it is a zero. Doubles on a grid of whole numbers are left alone. -/
def apply (rule : Rounding) (x : Float) : Float :=
  match Binary64.decode x with
  | .finite negative mantissa exponent =>
    if 0 ≤ exponent then x
    else Binary64.ofScaled negative (rule.magnitude negative mantissa (-exponent).toNat) 0
  | _ => x

end Rounding

/-- The double of an integer of thirty-two bits. It needs no rounding. -/
def Binary64.ofInt32 (number : Int32) : Float :=
  Binary64.ofScaled (decide (number.toInt < 0)) number.toInt.natAbs 0

/-- The integral part of a double. One that does not fit into thirty-two bits gives the largest
or the least integer, and what is no number gives zero. -/
def Binary64.truncateToInt32 (x : Float) : Int32 :=
  match Binary64.decode x with
  | .notANumber => 0
  | .infinite negative => if negative then Int32.minValue else Int32.maxValue
  | .finite negative mantissa exponent =>
    let magnitude : Int :=
      (mantissa * powerNumerator 2 exponent / powerDenominator 2 exponent : Nat)
    Int32.ofIntClamp (if negative then -magnitude else magnitude)

/-- Rounds a number to the nearest integer. A number that is not finite or whose
nearest integer does not fit into thirty-two bits gives the default. -/
def roundToInt (x : Float) (default : Int32) : Int32 :=
  let rounded := Rounding.halfAwayFromZero.apply x
  if rounded.isFinite && Binary64.ofInt32 Int32.minValue ≤ rounded &&
      rounded ≤ Binary64.ofInt32 Int32.maxValue then
    Binary64.truncateToInt32 rounded
  else default

end RewardFormula
