import RewardFormula.Number.Binary64

/-!
# Remainders of doubles

The truncated remainder keeps the sign of the dividend and is exact. The
centred one lies within half of the divisor around zero.
-/

namespace RewardFormula

/-- The remainder of the division truncated toward zero. It is always a double,
so nothing is rounded. A zero remainder keeps the sign of the dividend. -/
def truncatedRemainder (dividend divisor : Float) : Float :=
  match Binary64.decode dividend, Binary64.decode divisor with
  | .notANumber, _ => Binary64.notANumber
  | _, .notANumber => Binary64.notANumber
  | .infinite _, _ => Binary64.notANumber
  | .finite _ _ _, .infinite _ => dividend
  | .finite negative mantissa exponent, .finite _ divisorMantissa divisorExponent =>
    if divisorMantissa = 0 then Binary64.notANumber
    else
      let grid := min exponent divisorExponent
      let steps := mantissa * powerNumerator 2 (exponent - grid)
      let divisorSteps := divisorMantissa * powerNumerator 2 (divisorExponent - grid)
      Binary64.ofScaled negative (steps % divisorSteps) grid

/-- The remainder of the division rounded to the nearest integer, a tie going to
the even one. It is formed from the truncated remainder, which is moved by one
divisor if it is past half of it. -/
def centredRemainder (dividend divisor : Float) : Float :=
  let remainder := truncatedRemainder dividend divisor
  if !remainder.isFinite || remainder == 0 then remainder
  else
    let half := divisor.abs / 2
    let quotientIsOdd := truncatedRemainder ((dividend - remainder) / divisor) 2 != 0
    if half < remainder.abs || (remainder.abs == half && quotientIsOdd) then
      remainder - Binary64.withSignOf divisor.abs remainder
    else remainder

end RewardFormula
