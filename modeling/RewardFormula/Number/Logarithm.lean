import RewardFormula.Number.Binary64

/-!
# Logarithms near one

The natural logarithm of one more than a number, which keeps its precision where
the number is small and would be lost in the sum. The sum is written as
`2 ^ exponent * (1 + fraction)`, with `1 + fraction` between the square roots of
a half and of two, and the logarithm of `1 + fraction` is taken as a polynomial
in `fraction / (2 + fraction)`.
-/

namespace RewardFormula

/-- One more than a number, as `2 ^ exponent * (1 + fraction)`. What adding one
has rounded away is kept as a part of the sum. -/
structure OnePlus where
  exponent : Int
  fraction : Float
  lostPart : Float

namespace OnePlus

/-- A little less than the square root of two. -/
def splitPoint : Float := 1.41421318

/-- A number whose sum with one is close enough to one to be taken as it is. -/
def isNear (x : Float) : Bool :=
  -0.29289341 < x && x < 0.41421366

/-- The power of two and the fraction of a positive sum. -/
def ofSum (sum lostPart : Float) : OnePlus :=
  let magnitude := Binary64.magnitudeOf sum
  let exponent : Int := ((magnitude / Binary64.fieldUnit : Nat) : Int) - 1023
  let significand :=
    Binary64.ofMagnitude false (1023 * Binary64.fieldUnit + magnitude % Binary64.fieldUnit)
  if significand < splitPoint then ⟨exponent, significand - 1, lostPart⟩
  else ⟨exponent + 1, significand / 2 - 1, lostPart⟩

def ofNumber (x : Float) : OnePlus :=
  if isNear x then ⟨0, x, 0⟩
  else
    let sum := 1 + x
    let lost := if 2 ≤ sum then 1 - (sum - x) else x - (sum - 1)
    ofSum sum (lost / sum)

/-- The logarithm of two in two parts. The larger one is so short that its
multiples by the exponents of doubles are exact. -/
def logTwoHigh : Float := 6.93147180369123816490e-01

def logTwoLow : Float := 1.90821492927058770002e-10

/-- The coefficients of `log (1 + f) / s - 2` in the powers of `s ^ 2`, where `s`
is `f / (2 + f)`. They are close to `2 / 3`, `2 / 5`, `2 / 7` and so on, fitted to
the range of the fractions. -/
def coefficients : List Float :=
  [6.666666666666735130e-01, 3.999999999940941908e-01, 2.857142874366239149e-01,
    2.222219843214978396e-01, 1.818357216161805012e-01, 1.531383769920937332e-01,
    1.479819860511658591e-01]

def log (sum : OnePlus) : Float :=
  let exponent := Float.ofInt sum.exponent
  let fraction := sum.fraction
  let halfSquare := 0.5 * fraction * fraction
  let ratio := fraction / (2 + fraction)
  let square := ratio * ratio
  let series := coefficients.foldr (fun coefficient rest => square * (coefficient + rest)) 0
  let low := exponent * logTwoLow + sum.lostPart
  exponent * logTwoHigh - ((halfSquare - (ratio * (halfSquare + series) + low)) - fraction)

/-- Below this magnitude the third power of a number does not count. -/
def smallMagnitude : Float := Binary64.ofScaled false 1 (-29)

end OnePlus

/-- The natural logarithm of `1 + x`. -/
def logOnePlus (x : Float) : Float :=
  if x.isNaN || x < -1 then Binary64.notANumber
  else if x == -1 then Binary64.infinity true
  else if x.isInf then x
  else if x.abs < OnePlus.smallMagnitude then x - 0.5 * x * x
  else (OnePlus.ofNumber x).log

end RewardFormula
