/-!
# Doubles as exact numbers

A finite double is a sign, a natural mantissa and a power of two. This module
reads a double that way, and rounds an exact quotient of naturals to the double
nearest to it. A power with an integer exponent is such a quotient too, one part of
which is one.
-/

namespace RewardFormula

/-- The numerator of `base ^ exponent`. -/
def powerNumerator (base : Nat) (exponent : Int) : Nat :=
  Nat.pow base exponent.toNat

/-- The denominator of `base ^ exponent`. -/
def powerDenominator (base : Nat) (exponent : Int) : Nat :=
  Nat.pow base (-exponent).toNat

/-- What a double stands for. A finite one is `mantissa * 2 ^ exponent` with
the stated sign, so that the two zeros differ in their sign only. -/
inductive Exact where
  | notANumber
  | infinite (negative : Bool)
  | finite (negative : Bool) (mantissa : Nat) (exponent : Int)
  deriving DecidableEq, Repr

namespace Binary64

/-- The bit of the sign. The bits below it are the magnitude. -/
def signUnit : Nat := 0x8000000000000000

/-- The lowest bit of the exponent field. The bits below it are the fraction. -/
def fieldUnit : Nat := 0x10000000000000

/-- The magnitude of the infinities. -/
def infinityBits : Nat := 0x7ff0000000000000

/-- Whether the sign bit is set. -/
def isNegative (x : Float) : Bool :=
  decide (signUnit ≤ x.toBits.toNat)

/-- The bits of `x` below the sign. -/
def magnitudeOf (x : Float) : Nat :=
  x.toBits.toNat % signUnit

/-- The exact value of a double. -/
def decode (x : Float) : Exact :=
  let magnitude := magnitudeOf x
  let field := magnitude / fieldUnit
  let fraction := magnitude % fieldUnit
  if infinityBits < magnitude then .notANumber
  else if magnitude = infinityBits then .infinite (isNegative x)
  else if field = 0 then .finite (isNegative x) fraction (-1074)
  else .finite (isNegative x) (fraction + fieldUnit) ((field : Int) - 1075)

/-- The double with a sign and a magnitude. -/
def ofMagnitude (negative : Bool) (magnitude : Nat) : Float :=
  Float.ofBits (.ofNat (if negative then signUnit + magnitude else magnitude))

def notANumber : Float := ofMagnitude false 0x7ff8000000000000

def infinity (negative : Bool) : Float := ofMagnitude negative infinityBits

def zero (negative : Bool) : Float := ofMagnitude negative 0

/-- The natural number nearest to `numerator / denominator`; of two equally
near ones the even one. -/
def divideToEven (numerator denominator : Nat) : Nat :=
  let quotient := numerator / denominator
  let twice := 2 * (numerator % denominator)
  if twice < denominator then quotient
  else if denominator < twice then quotient + 1
  else quotient + quotient % 2

/-- Whether `2 ^ power ≤ numerator / denominator`. -/
def reachesPower (numerator denominator : Nat) (power : Int) : Bool :=
  decide (denominator * powerNumerator 2 power ≤ numerator * powerDenominator 2 power)

/-- The exponent of the grid of doubles on which `numerator / denominator` is
rounded: the quotient lies between `2 ^ 52` and `2 ^ 53` steps of it, or below
that on the finest grid. -/
def gridExponent (numerator denominator : Nat) : Int :=
  let power := (numerator.log2 : Int) - denominator.log2
  max (-1074)
    (if reachesPower numerator denominator power then power - 52 else power - 53)

/-- The magnitude of the double nearest to `numerator / denominator`, ties going
to the even mantissa and quotients past the largest double to the infinity.

The mantissa is added to the field of the exponent without taking its leading
bit away: the field counts from the finest grid, so a mantissa below `2 ^ 52` is
a subnormal one, and a mantissa rounded up to `2 ^ 53` moves to the next field. -/
def nearestMagnitude (numerator denominator : Nat) : Nat :=
  if numerator = 0 then 0
  else
    let exponent := gridExponent numerator denominator
    let mantissa :=
      divideToEven (numerator * powerDenominator 2 exponent)
        (denominator * powerNumerator 2 exponent)
    min infinityBits ((exponent + 1074).toNat * fieldUnit + mantissa)

/-- The double nearest to `numerator / denominator` with the given sign. -/
def nearest (negative : Bool) (numerator denominator : Nat) : Float :=
  ofMagnitude negative (nearestMagnitude numerator denominator)

/-- The double nearest to `mantissa * 2 ^ exponent` with the given sign. -/
def ofScaled (negative : Bool) (mantissa : Nat) (exponent : Int) : Float :=
  nearest negative (mantissa * powerNumerator 2 exponent) (powerDenominator 2 exponent)

/-- The magnitude of `x` with the sign of `sign`. -/
def withSignOf (x sign : Float) : Float :=
  ofMagnitude (isNegative sign) (magnitudeOf x)

end Binary64

end RewardFormula
