import RewardFormula.Number.Logarithm
import RewardFormula.Number.Remainder
import RewardFormula.Number.Rounding

/-!
# Built-in functions

The mathematical functions that formulas may call, found by their name and the
number of their arguments.
-/

namespace RewardFormula

namespace Function

/-- The square root of `value` rounded down, its bits below `2 ^ bits` being
found from the highest on. -/
def squareRootFrom (value : Nat) : Nat → Nat → Nat
  | 0, root => root
  | bit + 1, root =>
    let next := root + Nat.pow 2 bit
    squareRootFrom value bit (if next * next ≤ value then next else root)

def squareRoot (value : Nat) : Nat :=
  squareRootFrom value (value.log2 / 2 + 1) 0

/-- The length of the hypotenuse over two sides, correctly rounded. The square
root is taken with sixty-four bits to spare, and a last half step marks that it
is not exact. An infinite side wins over one that is not a number. -/
def hypotenuse (x y : Float) : Float :=
  match Binary64.decode x, Binary64.decode y with
  | .infinite _, _ => Binary64.infinity false
  | _, .infinite _ => Binary64.infinity false
  | .finite _ xMantissa xExponent, .finite _ yMantissa yExponent =>
    let grid := min xExponent yExponent
    let xSteps := xMantissa * powerNumerator 2 (xExponent - grid)
    let ySteps := yMantissa * powerNumerator 2 (yExponent - grid)
    let square := (xSteps * xSteps + ySteps * ySteps) * Nat.pow 2 128
    let root := squareRoot square
    Binary64.ofScaled false (2 * root + if root * root = square then 0 else 1) (grid - 65)
  | _, _ => Binary64.notANumber

/-- The number whose hyperbolic tangent is `x`. It is taken from one logarithm
for both signs, so it loses precision near minus one and is no odd function. -/
def inverseTanh (x : Float) : Float :=
  0.5 * logOnePlus (2 * x / (1 - x))

/-- The larger number; an argument that is not a number gives way to the other. -/
def maximum (x y : Float) : Float :=
  if x.isNaN then y
  else if y.isNaN then x
  else if x < y then y else x

/-- The smaller number; an argument that is not a number gives way to the other. -/
def minimum (x y : Float) : Float :=
  if x.isNaN then y
  else if y.isNaN then x
  else if y < x then y else x

/-- Functions of one argument. -/
def unary : List (String × (Float → Float)) :=
  [("abs", Float.abs), ("acos", Float.acos), ("acosh", Float.acosh), ("asin", Float.asin),
    ("asinh", Float.asinh), ("atan", Float.atan), ("atanh", inverseTanh),
    ("ceil", Rounding.up.apply), ("cos", Float.cos), ("cosh", Float.cosh), ("exp", Float.exp),
    ("floor", Rounding.down.apply), ("log", Float.log), ("log10", Float.log10),
    ("log2", Float.log2), ("round", Rounding.halfAwayFromZero.apply), ("sin", Float.sin),
    ("sinh", Float.sinh), ("sqrt", Float.sqrt), ("tan", Float.tan), ("tanh", Float.tanh),
    ("trunc", Rounding.towardZero.apply)]

/-- Functions of two arguments. -/
def binary : List (String × (Float → Float → Float)) :=
  [("atan2", Float.atan2), ("hypot", hypotenuse), ("max", maximum), ("min", minimum),
    ("mod", truncatedRemainder), ("remainder", centredRemainder)]

def unaryNames : List String := unary.map (·.1)

def binaryNames : List String := binary.map (·.1)

/-- Calls a function. There is no value if no function has this name and this
number of arguments. -/
def call? (name : String) : List Float → Option Float
  | [x] => (unary.lookup name).map (· x)
  | [x, y] => (binary.lookup name).map (· x y)
  | _ => none

end Function

end RewardFormula
