import RewardFormula.Number.Decimal

/-!
# The text of a number

Doubles are written with the fewest digits that are read back as the same
double. Two styles share these digits: the plain one of formulas and answers,
and the one of structural dumps, which marks whole numbers and writes very large
and very small magnitudes with an exponent.
-/

namespace RewardFormula

/-- The decisions of a way to write doubles. -/
structure NumberStyle where
  /-- Whether a number with this many digits before its point is written
  without an exponent. -/
  isPositional : Int → Bool
  /-- What follows a whole number. -/
  wholeMark : List Char

namespace NumberStyle

/-- Formulas and answers never use an exponent and leave whole numbers bare. -/
def plain : NumberStyle where
  isPositional _ := true
  wholeMark := []

/-- Dumps write magnitudes from `1e-4` up to `1e16` positionally, whole numbers
with a zero after the point. -/
def dump : NumberStyle where
  isPositional position := decide (-4 < position ∧ position ≤ 16)
  wholeMark := ['.', '0']

end NumberStyle

namespace NumberText

/-- The digits of a decimal without the zeros at their end. -/
def significantDigits (decimal : Decimal) : List Char :=
  ((Nat.toDigits 10 decimal.digits).reverse.dropWhile (· == '0')).reverse

/-- How many digits of a decimal stand before its point. -/
def position (decimal : Decimal) : Int :=
  Decimal.digitCount decimal.digits + decimal.exponent

def zeros (count : Nat) : List Char :=
  List.replicate count '0'

/-- Digits with the point after the first `position` of them. -/
def positional (style : NumberStyle) (digits : List Char) (position : Int) : List Char :=
  if position ≤ 0 then '0' :: '.' :: (zeros (-position).toNat ++ digits)
  else if digits.length ≤ position then
    digits ++ zeros (position.toNat - digits.length) ++ style.wholeMark
  else digits.take position.toNat ++ '.' :: digits.drop position.toNat

/-- Digits with the point after the first of them and an exponent. -/
def scientific (digits : List Char) (position : Int) : List Char :=
  let mantissa :=
    match digits with
    | first :: second :: rest => first :: '.' :: second :: rest
    | digits => digits
  let exponent := position - 1
  mantissa ++ 'e' :: ((if exponent < 0 then ['-'] else []) ++ Nat.toDigits 10 exponent.natAbs)

/-- The text of an unsigned decimal. -/
def ofDecimal (style : NumberStyle) (decimal : Decimal) : List Char :=
  let digits := significantDigits decimal
  if digits.isEmpty then '0' :: style.wholeMark
  else if style.isPositional (position decimal) then positional style digits (position decimal)
  else scientific digits (position decimal)

def signed (negative : Bool) (text : List Char) : List Char :=
  if negative then '-' :: text else text

/-- The text of a double. A not-a-number has no sign. -/
def ofFloat (style : NumberStyle) (x : Float) : List Char :=
  match Binary64.decode x with
  | .notANumber => ['N', 'a', 'N']
  | .infinite negative => signed negative ['i', 'n', 'f']
  | .finite negative mantissa exponent =>
    let decimal := if mantissa = 0 then ⟨0, 0⟩
      else Decimal.shortest mantissa exponent (Binary64.magnitudeOf x)
    signed negative (ofDecimal style decimal)

end NumberText

/-- The plain text of a number, as formulas and answers show it. -/
def numberText (x : Float) : String :=
  String.ofList (NumberText.ofFloat .plain x)

/-- The text of a number in a dump. -/
def numberDump (x : Float) : String :=
  String.ofList (NumberText.ofFloat .dump x)

end RewardFormula
