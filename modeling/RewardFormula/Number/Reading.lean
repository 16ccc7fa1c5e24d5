import RewardFormula.Number.Decimal

/-!
# Numbers in texts

Signed numbers that are the whole of a text: doubles, and integers of thirty-two
bits.
-/

namespace RewardFormula

inductive FloatFault where
  | empty
  | invalid
  deriving DecidableEq, Repr

namespace FloatFault

def message : FloatFault → String
  | empty => "cannot parse float from empty string"
  | invalid => "invalid float literal"

end FloatFault

/-- An unsigned double: a numeral, an infinity or a not-a-number, the names of
which may be written in small or capital letters. -/
def readMagnitude (negative : Bool) (text : List Char) : Except FloatFault Float :=
  let name := String.ofList (text.map Char.toLower)
  if name == "inf" || name == "infinity" then .ok (Binary64.infinity negative)
  else if name == "nan" then .ok Binary64.notANumber
  else
    match Decimal.scan text with
    | some (decimal, []) => .ok (decimal.toFloat negative)
    | _ => .error .invalid

/-- Reads a double with an optional sign. -/
def readFloat (text : String) : Except FloatFault Float :=
  match text.toList with
  | [] => .error .empty
  | '-' :: rest => readMagnitude true rest
  | '+' :: rest => readMagnitude false rest
  | chars => readMagnitude false chars

inductive IntegerFault where
  | empty
  | invalidDigit
  | tooLarge
  | tooSmall
  deriving DecidableEq, Repr

namespace IntegerFault

def message : IntegerFault → String
  | empty => "cannot parse integer from empty string"
  | invalidDigit => "invalid digit found in string"
  | tooLarge => "number too large to fit in target type"
  | tooSmall => "number too small to fit in target type"

end IntegerFault

/-- Reads the digits of a natural number after those that make `value`. Of the
faults the one that is met first counts: a character that is no digit, or a
number past the limit. -/
def readDigits (limit : Nat) (pastLimit : IntegerFault) (value : Nat) :
    List Char → Except IntegerFault Nat
  | [] => .ok value
  | digit :: rest =>
    if digit.isDigit then
      let next := 10 * value + (digit.toNat - '0'.toNat)
      if limit < next then .error pastLimit else readDigits limit pastLimit next rest
    else .error .invalidDigit

/-- The largest magnitude of the negative integers of thirty-two bits. The
positive ones reach up to one less. -/
def int32Limit : Nat := 0x80000000

/-- Reads an integer of thirty-two bits with an optional sign. -/
def readInt32 (text : String) : Except IntegerFault Int32 :=
  match text.toList with
  | [] => .error .empty
  | ['-'] => .error .invalidDigit
  | ['+'] => .error .invalidDigit
  | '-' :: rest =>
    (readDigits int32Limit .tooSmall 0 rest).map fun (value : Nat) => Int32.ofInt (-(value : Int))
  | '+' :: rest => (readDigits (int32Limit - 1) .tooLarge 0 rest).map (Int32.ofNat ·)
  | chars => (readDigits (int32Limit - 1) .tooLarge 0 chars).map (Int32.ofNat ·)

end RewardFormula
