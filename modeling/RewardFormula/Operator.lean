/-!
# Operators

The operators of formulas, how tightly they bind, and what they compute.
-/

namespace RewardFormula

/-- How tightly the outermost operation of an arithmetic expression binds, from
the loosest on. -/
inductive Priority where
  | ternary
  | addition
  | multiplication
  | power
  | negation
  | primary
  deriving DecidableEq, Repr

namespace Priority

def level : Priority → Nat
  | ternary => 0
  | addition => 1
  | multiplication => 2
  | power => 3
  | negation => 4
  | primary => 5

instance : LT Priority where
  lt left right := left.level < right.level

instance (left right : Priority) : Decidable (left < right) :=
  inferInstanceAs (Decidable (left.level < right.level))

end Priority

inductive UnaryOp where
  | neg
  deriving DecidableEq, Repr

namespace UnaryOp

def all : List UnaryOp := [neg]

def name : UnaryOp → String
  | neg => "negation"

def symbol : UnaryOp → String
  | neg => "-"

def priority : UnaryOp → Priority
  | neg => .negation

def apply : UnaryOp → Float → Float
  | neg, x => -x

end UnaryOp

inductive BinaryOp where
  | add
  | sub
  | mul
  | div
  | power
  deriving DecidableEq, Repr

namespace BinaryOp

def all : List BinaryOp := [add, sub, mul, div, power]

def name : BinaryOp → String
  | add => "addition"
  | sub => "subtraction"
  | mul => "multiplication"
  | div => "division"
  | power => "exponentiation"

def symbol : BinaryOp → String
  | add => "+"
  | sub => "-"
  | mul => "*"
  | div => "/"
  | power => "^"

def priority : BinaryOp → Priority
  | add => .addition
  | sub => .addition
  | mul => .multiplication
  | div => .multiplication
  | power => .power

/-- Only powers group to the right. -/
def isRightAssociative : BinaryOp → Bool
  | power => true
  | _ => false

/-- Division by zero and powers of negative numbers give infinities and
not-a-numbers as floating-point arithmetic has it. -/
def apply : BinaryOp → Float → Float → Float
  | add, x, y => x + y
  | sub, x, y => x - y
  | mul, x, y => x * y
  | div, x, y => x / y
  | power, x, y => x ^ y

end BinaryOp

inductive Comparison where
  | less
  | lessOrEqual
  | equal
  | greaterOrEqual
  | greater
  | notEqual
  deriving DecidableEq, Repr

namespace Comparison

def all : List Comparison := [less, lessOrEqual, equal, greaterOrEqual, greater, notEqual]

def name : Comparison → String
  | less => "lesser comparison"
  | lessOrEqual => "lesser-or-equal comparison"
  | equal => "equality comparison"
  | greaterOrEqual => "greater-or-equal comparison"
  | greater => "greater comparison"
  | notEqual => "non-equality comparison"

def symbol : Comparison → String
  | less => "<"
  | lessOrEqual => "<="
  | equal => "=="
  | greaterOrEqual => ">="
  | greater => ">"
  | notEqual => "!="

/-- Every comparison with a not-a-number fails, except that it is not equal. -/
def holds : Comparison → Float → Float → Bool
  | less, x, y => x < y
  | lessOrEqual, x, y => x ≤ y
  | equal, x, y => x == y
  | greaterOrEqual, x, y => y ≤ x
  | greater, x, y => y < x
  | notEqual, x, y => x != y

end Comparison

/-- Both connectives bind equally and group to the left. -/
inductive LogicalOp where
  | and
  | or
  deriving DecidableEq, Repr

namespace LogicalOp

def all : List LogicalOp := [and, or]

def name : LogicalOp → String
  | and => "AND"
  | or => "OR"

def symbol : LogicalOp → String
  | and => "&&"
  | or => "||"

def apply : LogicalOp → Bool → Bool → Bool
  | and, p, q => p && q
  | or, p, q => p || q

end LogicalOp

end RewardFormula
