import RewardFormula.Operator

/-!
# Formulas

The tree of a formula: arithmetic expressions, the conditions that select
between them, loops over lists, and assignments.
-/

namespace RewardFormula

mutual

/-- An arithmetic expression, which evaluates to a number. -/
inductive Expr where
  | const (value : Float)
  | var (name : String)
  /-- A property of a value. In formulas that are read from a source the base is
  a variable or a property again. -/
  | deref (base : Expr) (field : String)
  | unary (op : UnaryOp) (inner : Expr)
  | binary (op : BinaryOp) (left right : Expr)
  | call (name : String) (arguments : List Expr)
  | ternary (condition : Condition) (accepted rejected : Expr)
  /-- A loop over the elements of `base` other than `exclusion`. Each is bound
  to `element` while the body runs, and the value of the loop is that of the
  variable `result` afterwards. -/
  | loop (element : String) (base : Expr) (exclusion : Option Expr)
      (body : List Assignment) (result : String)

/-- A condition, which holds or does not. -/
inductive Condition where
  | literal (value : Bool)
  | compare (op : Comparison) (left right : Expr)
  | logical (op : LogicalOp) (left right : Condition)

/-- An assignment of a number to a variable. -/
inductive Assignment where
  | assign (name : String) (value : Expr)

end

instance : Inhabited Expr := ⟨.const 0⟩

instance : Inhabited Condition := ⟨.literal false⟩

namespace Assignment

def name : Assignment → String
  | assign name _ => name

def value : Assignment → Expr
  | assign _ value => value

end Assignment

/-- A formula is a list of assignments, or declares a function. -/
inductive Formula where
  | assignments (items : List Assignment)
  | function (name : String) (parameters : List String) (body : Expr)

mutual

/-- Two trees are equal if they have the same shape and names and their constants
are equal as numbers, so that the two zeros are one constant. -/
def Expr.beq : Expr → Expr → Bool
  | .const left, .const right => left == right
  | .var left, .var right => left == right
  | .deref leftBase leftField, .deref rightBase rightField =>
    leftField == rightField && leftBase.beq rightBase
  | .unary leftOp left, .unary rightOp right => leftOp == rightOp && left.beq right
  | .binary leftOp left₁ left₂, .binary rightOp right₁ right₂ =>
    leftOp == rightOp && left₁.beq right₁ && left₂.beq right₂
  | .call leftName left, .call rightName right =>
    leftName == rightName && Expr.beqList left right
  | .ternary left left₁ left₂, .ternary right right₁ right₂ =>
    left.beq right && left₁.beq right₁ && left₂.beq right₂
  | .loop leftElement leftBase none leftBody leftResult,
    .loop rightElement rightBase none rightBody rightResult =>
    leftElement == rightElement && leftResult == rightResult && leftBase.beq rightBase &&
      Assignment.beqList leftBody rightBody
  | .loop leftElement leftBase (some left) leftBody leftResult,
    .loop rightElement rightBase (some right) rightBody rightResult =>
    leftElement == rightElement && leftResult == rightResult && leftBase.beq rightBase &&
      left.beq right && Assignment.beqList leftBody rightBody
  | _, _ => false
termination_by structural left => left

def Expr.beqList : List Expr → List Expr → Bool
  | [], [] => true
  | left :: leftRest, right :: rightRest => left.beq right && Expr.beqList leftRest rightRest
  | _, _ => false
termination_by structural left => left

def Condition.beq : Condition → Condition → Bool
  | .literal left, .literal right => left == right
  | .compare leftOp left₁ left₂, .compare rightOp right₁ right₂ =>
    leftOp == rightOp && left₁.beq right₁ && left₂.beq right₂
  | .logical leftOp left₁ left₂, .logical rightOp right₁ right₂ =>
    leftOp == rightOp && left₁.beq right₁ && left₂.beq right₂
  | _, _ => false
termination_by structural left => left

def Assignment.beq : Assignment → Assignment → Bool
  | .assign leftName left, .assign rightName right => leftName == rightName && left.beq right
termination_by structural left => left

def Assignment.beqList : List Assignment → List Assignment → Bool
  | [], [] => true
  | left :: leftRest, right :: rightRest =>
    left.beq right && Assignment.beqList leftRest rightRest
  | _, _ => false
termination_by structural left => left

end

instance : BEq Expr := ⟨Expr.beq⟩

instance : BEq Condition := ⟨Condition.beq⟩

instance : BEq Assignment := ⟨Assignment.beq⟩

namespace Formula

def beq : Formula → Formula → Bool
  | .assignments left, .assignments right => Assignment.beqList left right
  | .function leftName leftParameters left, .function rightName rightParameters right =>
    leftName == rightName && leftParameters == rightParameters && left.beq right
  | _, _ => false

instance : BEq Formula := ⟨beq⟩

end Formula

namespace Expr

/-- Whether an expression is a variable or a chain of properties that starts
from one. Only such a reference may stand for something other than a number. -/
def isReference : Expr → Bool
  | var _ => true
  | deref base _ => base.isReference
  | _ => false

/-- The priority of the outermost operation. -/
def priority : Expr → Priority
  | ternary _ _ _ => .ternary
  | binary op _ _ => op.priority
  | unary op _ => op.priority
  | _ => .primary

end Expr

namespace Formula

/-- A formula of one assignment. -/
def single (name : String) (value : Expr) : Formula :=
  assignments [.assign name value]

/-- The assignments of a formula; a declaration has none. -/
def items : Formula → List Assignment
  | assignments items => items
  | function _ _ _ => []

/-- The name that is assigned last. -/
def lastName? (formula : Formula) : Option String :=
  formula.items.getLast?.map Assignment.name

end Formula

end RewardFormula
