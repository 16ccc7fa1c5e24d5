import RewardFormula.Formula
import RewardFormula.Number.Text

/-!
# The canonical text of a formula

Formulas are written with single spaces around operators, and with parentheses
only where the priorities of the operators would group the text differently.
-/

namespace RewardFormula

namespace BinaryOp

/-- Whether a left operand of this priority is parenthesized. -/
def enclosesLeft (op : BinaryOp) (operand : Priority) : Bool :=
  decide (operand < op.priority) || (operand == op.priority && op.isRightAssociative)

/-- Whether a right operand of this priority is parenthesized. -/
def enclosesRight (op : BinaryOp) (operand : Priority) : Bool :=
  decide (operand < op.priority) || (operand == op.priority && !op.isRightAssociative)

end BinaryOp

/-- Whether a condition joins two others; as a right operand it is
parenthesized. -/
def Condition.isLogical : Condition → Bool
  | .logical _ _ _ => true
  | _ => false

/-- A text in parentheses, if asked for. -/
def parenthesizedIf (parenthesize : Bool) (text : String) : String :=
  if parenthesize then "(" ++ text ++ ")" else text

mutual

def Expr.text : Expr → String
  | .const value => numberText value
  | .var name => name
  | .deref base field => base.text ++ "." ++ field
  | .unary op inner =>
    op.symbol ++ parenthesizedIf (inner.priority < op.priority) inner.text
  | .binary op left right =>
    parenthesizedIf (op.enclosesLeft left.priority) left.text ++ " " ++ op.symbol ++ " " ++
      parenthesizedIf (op.enclosesRight right.priority) right.text
  | .call name arguments => name ++ "(" ++ String.intercalate ", " (Expr.texts arguments) ++ ")"
  | .ternary condition accepted rejected =>
    condition.text ++ " ? " ++ accepted.text ++ " : " ++ rejected.text
  | .loop element base none body result =>
    "for(" ++ element ++ " : " ++ base.text ++ ") \x7b " ++
      Assignment.statements body ++ "return " ++ result ++ " \x7d"
  | .loop element base (some exclusion) body result =>
    "for(" ++ element ++ " : " ++ base.text ++ " - " ++ exclusion.text ++ ") \x7b " ++
      Assignment.statements body ++ "return " ++ result ++ " \x7d"
termination_by structural expr => expr

def Expr.texts : List Expr → List String
  | [] => []
  | first :: rest => first.text :: Expr.texts rest
termination_by structural exprs => exprs

def Condition.text : Condition → String
  | .literal true => "true"
  | .literal false => "false"
  | .compare op left right =>
    parenthesizedIf (left.priority == .ternary) left.text ++ " " ++ op.symbol ++ " " ++
      parenthesizedIf (right.priority == .ternary) right.text
  | .logical op left right =>
    left.text ++ " " ++ op.symbol ++ " " ++ parenthesizedIf right.isLogical right.text
termination_by structural condition => condition

def Assignment.text : Assignment → String
  | .assign name value => name ++ " = " ++ value.text
termination_by structural assignment => assignment

/-- Assignments in the body of a loop, each closed by a semicolon. -/
def Assignment.statements : List Assignment → String
  | [] => ""
  | first :: rest => first.text ++ "; " ++ Assignment.statements rest
termination_by structural assignments => assignments

end

/-- The canonical text of a formula. -/
def Formula.text : Formula → String
  | .assignments items => String.intercalate "; " (items.map Assignment.text)
  | .function name parameters body =>
    name ++ "(" ++ String.intercalate ", " parameters ++ ") = " ++ body.text

end RewardFormula
