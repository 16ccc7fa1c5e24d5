import RewardFormula.Formula
import RewardFormula.Number.Text
import RewardFormula.Text.Outline
import RewardFormula.Text.Quoted

/-!
# Outlines of formulas

The structure of a formula, as a dump shows it.
-/

namespace RewardFormula

namespace Outline

def text (content : String) : Outline :=
  .leaf (quoted content)

/-- A part that may be absent. -/
def optional : Option Outline → Outline
  | some part => .tuple "Some" [part]
  | none => .leaf "None"

end Outline

def UnaryOp.outline : UnaryOp → Outline
  | .neg => .leaf "Neg"

def BinaryOp.outline : BinaryOp → Outline
  | .add => .leaf "Add"
  | .sub => .leaf "Sub"
  | .mul => .leaf "Mul"
  | .div => .leaf "Div"
  | .power => .leaf "Power"

def Comparison.outline : Comparison → Outline
  | .less => .leaf "Lt"
  | .lessOrEqual => .leaf "Le"
  | .equal => .leaf "Eq"
  | .greaterOrEqual => .leaf "Ge"
  | .greater => .leaf "Gt"
  | .notEqual => .leaf "NotEq"

def LogicalOp.outline : LogicalOp → Outline
  | .and => .leaf "And"
  | .or => .leaf "Or"

namespace Outline

/-- An operation between two operands. -/
def operation (name : String) (left op right : Outline) : Outline :=
  .record name [.labelled "lhs" left, .labelled "op" op, .labelled "rhs" right]

def loop (element : String) (base exclusion : Outline) (body : List Outline)
    (result : String) : Outline :=
  .tuple "For" [.record "ForLoop" [.labelled "var" (text element), .labelled "base" base,
    .labelled "exclusion" exclusion, .labelled "body" (.list body),
    .labelled "return_name" (text result)]]

end Outline

mutual

def Expr.outline : Expr → Outline
  | .const value => .tuple "Const" [.leaf (numberDump value)]
  | .var name => .tuple "Var" [.text name]
  | .deref base field =>
    .record "Deref" [.labelled "base" base.outline, .labelled "field" (.text field)]
  | .unary op inner =>
    .record "Unary" [.labelled "op" op.outline, .labelled "inner" inner.outline]
  | .binary op left right => .operation "Binary" left.outline op.outline right.outline
  | .call name arguments =>
    .record "Function"
      [.labelled "name" (.text name), .labelled "args" (.list (Expr.outlines arguments))]
  | .ternary condition accepted rejected =>
    .record "Ternary" [.labelled "condition" condition.outline,
      .labelled "then" accepted.outline, .labelled "otherwise" rejected.outline]
  | .loop element base none body result =>
    .loop element base.outline (.optional none) (Assignment.outlines body) result
  | .loop element base (some exclusion) body result =>
    .loop element base.outline (.optional (some exclusion.outline))
      (Assignment.outlines body) result
termination_by structural expr => expr

def Expr.outlines : List Expr → List Outline
  | [] => []
  | first :: rest => first.outline :: Expr.outlines rest
termination_by structural exprs => exprs

def Condition.outline : Condition → Outline
  | .literal true => .leaf "True"
  | .literal false => .leaf "False"
  | .compare op left right => .operation "Comparison" left.outline op.outline right.outline
  | .logical op left right => .operation "Binary" left.outline op.outline right.outline
termination_by structural condition => condition

def Assignment.outline : Assignment → Outline
  | .assign name value =>
    .record "Assignment" [.labelled "name" (.text name), .labelled "value" value.outline]
termination_by structural assignment => assignment

def Assignment.outlines : List Assignment → List Outline
  | [] => []
  | first :: rest => first.outline :: Assignment.outlines rest
termination_by structural assignments => assignments

end

def Formula.outline : Formula → Outline
  | .assignments items => .tuple "Assignments" [.list (Assignment.outlines items)]
  | .function name parameters body =>
    .tuple "Function" [.record "FnDeclaration" [.labelled "name" (.text name),
      .labelled "params" (.list (parameters.map .text)), .labelled "body" body.outline]]

end RewardFormula
