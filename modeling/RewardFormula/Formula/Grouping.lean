import RewardFormula.Formula

/-!
# Grouping a row of operations

A row of operands with binary operators between them is folded into a tree from
the left. The operators on the right edge of the tree are kept beside it, from
the root down, and tell how deep the next operation is hung.
-/

namespace RewardFormula

namespace BinaryOp

/-- Whether an operator on the right edge stays above an operation that is hung
after it. -/
def staysAbove (edge next : BinaryOp) : Bool :=
  !(decide (next.priority < edge.priority) ||
    (edge.priority == next.priority && !next.isRightAssociative))

end BinaryOp

namespace Expr

/-- Hangs an operation below the first `depth` operators of the right edge. What
stood there becomes its left operand. There is no place below the end of the
edge. -/
def hang? (op : BinaryOp) (operand : Expr) : Nat → Expr → Option Expr
  | 0, tree => some (.binary op tree operand)
  | depth + 1, .binary root left right =>
    (hang? op operand depth right).map (.binary root left ·)
  | _ + 1, _ => none

/-- Hangs the rest of a row on a tree whose right edge is known. -/
def group? (tree : Expr) (edge : List BinaryOp) : List (BinaryOp × Expr) → Option Expr
  | [] => some tree
  | (op, operand) :: rest =>
    let above := edge.takeWhile (·.staysAbove op)
    match hang? op operand above.length tree with
    | some tree => group? tree (above ++ [op]) rest
    | none => none

end Expr

end RewardFormula
