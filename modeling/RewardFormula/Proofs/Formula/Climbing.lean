import RewardFormula.Proofs.Formula.Grouping

/-!
# Rows are grouped as by climbing precedences

Precedence climbing reads a row from the left and takes, behind each operator, as
right operand all that binds tighter than the operator. Hanging the operations of
a row on the right edge of a tree makes the same tree of it: the only one with the
operands and operators in the order of the row in which every operation stands
where its priority lets it stand.
-/

namespace RewardFormula

/-- Operations over operands. The operands are leaves, even if they are operations
themselves. -/
inductive Arrangement where
  | operand (expr : Expr)
  | operation (op : BinaryOp) (left right : Arrangement)

/-- What stands in a row. -/
inductive RowSymbol where
  | operand (expr : Expr)
  | operator (op : BinaryOp)

/-- The first operand of a row, and its operators with the operands after them. -/
def rowSymbols (first : Expr) (row : List (BinaryOp × Expr)) : List RowSymbol :=
  .operand first :: row.flatMap fun item => [.operator item.1, .operand item.2]

theorem rowSymbols_injective {first first' : Expr} {row row' : List (BinaryOp × Expr)}
    (same : rowSymbols first row = rowSymbols first' row') : first = first' ∧ row = row' := by
  obtain ⟨sameFirst, sameRow⟩ := List.cons.inj same
  refine ⟨RowSymbol.operand.inj sameFirst, ?_⟩
  clear same sameFirst
  induction row generalizing row' with
  | nil =>
      cases row' with
      | nil =>
          rfl
      | cons item' row' =>
          cases sameRow
  | cons item row inductionHypothesis =>
      cases row' with
      | nil =>
          cases sameRow
      | cons item' row' =>
          simp only [List.flatMap_cons, List.cons_append, List.nil_append, List.cons.injEq,
            RowSymbol.operator.injEq, RowSymbol.operand.injEq] at sameRow
          obtain ⟨sameOp, sameOperand, sameRest⟩ := sameRow
          rw [Prod.ext sameOp sameOperand, inductionHypothesis sameRest]

namespace Arrangement

/-- The expression in which the operands are no longer told apart. -/
def expr : Arrangement → Expr
  | operand expr => expr
  | operation op left right => .binary op left.expr right.expr

/-- The operands and operators from left to right. -/
def inOrder : Arrangement → List RowSymbol
  | operand expr => [.operand expr]
  | operation op left right => left.inOrder ++ .operator op :: right.inOrder

def root? : Arrangement → Option BinaryOp
  | operand _ => none
  | operation op _ _ => some op

def first : Arrangement → Expr
  | operand expr => expr
  | operation _ left _ => left.first

/-- The operators, each with the operand after it. -/
def row : Arrangement → List (BinaryOp × Expr)
  | operand _ => []
  | operation op left right => left.row ++ (op, right.first) :: right.row

theorem inOrder_eq (tree : Arrangement) : tree.inOrder = rowSymbols tree.first tree.row := by
  induction tree with
  | operand expr =>
      rfl
  | operation op left right leftHypothesis rightHypothesis =>
      simp only [inOrder, leftHypothesis, rightHypothesis, rowSymbols, first, row,
        List.flatMap_append, List.flatMap_cons, List.cons_append, List.nil_append]

/-- Whether an arrangement may be the left operand of an operator: it is an operand
of the row, or its operation binds tighter, or as tight and the operators group to the
left. -/
def FitsLeft (op : BinaryOp) (left : Arrangement) : Prop :=
  ∀ root ∈ left.root?, op.priority < root.priority ∨
    root.priority = op.priority ∧ op.isRightAssociative = false

/-- The same for the right operand. Only powers group to the right. -/
def FitsRight (op : BinaryOp) (right : Arrangement) : Prop :=
  ∀ root ∈ right.root?, op.priority < root.priority ∨
    root.priority = op.priority ∧ op = .power

/-- Every operation stands where its priority lets it stand. -/
inductive ByPriority : Arrangement → Prop
  | operand (expr : Expr) : ByPriority (.operand expr)
  | operation {op : BinaryOp} {left right : Arrangement} : left.ByPriority → right.ByPriority →
      FitsLeft op left → FitsRight op right → ByPriority (.operation op left right)

end Arrangement

/-- The level from which operators are taken into the right operand of one. -/
def BinaryOp.rightLevel (op : BinaryOp) : Nat :=
  if op.isRightAssociative then op.priority.level else op.priority.level + 1

namespace Arrangement

/-- Precedence climbing: takes operations from the front of a row as long as they bind
at least as tight as a level, and gives the rest of the row. -/
def climbFrom (level : Nat) (left : Arrangement) (row : List (BinaryOp × Expr)) :
    Arrangement × { rest : List (BinaryOp × Expr) // rest.length ≤ row.length } :=
  match row with
  | [] => (left, ⟨[], Nat.le_refl _⟩)
  | (op, first) :: row =>
    if level ≤ op.priority.level then
      let right := climbFrom op.rightLevel (.operand first) row
      let whole := climbFrom level (.operation op left right.1) right.2.1
      (whole.1, ⟨whole.2.1, Nat.le_succ_of_le (Nat.le_trans whole.2.2 right.2.2)⟩)
    else (left, ⟨(op, first) :: row, Nat.le_refl _⟩)
termination_by row.length
decreasing_by
  · exact Nat.lt_succ_self _
  · exact Nat.lt_succ_of_le right.2.2

/-- The arrangement of a row that precedence climbing finds. -/
def climb (first : Expr) (row : List (BinaryOp × Expr)) : Arrangement :=
  (climbFrom 0 (.operand first) row).1

/-- What climbing makes of a row, and the rest of it. -/
def climbed (level : Nat) (left : Arrangement) (row : List (BinaryOp × Expr)) :
    Arrangement × List (BinaryOp × Expr) :=
  let result := climbFrom level left row
  (result.1, result.2.1)

theorem climbed_cons (level : Nat) (left : Arrangement) (op : BinaryOp) (first : Expr)
    (row : List (BinaryOp × Expr)) :
    climbed level left ((op, first) :: row) =
      if level ≤ op.priority.level then
        climbed level (.operation op left (climbed op.rightLevel (.operand first) row).1)
          (climbed op.rightLevel (.operand first) row).2
      else (left, (op, first) :: row) := by
  unfold climbed
  rw [climbFrom]
  split <;> rfl

/-- Climbing stops where the next operator binds looser. -/
theorem climbed_of_below {level : Nat} {rest : List (BinaryOp × Expr)} (left : Arrangement)
    (below : ∀ item ∈ rest.head?, item.1.priority.level < level) :
    climbed level left rest = (left, rest) := by
  cases rest with
  | nil =>
      unfold climbed
      rw [climbFrom]
  | cons item rest =>
      obtain ⟨op, first⟩ := item
      rw [climbed_cons, if_neg (Nat.not_le.2 (below _ rfl))]

/-- The operation of an arrangement, if it has one, binds at least as tight as a level. -/
def Reaches (level : Nat) (tree : Arrangement) : Prop :=
  ∀ root ∈ tree.root?, level ≤ root.priority.level

theorem FitsLeft.reaches {op : BinaryOp} {left : Arrangement} (fits : FitsLeft op left) :
    left.Reaches op.priority.level := by
  intro root member
  rcases fits root member with tighter | ⟨same, -⟩
  · exact Nat.le_of_lt tighter
  · exact Nat.le_of_eq (congrArg Priority.level same.symm)

theorem FitsRight.reaches {op : BinaryOp} {right : Arrangement} (fits : FitsRight op right) :
    right.Reaches op.rightLevel := by
  intro root member
  rcases fits root member with tighter | ⟨same, rfl⟩
  · unfold BinaryOp.rightLevel
    split
    · exact Nat.le_of_lt tighter
    · exact tighter
  · rw [same]
    exact Nat.le_refl _

/-- The right operand of an operation ends before an operator whose left operand the
operation may be. -/
theorem FitsLeft.lt_rightLevel {next op : BinaryOp} {left right : Arrangement}
    (fits : FitsLeft next (.operation op left right)) : next.priority.level < op.rightLevel := by
  have fits := fits op rfl
  revert fits
  cases next <;> cases op <;> decide

/-- Whoever may have an operation on the left may also have its right operand there. -/
theorem FitsLeft.of_right {next op : BinaryOp} {left right : Arrangement}
    (fits : FitsLeft next (.operation op left right)) (fitsRight : FitsRight op right) :
    FitsLeft next right := by
  intro root member
  have outer := fits op rfl
  have inner := fitsRight root member
  revert outer inner
  cases next <;> cases op <;> cases root <;> decide

/-- Climbing along the row of an arrangement by priority makes the arrangement again, and
goes on behind it. -/
theorem ByPriority.climbed_row {tree : Arrangement} (byPriority : tree.ByPriority)
    {level : Nat} (reaches : tree.Reaches level) {rest : List (BinaryOp × Expr)}
    (fits : ∀ item ∈ rest.head?, FitsLeft item.1 tree) :
    climbed level (.operand tree.first) (tree.row ++ rest) = climbed level tree rest := by
  induction byPriority generalizing level rest with
  | operand expr =>
      rfl
  | @operation op left right leftByPriority rightByPriority fitsLeft fitsRight leftHypothesis
      rightHypothesis =>
      have fromLevel : level ≤ op.priority.level := reaches op rfl
      have leftClimbed : ∀ tail, climbed level (.operand left.first)
          (left.row ++ (op, right.first) :: tail) =
            climbed level left ((op, right.first) :: tail) := by
        intro tail
        refine leftHypothesis (fun root member => ?_) ?_
        · exact Nat.le_trans fromLevel (fitsLeft.reaches root member)
        · rintro _ ⟨⟩
          exact fitsLeft
      -- What follows the operation follows its right operand, which therefore ends there.
      have rightClimbed : climbed op.rightLevel (.operand right.first) (right.row ++ rest) =
          (right, rest) := by
        rw [rightHypothesis fitsRight.reaches fun item member =>
          (fits item member).of_right fitsRight]
        exact climbed_of_below right fun item member => (fits item member).lt_rightLevel
      simp only [first, row, List.append_assoc, List.cons_append]
      rw [leftClimbed, climbed_cons, if_pos fromLevel, rightClimbed]

theorem ByPriority.climb_eq {tree : Arrangement} (byPriority : tree.ByPriority) :
    climb tree.first tree.row = tree := by
  have whole : climbed 0 (.operand tree.first) (tree.row ++ []) = climbed 0 tree [] :=
    byPriority.climbed_row (fun _ _ => Nat.zero_le _) (by simp)
  rw [climbed_of_below tree (by simp), List.append_nil] at whole
  exact congrArg Prod.fst whole

end Arrangement

open Arrangement

theorem fitsLeft_iff {op : BinaryOp} {left : Arrangement} :
    FitsLeft op left ↔ op.AdmitsLeft left.root? := by
  refine forall₂_congr fun root _ => ?_
  cases op <;> cases root <;> decide

theorem fitsRight_iff {op : BinaryOp} {right : Arrangement} :
    FitsRight op right ↔ op.AdmitsRight right.root? := by
  refine forall₂_congr fun root _ => ?_
  cases op <;> cases root <;> decide

/-- A tree that groups a row is the expression of an arrangement of it. -/
theorem Grouped.exists_arrangement {first tree : Expr} {row : List (BinaryOp × Expr)}
    {edge : List BinaryOp} (grouped : Grouped first row tree edge) :
    ∃ found : Arrangement, found.ByPriority ∧ found.first = first ∧ found.row = row ∧
      found.expr = tree ∧ found.root? = edge.head? := by
  induction grouped with
  | operand first =>
      exact ⟨.operand first, .operand first, rfl, rfl, rfl, rfl⟩
  | @operation first middle left right op before after leftEdge rightEdge _ _ admitsLeft
      admitsRight leftHypothesis rightHypothesis =>
      obtain ⟨left, leftByPriority, rfl, rfl, rfl, leftRoot⟩ := leftHypothesis
      obtain ⟨right, rightByPriority, rfl, rfl, rfl, rightRoot⟩ := rightHypothesis
      rw [← leftRoot] at admitsLeft
      rw [← rightRoot] at admitsRight
      exact ⟨.operation op left right, .operation leftByPriority rightByPriority
        (fitsLeft_iff.2 admitsLeft) (fitsRight_iff.2 admitsRight), rfl, rfl, rfl, rfl⟩

namespace Expr

/-- A row is always made into a tree, with its operands and operators in their order and
every operation where its priority lets it stand. There is one such tree, which is also
what precedence climbing makes of the row. -/
theorem group?_eq_climb (first : Expr) (row : List (BinaryOp × Expr)) :
    group? first [] row = some (climb first row).expr ∧
      (climb first row).inOrder = rowSymbols first row ∧
      (climb first row).ByPriority ∧
      ∀ tree : Arrangement, tree.inOrder = rowSymbols first row → tree.ByPriority →
        tree = climb first row := by
  obtain ⟨tree, grouping⟩ := Option.isSome_iff_exists.1 (group?_isSome first row)
  obtain ⟨edge, grouped⟩ := group?_eq_some_iff.1 grouping
  obtain ⟨found, byPriority, rfl, rfl, rfl, -⟩ := grouped.exists_arrangement
  rw [byPriority.climb_eq]
  refine ⟨grouping, found.inOrder_eq, byPriority, fun tree sameOrder treeByPriority => ?_⟩
  rw [tree.inOrder_eq] at sameOrder
  obtain ⟨sameFirst, sameRow⟩ := rowSymbols_injective sameOrder
  rw [← treeByPriority.climb_eq, ← byPriority.climb_eq, sameFirst, sameRow]

end Expr

end RewardFormula
