import RewardFormula.Formula.Grouping
import RewardFormula.Formula.Text

/-!
# Rows are grouped by priority

A tree groups a row if the operands and operators stand in it in the order of
the row and every operator has, on each side, an operand of the row or an
operator that may stand there without parentheses. The main statements say that
hanging the operations of a row one after the other always ends with a tree that
groups the row, and that no other tree does.
-/

namespace RewardFormula

namespace BinaryOp

/-- Whether an operator may be the root of the left operand of another one. An
operand of the row always may. -/
def AdmitsLeft (op : BinaryOp) (root? : Option BinaryOp) : Prop :=
  ∀ root ∈ root?, op.enclosesLeft root.priority = false

/-- Whether an operator may be the root of the right operand of another one. -/
def AdmitsRight (op : BinaryOp) (root? : Option BinaryOp) : Prop :=
  ∀ root ∈ root?, op.enclosesRight root.priority = false

theorem admitsLeft_none (op : BinaryOp) : op.AdmitsLeft none := by
  simp [AdmitsLeft]

theorem admitsRight_none (op : BinaryOp) : op.AdmitsRight none := by
  simp [AdmitsRight]

theorem admitsLeft_some {op root : BinaryOp} :
    op.AdmitsLeft (some root) ↔ root.staysAbove op = false := by
  cases op <;> cases root <;> simp [AdmitsLeft] <;> decide

theorem admitsRight_some {op root : BinaryOp} :
    op.AdmitsRight (some root) ↔ op.staysAbove root = true := by
  cases op <;> cases root <;> simp [AdmitsRight] <;> decide

/-- An operator that stays above the root of a tree stays above all of it. -/
theorem staysAbove_trans {outer root inner : BinaryOp}
    (above : outer.staysAbove root = true)
    (below : root.priority.level ≤ inner.priority.level) :
    outer.staysAbove inner = true := by
  revert above below
  cases outer <;> cases root <;> cases inner <;> decide

theorem level_le_of_admitsLeft {op root : BinaryOp} (admits : op.AdmitsLeft (some root)) :
    op.priority.level ≤ root.priority.level := by
  rw [admitsLeft_some] at admits
  revert admits
  cases op <;> cases root <;> decide

theorem level_le_of_admitsRight {op root : BinaryOp} (admits : op.AdmitsRight (some root)) :
    op.priority.level ≤ root.priority.level := by
  rw [admitsRight_some] at admits
  revert admits
  cases op <;> cases root <;> decide

end BinaryOp

/-- `Grouped first row tree edge`: the tree groups the operands `first` and those
of the row, and `edge` lists the operators on its right edge from the root down.
Operands of the row are leaves here, even if they are operations themselves. -/
inductive Grouped : Expr → List (BinaryOp × Expr) → Expr → List BinaryOp → Prop
  | operand (first : Expr) : Grouped first [] first []
  | operation {first middle left right : Expr} {op : BinaryOp}
      {before after : List (BinaryOp × Expr)} {leftEdge rightEdge : List BinaryOp} :
      Grouped first before left leftEdge →
      Grouped middle after right rightEdge →
      op.AdmitsLeft leftEdge.head? →
      op.AdmitsRight rightEdge.head? →
      Grouped first (before ++ (op, middle) :: after) (.binary op left right) (op :: rightEdge)

namespace Expr

/-- The tree and its right edge after the rest of a row is hung on a tree. -/
def groupWithEdge? (tree : Expr) (edge : List BinaryOp) :
    List (BinaryOp × Expr) → Option (Expr × List BinaryOp)
  | [] => some (tree, edge)
  | (op, operand) :: rest =>
    let above := edge.takeWhile (·.staysAbove op)
    match hang? op operand above.length tree with
    | some tree => groupWithEdge? tree (above ++ [op]) rest
    | none => none

theorem group?_eq (tree : Expr) (edge : List BinaryOp) (rest : List (BinaryOp × Expr)) :
    group? tree edge rest = (groupWithEdge? tree edge rest).map (·.1) := by
  induction rest generalizing tree edge with
  | nil =>
      rfl
  | cons item rest inductionHypothesis =>
      simp only [group?, groupWithEdge?]
      cases hang? item.1 item.2 (edge.takeWhile (·.staysAbove item.1)).length tree with
      | none =>
          rfl
      | some hung =>
          exact inductionHypothesis hung _

theorem groupWithEdge?_append
    (tree : Expr) (edge : List BinaryOp) (rest more : List (BinaryOp × Expr)) :
    groupWithEdge? tree edge (rest ++ more) =
      (groupWithEdge? tree edge rest).bind fun done => groupWithEdge? done.1 done.2 more := by
  induction rest generalizing tree edge with
  | nil =>
      rfl
  | cons item rest inductionHypothesis =>
      simp only [List.cons_append, groupWithEdge?]
      cases hang? item.1 item.2 (edge.takeWhile (·.staysAbove item.1)).length tree with
      | none =>
          rfl
      | some hung =>
          exact inductionHypothesis hung _

/-- Operations over which a root stays are hung inside its right operand. -/
theorem groupWithEdge?_below
    (root : BinaryOp) (left tree : Expr) (edge : List BinaryOp)
    {rest : List (BinaryOp × Expr)} (above : ∀ item ∈ rest, root.staysAbove item.1 = true) :
    groupWithEdge? (.binary root left tree) (root :: edge) rest =
      (groupWithEdge? tree edge rest).map fun done =>
        (.binary root left done.1, root :: done.2) := by
  induction rest generalizing tree edge with
  | nil =>
      rfl
  | cons item rest inductionHypothesis =>
      obtain ⟨op, operand⟩ := item
      have rootAbove : root.staysAbove op = true := above _ List.mem_cons_self
      have restAbove : ∀ item ∈ rest, root.staysAbove item.1 = true :=
        fun item member => above item (List.mem_cons_of_mem _ member)
      simp only [groupWithEdge?, List.takeWhile_cons, rootAbove, if_true, List.length_cons, hang?]
      cases hang? op operand (edge.takeWhile (·.staysAbove op)).length tree with
      | none =>
          rfl
      | some hung =>
          exact inductionHypothesis hung _ restAbove

end Expr

namespace Grouped

open RewardFormula.Expr

variable {first tree : Expr} {row : List (BinaryOp × Expr)} {edge : List BinaryOp}

/-- A tree without an operator on its right edge is an operand. -/
theorem row_eq_nil (grouped : Grouped first row tree []) : row = [] := by
  cases grouped with
  | operand =>
      rfl

/-- No operator of a row binds looser than the root of its tree. -/
theorem level_le_of_mem (grouped : Grouped first row tree edge) :
    ∀ root ∈ edge.head?, ∀ item ∈ row, root.priority.level ≤ item.1.priority.level := by
  induction grouped with
  | operand first =>
      intro root member
      simp at member
  | @operation first middle left right op before after leftEdge rightEdge leftGrouped rightGrouped
      admitsLeft admitsRight leftHypothesis rightHypothesis =>
      rintro root ⟨⟩ item member
      rcases List.mem_append.1 member with inBefore | member
      · cases leftEdge with
        | nil =>
            rw [leftGrouped.row_eq_nil] at inBefore
            cases inBefore
        | cons leftRoot rest =>
            exact Nat.le_trans (BinaryOp.level_le_of_admitsLeft admitsLeft)
              (leftHypothesis leftRoot rfl item inBefore)
      · rcases List.mem_cons.1 member with rfl | inAfter
        · exact Nat.le_refl _
        · cases rightEdge with
          | nil =>
              rw [rightGrouped.row_eq_nil] at inAfter
              cases inAfter
          | cons rightRoot rest =>
              exact Nat.le_trans (BinaryOp.level_le_of_admitsRight admitsRight)
                (rightHypothesis rightRoot rfl item inAfter)

/-- Below the operators that stay above it an operation finds its place, and the
tree then groups the row that is longer by the operation. -/
theorem hang (op : BinaryOp) (operand : Expr) (grouped : Grouped first row tree edge) :
    ∃ hung,
      hang? op operand (edge.takeWhile (·.staysAbove op)).length tree = some hung ∧
        Grouped first (row ++ [(op, operand)]) hung (edge.takeWhile (·.staysAbove op) ++ [op]) := by
  induction grouped with
  | operand first =>
      refine ⟨.binary op first operand, rfl, ?_⟩
      exact operation (.operand first) (.operand operand) op.admitsLeft_none op.admitsRight_none
  | @operation first middle left right root before after leftEdge rightEdge leftGrouped
      rightGrouped admitsLeft admitsRight _ rightHypothesis =>
      by_cases above : root.staysAbove op = true
      · obtain ⟨hung, hanging, regrouped⟩ := rightHypothesis
        refine ⟨.binary root left hung, ?_, ?_⟩
        · simp only [List.takeWhile_cons, above, if_true, List.length_cons, hang?, hanging,
            Option.map_some]
        · simp only [List.takeWhile_cons, above, if_true, List.cons_append, List.append_assoc]
          refine operation leftGrouped regrouped admitsLeft ?_
          -- The root keeps the operator next on the edge, or gets the new one.
          cases rightEdge with
          | nil =>
              exact BinaryOp.admitsRight_some.2 above
          | cons next rest =>
              by_cases nextAbove : next.staysAbove op = true
              · simpa only [List.takeWhile_cons, nextAbove, if_true, List.cons_append,
                  List.head?_cons] using admitsRight
              · simpa only [List.takeWhile_cons, nextAbove, Bool.false_eq_true, if_false,
                  List.nil_append, List.head?_cons] using BinaryOp.admitsRight_some.2 above
      · have isBelow : root.staysAbove op = false := Bool.eq_false_iff.2 above
        refine ⟨.binary op (.binary root left right) operand, ?_, ?_⟩
        · simp only [List.takeWhile_cons, isBelow, Bool.false_eq_true, if_false, List.length_nil,
            hang?]
        · simp only [List.takeWhile_cons, isBelow, Bool.false_eq_true, if_false, List.nil_append]
          exact operation (operation leftGrouped rightGrouped admitsLeft admitsRight)
            (.operand operand) (BinaryOp.admitsLeft_some.2 isBelow) op.admitsRight_none

/-- Hanging a whole row never fails and groups the row. -/
theorem groupWithEdge (grouped : Grouped first row tree edge) (rest : List (BinaryOp × Expr)) :
    ∃ result resultEdge,
      groupWithEdge? tree edge rest = some (result, resultEdge) ∧
        Grouped first (row ++ rest) result resultEdge := by
  induction rest generalizing row tree edge with
  | nil =>
      exact ⟨tree, edge, rfl, by simpa using grouped⟩
  | cons item rest inductionHypothesis =>
      obtain ⟨op, operand⟩ := item
      obtain ⟨hung, hanging, regrouped⟩ := grouped.hang op operand
      obtain ⟨result, resultEdge, grouping, resultGrouped⟩ := inductionHypothesis regrouped
      refine ⟨result, resultEdge, ?_, ?_⟩
      · simp only [groupWithEdge?, hanging, grouping]
      · simpa using resultGrouped

/-- Hanging the row of a tree gives the tree and its right edge. -/
theorem groupWithEdge?_eq (grouped : Grouped first row tree edge) :
    groupWithEdge? first [] row = some (tree, edge) := by
  induction grouped with
  | operand first =>
      rfl
  | @operation first middle left right op before after leftEdge rightEdge leftGrouped rightGrouped
      admitsLeft admitsRight leftHypothesis rightHypothesis =>
      have leftBelow : leftEdge.takeWhile (·.staysAbove op) = [] := by
        cases leftEdge with
        | nil =>
            rfl
        | cons leftRoot rest =>
            simp [BinaryOp.admitsLeft_some.1 admitsLeft]
      have rightAbove : ∀ item ∈ after, op.staysAbove item.1 = true := by
        intro item member
        cases rightEdge with
        | nil =>
            rw [rightGrouped.row_eq_nil] at member
            cases member
        | cons rightRoot rest =>
            exact BinaryOp.staysAbove_trans (BinaryOp.admitsRight_some.1 admitsRight)
              (rightGrouped.level_le_of_mem rightRoot rfl item member)
      calc
        groupWithEdge? first [] (before ++ (op, middle) :: after) =
            groupWithEdge? left leftEdge ((op, middle) :: after) := by
          rw [groupWithEdge?_append, leftHypothesis, Option.bind_some]
        _ = groupWithEdge? (.binary op left middle) [op] after := by
          simp only [groupWithEdge?, leftBelow, List.length_nil, hang?, List.nil_append]
        _ = some (.binary op left right, op :: rightEdge) := by
          rw [groupWithEdge?_below op left middle [] rightAbove, rightHypothesis, Option.map_some]

end Grouped

namespace Expr

/-- The tree that is made of a row is the one that groups it. -/
theorem group?_eq_some_iff {first tree : Expr} {row : List (BinaryOp × Expr)} :
    group? first [] row = some tree ↔ ∃ edge, Grouped first row tree edge := by
  rw [group?_eq]
  constructor
  · intro grouping
    obtain ⟨result, edge, resultGrouping, grouped⟩ := (Grouped.operand first).groupWithEdge row
    rw [resultGrouping] at grouping
    obtain rfl := Option.some.inj grouping
    exact ⟨edge, grouped⟩
  · rintro ⟨edge, grouped⟩
    rw [grouped.groupWithEdge?_eq]
    rfl

/-- A row is always made into a tree. -/
theorem group?_isSome (first : Expr) (row : List (BinaryOp × Expr)) :
    (group? first [] row).isSome = true := by
  obtain ⟨result, edge, grouping, -⟩ := (Grouped.operand first).groupWithEdge row
  rw [group?_eq, grouping]
  rfl

end Expr

end RewardFormula
