import RewardFormula.Formula.Text
import RewardFormula.Proofs.Formula.Writable

/-!
# Infinities as names

A numeral past the largest double stands for the infinity, which no numeral
writes: its text is a name. So a tree with infinities has the text of the tree
that has variables in their place.
-/

namespace RewardFormula

open Binary64

theorem Binary64.nearestMagnitude_le (numerator denominator : Nat) :
    nearestMagnitude numerator denominator ≤ infinityBits := by
  unfold nearestMagnitude
  split
  · exact Nat.zero_le _
  · exact min_le_left _ _

theorem Decimal.magnitude_le (decimal : Decimal) : decimal.magnitude ≤ infinityBits := by
  unfold Decimal.magnitude
  dsimp only
  split
  · exact Nat.zero_le _
  · split
    · exact le_rfl
    · exact nearestMagnitude_le _ _

theorem isNegative_toFloat (decimal : Decimal) : isNegative (decimal.toFloat false) = false :=
  isNegative_ofMagnitude decimal.magnitude_le

theorem isNaN_toFloat (decimal : Decimal) : (decimal.toFloat false).isNaN = false := by
  have bound := decimal.magnitude_le
  rw [← Bool.not_eq_true, isNaN_iff, Decimal.toFloat, magnitudeOf_ofMagnitude bound, not_lt]
  exact bound

/-- A number without a sign is finite or the infinity. -/
theorem eq_infinity_of_not_finite {value : Float} (number : value.isNaN = false)
    (unsigned : isNegative value = false) (infinite : isFinite value = false) :
    value = infinity false := by
  rw [← Bool.not_eq_true, isNaN_iff, not_lt] at number
  rw [isFinite, decide_eq_false_iff_not, not_lt] at infinite
  calc value = ofMagnitude (isNegative value) (magnitudeOf value) :=
        (ofMagnitude_magnitudeOf number).symm
    _ = infinity false := by
        rw [unsigned, Nat.le_antisymm number infinite, infinity]

/-- A finite double equals itself as a number. -/
theorem beq_self_of_finite {value : Float} (finite : isFinite value = true) :
    (value == value) = true := by
  apply Float.beq_self_iff.2
  intro nan
  rw [nan] at finite
  revert finite
  decide

mutual

/-- The expression with a variable in the place of every constant that is not
finite. -/
def Expr.withNamedInfinities : Expr → Expr
  | .const value => if isFinite value then .const value else .var "inf"
  | .var name => .var name
  | .deref base field => .deref base.withNamedInfinities field
  | .unary op inner => .unary op inner.withNamedInfinities
  | .binary op left right => .binary op left.withNamedInfinities right.withNamedInfinities
  | .call name arguments => .call name (Expr.allWithNamedInfinities arguments)
  | .ternary condition accepted rejected =>
    .ternary condition.withNamedInfinities accepted.withNamedInfinities
      rejected.withNamedInfinities
  | .loop element base none body result =>
    .loop element base.withNamedInfinities none (Assignment.allWithNamedInfinities body) result
  | .loop element base (some exclusion) body result =>
    .loop element base.withNamedInfinities (some exclusion.withNamedInfinities)
      (Assignment.allWithNamedInfinities body) result
termination_by structural expr => expr

def Expr.allWithNamedInfinities : List Expr → List Expr
  | [] => []
  | first :: rest => first.withNamedInfinities :: Expr.allWithNamedInfinities rest
termination_by structural exprs => exprs

def Condition.withNamedInfinities : Condition → Condition
  | .literal value => .literal value
  | .compare op left right => .compare op left.withNamedInfinities right.withNamedInfinities
  | .logical op left right => .logical op left.withNamedInfinities right.withNamedInfinities
termination_by structural condition => condition

def Assignment.withNamedInfinities : Assignment → Assignment
  | .assign name value => .assign name value.withNamedInfinities
termination_by structural assignment => assignment

def Assignment.allWithNamedInfinities : List Assignment → List Assignment
  | [] => []
  | first :: rest => first.withNamedInfinities :: Assignment.allWithNamedInfinities rest
termination_by structural assignments => assignments

end

def Formula.withNamedInfinities : Formula → Formula
  | .assignments items => .assignments (Assignment.allWithNamedInfinities items)
  | .function name parameters body => .function name parameters body.withNamedInfinities

/-- None of the numbers is infinite or a not-a-number. -/
def AllFinite (constants : List Float) : Prop :=
  ∀ value ∈ constants, isFinite value = true

theorem allFinite_append {constants constants' : List Float} :
    AllFinite (constants ++ constants') ↔ AllFinite constants ∧ AllFinite constants' :=
  List.forall_mem_append

mutual

/-- The tree with its infinities named is the same tree just if it has none. -/
theorem Expr.beq_withNamedInfinities (tree : Expr) :
    tree.withNamedInfinities.beq tree = true ↔ AllFinite tree.constants := by
  match tree with
  | .const value =>
      rw [Expr.withNamedInfinities]
      split
      next finite =>
        simp [Expr.beq, Expr.constants, AllFinite, finite, beq_self_of_finite finite]
      next infinite =>
        simp [Expr.beq, Expr.constants, AllFinite, infinite]
  | .var name =>
      simp [Expr.withNamedInfinities, Expr.beq, Expr.constants, AllFinite]
  | .deref base field =>
      simp [Expr.withNamedInfinities, Expr.beq, Expr.constants, base.beq_withNamedInfinities]
  | .unary op inner =>
      simp [Expr.withNamedInfinities, Expr.beq, Expr.constants, inner.beq_withNamedInfinities]
  | .binary op left right =>
      simp [Expr.withNamedInfinities, Expr.beq, Expr.constants, allFinite_append,
        left.beq_withNamedInfinities, right.beq_withNamedInfinities]
  | .call name arguments =>
      simp [Expr.withNamedInfinities, Expr.beq, Expr.constants,
        Expr.beqList_withNamedInfinities arguments]
  | .ternary condition accepted rejected =>
      simp [Expr.withNamedInfinities, Expr.beq, Expr.constants, allFinite_append,
        condition.beq_withNamedInfinities, accepted.beq_withNamedInfinities,
        rejected.beq_withNamedInfinities, and_assoc]
  | .loop element base none body result =>
      simp [Expr.withNamedInfinities, Expr.beq, Expr.constants, allFinite_append,
        base.beq_withNamedInfinities, Assignment.beqList_withNamedInfinities body]
  | .loop element base (some exclusion) body result =>
      simp [Expr.withNamedInfinities, Expr.beq, Expr.constants, allFinite_append,
        base.beq_withNamedInfinities, exclusion.beq_withNamedInfinities,
        Assignment.beqList_withNamedInfinities body, and_assoc]
termination_by structural tree

theorem Expr.beqList_withNamedInfinities (trees : List Expr) :
    Expr.beqList (Expr.allWithNamedInfinities trees) trees = true ↔
      AllFinite (Expr.allConstants trees) := by
  match trees with
  | [] =>
      simp [Expr.allWithNamedInfinities, Expr.beqList, Expr.allConstants, AllFinite]
  | first :: rest =>
      simp [Expr.allWithNamedInfinities, Expr.beqList, Expr.allConstants, allFinite_append,
        first.beq_withNamedInfinities, Expr.beqList_withNamedInfinities rest]
termination_by structural trees

theorem Condition.beq_withNamedInfinities (test : Condition) :
    test.withNamedInfinities.beq test = true ↔ AllFinite test.constants := by
  match test with
  | .literal value =>
      simp [Condition.withNamedInfinities, Condition.beq, Condition.constants, AllFinite]
  | .compare op left right =>
      simp [Condition.withNamedInfinities, Condition.beq, Condition.constants, allFinite_append,
        left.beq_withNamedInfinities, right.beq_withNamedInfinities]
  | .logical op left right =>
      simp [Condition.withNamedInfinities, Condition.beq, Condition.constants, allFinite_append,
        left.beq_withNamedInfinities, right.beq_withNamedInfinities]
termination_by structural test

theorem Assignment.beq_withNamedInfinities (item : Assignment) :
    item.withNamedInfinities.beq item = true ↔ AllFinite item.constants := by
  match item with
  | .assign name value =>
      simp [Assignment.withNamedInfinities, Assignment.beq, Assignment.constants,
        value.beq_withNamedInfinities]
termination_by structural item

theorem Assignment.beqList_withNamedInfinities (items : List Assignment) :
    Assignment.beqList (Assignment.allWithNamedInfinities items) items = true ↔
      AllFinite (Assignment.allConstants items) := by
  match items with
  | [] =>
      simp [Assignment.allWithNamedInfinities, Assignment.beqList, Assignment.allConstants,
        AllFinite]
  | first :: rest =>
      simp [Assignment.allWithNamedInfinities, Assignment.beqList, Assignment.allConstants,
        allFinite_append, first.beq_withNamedInfinities,
        Assignment.beqList_withNamedInfinities rest]
termination_by structural items

end

theorem Formula.beq_withNamedInfinities (tree : Formula) :
    tree.withNamedInfinities.beq tree = true ↔ AllFinite tree.constants := by
  cases tree with
  | assignments items =>
      exact Assignment.beqList_withNamedInfinities items
  | function name parameters body =>
      simp [Formula.withNamedInfinities, Formula.beq, Formula.constants,
        body.beq_withNamedInfinities]

end RewardFormula
