import RewardFormula.Formula
import RewardFormula.Proofs.Number.Printed
import RewardFormula.Source.Token

/-!
# Trees that can be written

A tree can be written if its names are valid names, properties and loops are of
references, and its constants are finite. Numerals have no sign, so that a
constant with a sign is written as the negation of one without.
-/

namespace RewardFormula

open Binary64

mutual

def Expr.isWritable : Expr → Bool
  | .const value => isFinite value
  | .var name => Name.isValid name
  | .deref base field => base.isReference && base.isWritable && Name.isValid field
  | .unary _ inner => inner.isWritable
  | .binary _ left right => left.isWritable && right.isWritable
  | .call name arguments => Name.isValid name && Expr.areWritable arguments
  | .ternary condition accepted rejected =>
    condition.isWritable && accepted.isWritable && rejected.isWritable
  | .loop element base none body result =>
    Name.isValid element && base.isReference && base.isWritable &&
      Assignment.areWritable body && Name.isValid result
  | .loop element base (some exclusion) body result =>
    Name.isValid element && base.isReference && base.isWritable &&
      exclusion.isReference && exclusion.isWritable &&
      Assignment.areWritable body && Name.isValid result
termination_by structural expr => expr

def Expr.areWritable : List Expr → Bool
  | [] => true
  | first :: rest => first.isWritable && Expr.areWritable rest
termination_by structural exprs => exprs

def Condition.isWritable : Condition → Bool
  | .literal _ => true
  | .compare _ left right => left.isWritable && right.isWritable
  | .logical _ left right => left.isWritable && right.isWritable
termination_by structural condition => condition

def Assignment.isWritable : Assignment → Bool
  | .assign name value => Name.isValid name && value.isWritable
termination_by structural assignment => assignment

def Assignment.areWritable : List Assignment → Bool
  | [] => true
  | first :: rest => first.isWritable && Assignment.areWritable rest
termination_by structural assignments => assignments

end

/-- A formula has at least one assignment or is a declaration. -/
def Formula.isWritable : Formula → Bool
  | .assignments items => !items.isEmpty && Assignment.areWritable items
  | .function name parameters body =>
    Name.isValid name && parameters.all Name.isValid && body.isWritable

mutual

def Expr.constants : Expr → List Float
  | .const value => [value]
  | .var _ => []
  | .deref base _ => base.constants
  | .unary _ inner => inner.constants
  | .binary _ left right => left.constants ++ right.constants
  | .call _ arguments => Expr.allConstants arguments
  | .ternary condition accepted rejected =>
    condition.constants ++ (accepted.constants ++ rejected.constants)
  | .loop _ base none body _ => base.constants ++ Assignment.allConstants body
  | .loop _ base (some exclusion) body _ =>
    base.constants ++ (exclusion.constants ++ Assignment.allConstants body)
termination_by structural expr => expr

def Expr.allConstants : List Expr → List Float
  | [] => []
  | first :: rest => first.constants ++ Expr.allConstants rest
termination_by structural exprs => exprs

def Condition.constants : Condition → List Float
  | .literal _ => []
  | .compare _ left right => left.constants ++ right.constants
  | .logical _ left right => left.constants ++ right.constants
termination_by structural condition => condition

def Assignment.constants : Assignment → List Float
  | .assign _ value => value.constants
termination_by structural assignment => assignment

def Assignment.allConstants : List Assignment → List Float
  | [] => []
  | first :: rest => first.constants ++ Assignment.allConstants rest
termination_by structural assignments => assignments

end

def Formula.constants : Formula → List Float
  | .assignments items => Assignment.allConstants items
  | .function _ _ body => body.constants

mutual

/-- The expression with the signs of its constants as negations. -/
def Expr.withExplicitSigns : Expr → Expr
  | .const value => if isNegative value then .unary .neg (.const (-value)) else .const value
  | .var name => .var name
  | .deref base field => .deref base.withExplicitSigns field
  | .unary op inner => .unary op inner.withExplicitSigns
  | .binary op left right => .binary op left.withExplicitSigns right.withExplicitSigns
  | .call name arguments => .call name (Expr.allWithExplicitSigns arguments)
  | .ternary condition accepted rejected =>
    .ternary condition.withExplicitSigns accepted.withExplicitSigns rejected.withExplicitSigns
  | .loop element base none body result =>
    .loop element base.withExplicitSigns none (Assignment.allWithExplicitSigns body) result
  | .loop element base (some exclusion) body result =>
    .loop element base.withExplicitSigns (some exclusion.withExplicitSigns)
      (Assignment.allWithExplicitSigns body) result
termination_by structural expr => expr

def Expr.allWithExplicitSigns : List Expr → List Expr
  | [] => []
  | first :: rest => first.withExplicitSigns :: Expr.allWithExplicitSigns rest
termination_by structural exprs => exprs

def Condition.withExplicitSigns : Condition → Condition
  | .literal value => .literal value
  | .compare op left right => .compare op left.withExplicitSigns right.withExplicitSigns
  | .logical op left right => .logical op left.withExplicitSigns right.withExplicitSigns
termination_by structural condition => condition

def Assignment.withExplicitSigns : Assignment → Assignment
  | .assign name value => .assign name value.withExplicitSigns
termination_by structural assignment => assignment

def Assignment.allWithExplicitSigns : List Assignment → List Assignment
  | [] => []
  | first :: rest => first.withExplicitSigns :: Assignment.allWithExplicitSigns rest
termination_by structural assignments => assignments

end

def Formula.withExplicitSigns : Formula → Formula
  | .assignments items => .assignments (Assignment.allWithExplicitSigns items)
  | .function name parameters body => .function name parameters body.withExplicitSigns

/-- References have no constants. -/
theorem Expr.withExplicitSigns_of_isReference (tree : Expr) (reference : tree.isReference = true) :
    tree.withExplicitSigns = tree := by
  match tree with
  | .var _ =>
      rfl
  | .deref base field =>
      rw [Expr.withExplicitSigns, base.withExplicitSigns_of_isReference reference]
termination_by structural tree

/-- None of the numbers has its sign set, so that no zero among them is the
negative one. -/
def Unsigned (constants : List Float) : Prop :=
  ∀ value ∈ constants, isNegative value = false

theorem unsigned_append {constants constants' : List Float} :
    Unsigned (constants ++ constants') ↔ Unsigned constants ∧ Unsigned constants' :=
  List.forall_mem_append

mutual

/-- A tree whose constants have no signs is left as it is. -/
theorem Expr.withExplicitSigns_eq (tree : Expr) (unsigned : Unsigned tree.constants) :
    tree.withExplicitSigns = tree := by
  match tree with
  | .const value =>
      simp only [Expr.withExplicitSigns, unsigned value (by simp [Expr.constants]),
        Bool.false_eq_true, if_false]
  | .var _ =>
      rfl
  | .deref base field =>
      rw [Expr.withExplicitSigns, base.withExplicitSigns_eq unsigned]
  | .unary op inner =>
      rw [Expr.withExplicitSigns, inner.withExplicitSigns_eq unsigned]
  | .binary op left right =>
      obtain ⟨ofLeft, ofRight⟩ := unsigned_append.1 unsigned
      rw [Expr.withExplicitSigns, left.withExplicitSigns_eq ofLeft,
        right.withExplicitSigns_eq ofRight]
  | .call name arguments =>
      rw [Expr.withExplicitSigns, Expr.allWithExplicitSigns_eq arguments unsigned]
  | .ternary condition accepted rejected =>
      obtain ⟨ofCondition, ofBranches⟩ := unsigned_append.1 unsigned
      obtain ⟨ofAccepted, ofRejected⟩ := unsigned_append.1 ofBranches
      rw [Expr.withExplicitSigns, condition.withExplicitSigns_eq ofCondition,
        accepted.withExplicitSigns_eq ofAccepted, rejected.withExplicitSigns_eq ofRejected]
  | .loop element base none body result =>
      obtain ⟨ofBase, ofBody⟩ := unsigned_append.1 unsigned
      rw [Expr.withExplicitSigns, base.withExplicitSigns_eq ofBase,
        Assignment.allWithExplicitSigns_eq body ofBody]
  | .loop element base (some exclusion) body result =>
      obtain ⟨ofBase, ofOthers⟩ := unsigned_append.1 unsigned
      obtain ⟨ofExclusion, ofBody⟩ := unsigned_append.1 ofOthers
      rw [Expr.withExplicitSigns, base.withExplicitSigns_eq ofBase,
        exclusion.withExplicitSigns_eq ofExclusion, Assignment.allWithExplicitSigns_eq body ofBody]
termination_by structural tree

theorem Expr.allWithExplicitSigns_eq (trees : List Expr)
    (unsigned : Unsigned (Expr.allConstants trees)) : Expr.allWithExplicitSigns trees = trees := by
  match trees with
  | [] =>
      rfl
  | first :: rest =>
      obtain ⟨ofFirst, ofRest⟩ := unsigned_append.1 unsigned
      rw [Expr.allWithExplicitSigns, first.withExplicitSigns_eq ofFirst,
        Expr.allWithExplicitSigns_eq rest ofRest]
termination_by structural trees

theorem Condition.withExplicitSigns_eq (test : Condition) (unsigned : Unsigned test.constants) :
    test.withExplicitSigns = test := by
  match test with
  | .literal _ =>
      rfl
  | .compare op left right =>
      obtain ⟨ofLeft, ofRight⟩ := unsigned_append.1 unsigned
      rw [Condition.withExplicitSigns, left.withExplicitSigns_eq ofLeft,
        right.withExplicitSigns_eq ofRight]
  | .logical op left right =>
      obtain ⟨ofLeft, ofRight⟩ := unsigned_append.1 unsigned
      rw [Condition.withExplicitSigns, left.withExplicitSigns_eq ofLeft,
        right.withExplicitSigns_eq ofRight]
termination_by structural test

theorem Assignment.withExplicitSigns_eq (item : Assignment) (unsigned : Unsigned item.constants) :
    item.withExplicitSigns = item := by
  match item with
  | .assign name value =>
      rw [Assignment.withExplicitSigns, value.withExplicitSigns_eq unsigned]
termination_by structural item

theorem Assignment.allWithExplicitSigns_eq (items : List Assignment)
    (unsigned : Unsigned (Assignment.allConstants items)) :
    Assignment.allWithExplicitSigns items = items := by
  match items with
  | [] =>
      rfl
  | first :: rest =>
      obtain ⟨ofFirst, ofRest⟩ := unsigned_append.1 unsigned
      rw [Assignment.allWithExplicitSigns, first.withExplicitSigns_eq ofFirst,
        Assignment.allWithExplicitSigns_eq rest ofRest]
termination_by structural items

end

theorem Formula.withExplicitSigns_eq (tree : Formula) (unsigned : Unsigned tree.constants) :
    tree.withExplicitSigns = tree := by
  cases tree with
  | assignments items =>
      rw [Formula.withExplicitSigns, Assignment.allWithExplicitSigns_eq items unsigned]
  | function name parameters body =>
      rw [Formula.withExplicitSigns, body.withExplicitSigns_eq unsigned]

end RewardFormula
