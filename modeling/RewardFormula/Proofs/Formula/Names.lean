import RewardFormula.Proofs.Formula.RoundTrip
import RewardFormula.Proofs.Formula.WellFormed

/-!
# Names in their places

A name may be a variable, the target of an assignment, or a property. The check
of names, the reader of names and the readers of these three places agree on
what a name is: one direction is that valid names are spelled by themselves, the
other that whatever is read is well formed.
-/

namespace RewardFormula

open Grammar

theorem Expr.wellFormed_of_parsed {source : String} {tree : Expr}
    (parsed : parseExpr source = .ok tree) : tree.WellFormed := by
  obtain ⟨-, before, after, -, derived, -⟩ := parseExpr_eq_ok_iff.1 parsed
  exact derived.wellFormed

theorem Formula.wellFormed_of_parsed {source : String} {tree : Formula}
    (parsed : parseFormula source = .ok tree) : tree.WellFormed := by
  obtain ⟨-, before, after, -, derived, -⟩ := parseFormula_eq_ok_iff.1 parsed
  exact derived.wellFormed

theorem Expr.WellFormed.isValid_var {name : String} (wellFormed : (Expr.var name).WellFormed) :
    Name.isValid name = true := by
  cases wellFormed with
  | var valid =>
      exact valid

theorem Expr.WellFormed.isValid_field {base : Expr} {field : String}
    (wellFormed : (Expr.deref base field).WellFormed) : Name.isValid field = true := by
  cases wellFormed with
  | deref _ _ valid =>
      exact valid

theorem Formula.WellFormed.isValid_target {name : String} {value : Expr}
    (wellFormed : (Formula.single name value).WellFormed) : Name.isValid name = true := by
  cases wellFormed with
  | assignments _ ofItems =>
      cases ofItems (.assign name value) (List.mem_singleton_self _) with
      | assign valid _ =>
          exact valid

/-- The text of a reference is read as the reference. -/
theorem parseExpr_reference (tree : Expr) (reference : tree.isReference = true)
    (writable : tree.isWritable = true) : parseExpr tree.text = .ok tree := by
  have spelled := (tree.spelled writable).expression
  rw [tree.withExplicitSigns_of_isReference reference] at spelled
  exact parseExpr_eq_ok_iff.2 ⟨spelled.ascii, spelled.derivesText Expression.beginsOperand⟩

/-- The text of an assignment of zero is read as that assignment. -/
theorem parseFormula_zero {name : String} (valid : Name.isValid name = true) :
    parseFormula (name ++ " = 0") = .ok (.single name (.const 0)) := by
  have finite : Binary64.isFinite 0 = true := by decide
  have spelledZero : Spells Expression "0" (.const 0) :=
    (spells_constant finite).change fun operand => .sum operand.sum
  have spelled : Spells FormulaRule (name ++ " = " ++ "0") (.single name (.const 0)) :=
    (Spells.assigned valid spelledZero).change
      fun derived => .assignments (.mk (.mk derived .none) .absent)
  rw [String.append_assoc] at spelled
  exact parseFormula_eq_ok_iff.2 ⟨spelled.ascii, spelled.derivesText FormulaRule.beginsOperand⟩

/-- The reader of names takes the whole of a text exactly if it is a valid name. -/
theorem isValid_iff_name_reads {name : String} :
    Name.isValid name = true ↔ ∃ word, Reader.name name.toList = .read word [] := by
  constructor
  · intro valid
    exact ⟨name, Reader.name_eq_read.2 ⟨(List.append_nil _).symm, valid, endsBefore_nil⟩⟩
  · rintro ⟨word, reading⟩
    obtain ⟨split, valid, -⟩ := Reader.name_eq_read.1 reading
    rw [List.append_nil, String.toList_inj] at split
    rwa [split]

/-- The name of a property is read behind its mark. -/
theorem parseExpr_field {field : String} (valid : Name.isValid field = true) :
    parseExpr ("x." ++ field) = .ok (.deref (.var "x") field) := by
  have writable : Expr.isWritable (.deref (.var "x") field) = true := by
    change (Expr.isReference (.var "x") && Expr.isWritable (.var "x") && Name.isValid field) = true
    rw [valid]
    decide
  have read := parseExpr_reference (.deref (.var "x") field) rfl writable
  have text : "x" ++ "." ++ field = "x." ++ field := by
    rw [← String.toList_inj]
    simp
  change parseExpr ("x" ++ "." ++ field) = _ at read
  rwa [text] at read

/-- A text is a valid name exactly if the reader of names takes all of it, exactly
if it is read as the variable of that name, exactly if it is assigned to in front
of the sign of assignments, and exactly if it is a property behind its mark. -/
theorem isValid_iff_read (name : String) :
    (Name.isValid name = true ↔ ∃ word, Reader.name name.toList = .read word []) ∧
    (Name.isValid name = true ↔ parseExpr name = .ok (.var name)) ∧
    (Name.isValid name = true ↔
      parseFormula (name ++ " = 0") = .ok (.single name (.const 0))) ∧
    (Name.isValid name = true ↔
      parseExpr ("x." ++ name) = .ok (.deref (.var "x") name)) := by
  refine ⟨isValid_iff_name_reads, ⟨?alone, fun parsed => ?ofAlone⟩,
    ⟨parseFormula_zero, fun parsed => ?ofTarget⟩, ⟨parseExpr_field, fun parsed => ?ofProperty⟩⟩
  case alone =>
    exact fun valid => parseExpr_reference (.var name) rfl valid
  case ofAlone =>
    exact (Expr.wellFormed_of_parsed parsed).isValid_var
  case ofTarget =>
    exact (Formula.wellFormed_of_parsed parsed).isValid_target
  case ofProperty =>
    exact (Expr.wellFormed_of_parsed parsed).isValid_field

end RewardFormula
