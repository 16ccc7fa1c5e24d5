import RewardFormula.Proofs.Source.Spelling

/-!
# Formulas, expressions and conditions

No source is of two kinds. What stands before the sign of an assignment is a sum of
its own, which no longer expression or condition begins with. So a bare expression
can be taken as an assignment without giving a formula another meaning.
-/

namespace RewardFormula

namespace Grammar

variable {source rest rest' : List Char}

/-- The reader of terms finds one value, and so no source has two. -/
theorem Term.unique {value value' : Term} (first : TermRule Expression Logical source value rest)
    (ends : StopsBefore afterTerm rest)
    (second : TermRule Expression Logical source value' rest')
    (ends' : StopsBefore afterTerm rest') : value = value' := by
  have complete := (Reader.term_complete source).complete
  have reading := complete (Nat.lt_succ_self _) first ends
  have reading' := complete (Nat.lt_succ_self _) second ends'
  exact (Reply.read.inj (reading.symm.trans reading')).1

/-- A sum is as long as possible. -/
theorem Sum.unique {tree tree' : Expr} (first : Sum source tree rest)
    (ends : StopsBefore afterSum rest) (second : Sum source tree' rest')
    (ends' : StopsBefore afterSum rest') : rest = rest' := by
  let bound := source.length + 1
  let depth := 2 * bound
  have complete := Reader.sum_complete (Reader.operand_consumes depth)
    ((Reader.operand_and_term_complete bound depth).1 (Nat.le_succ _))
  have reading := complete (Nat.lt_succ_self _) (.arithmetic first) ends
  have reading' := complete (Nat.lt_succ_self _) (.arithmetic second) ends'
  exact (Reply.read.inj (reading.symm.trans reading')).2

/-- The source begins with a name, and with a sum before the sign of an assignment. -/
def BeginsAssigned (source : List Char) : Prop :=
  (∃ name afterName, VariableName source name afterName) ∧
    ∃ tree middle tail, Sum source tree middle ∧ Layout middle ('=' :: tail) ∧
      EndsBefore (· == '=') tail

/-- No whole source of a condition begins so, nor does one of an expression: the sum
could only go on with the sign of a comparison. -/
theorem BeginsAssigned.not_term (begins : BeginsAssigned source) {value : Term}
    (derived : TermRule Expression Logical source value rest) : ¬ Layout rest [] := by
  obtain ⟨⟨name, afterName, named⟩, tree, middle, tail, sum, sign, single⟩ := begins
  have sumEnds : StopsBefore afterSum middle := .of_layout sign (by decide)
  have noLogical : ∀ {test : Condition} {rest : List Char}, ¬ Logical source test rest := by
    intro test rest derived
    obtain ⟨first, -⟩ := derived
    cases first with
    | literal found =>
        obtain ⟨word, reserved, keyword⟩ := found.reserved
        exact keyword.not_variableName reserved named
    | enclosed =>
        obtain ⟨c, tail, split, isStart⟩ := named.begins
        cases split
        cases isStart
    | @comparison _ _ _ _ op _ _ left mark =>
        rw [sum.unique sumEnds left (Reader.comparisonSign_stops mark)] at sign
        obtain ⟨_, after, layout, rfl, -⟩ := mark
        have same := sign.unique layout
        cases op <;> cases same
        exact absurd (single '=' rfl) (by decide)
  intro ends
  cases derived with
  | condition derived =>
      exact noLogical derived
  | arithmetic derived =>
      cases derived with
      | ternary test =>
          exact noLogical test
      | sum derived =>
          rw [sum.unique sumEnds derived (.of_end ends)] at sign
          cases ends.unique sign

theorem VariableName.sum {name : String} (named : VariableName source name rest) :
    Sum source (.var name) rest :=
  (Operand.reference (.mk named .none)).sum

theorem Many.variables {mark : Rule Unit} {names : List String}
    (derived : Many (After mark VariableName) source names rest) :
    Many (After mark Expression) source (names.map .var) rest := by
  induction derived with
  | none =>
      exact .none
  | more first _ inductionHypothesis =>
      obtain ⟨separator, named⟩ := first
      exact .more (.mk separator (.sum named.sum)) inductionHypothesis

theorem SeparatedOrNone.variables {mark : Rule Unit} {names : List String}
    (derived : SeparatedOrNone mark VariableName source names rest) :
    SeparatedOrNone mark Expression source (names.map .var) rest := by
  cases derived with
  | none =>
      exact .none
  | some separated =>
      obtain ⟨first, others⟩ := separated
      exact .some (.mk (.sum first.sum) others.variables)

/-- The front of a declaration is a call, with the parameters as variables. -/
theorem FormulaRule.beginsAssigned {tree : Formula} (derived : FormulaRule source tree rest) :
    BeginsAssigned source := by
  cases derived with
  | declaration derived =>
      obtain ⟨named, opens, begins, parameters, closes, sign, body, -⟩ := derived
      obtain ⟨before, after, layout, rfl, layoutBehind⟩ := sign
      have call := Operand.call (.mk named opens begins parameters.variables closes)
      exact ⟨⟨_, _, named⟩, _, _, _, call.sum, layout,
        body.beginsOperand.endsBefore_equals layoutBehind⟩
  | assignments derived =>
      obtain ⟨⟨⟨named, sign, value⟩, -⟩, -⟩ := derived
      obtain ⟨before, after, layout, rfl, layoutBehind⟩ := sign
      exact ⟨⟨_, _, named⟩, _, _, _, named.sum, layout,
        value.beginsOperand.endsBefore_equals layoutBehind⟩

section Texts

variable {text : String} {formula : Formula} {tree : Expr} {test : Condition}

theorem Derives.formula_not_expression (ofFormula : Derives FormulaRule text formula) :
    ¬ Derives Expression text tree := by
  rintro ⟨before', after', layout', derived', ends'⟩
  obtain ⟨before, after, layout, derived, -⟩ := ofFormula
  obtain rfl := layout.unique layout'
  exact derived.beginsAssigned.not_term (.arithmetic derived') ends'

theorem Derives.formula_not_condition (ofFormula : Derives FormulaRule text formula) :
    ¬ Derives Logical text test := by
  rintro ⟨before', after', layout', derived', ends'⟩
  obtain ⟨before, after, layout, derived, -⟩ := ofFormula
  obtain rfl := layout.unique layout'
  exact derived.beginsAssigned.not_term (.condition derived') ends'

theorem Derives.expression_not_condition (ofExpression : Derives Expression text tree) :
    ¬ Derives Logical text test := by
  rintro ⟨before', after', layout', derived', ends'⟩
  obtain ⟨before, after, layout, derived, ends⟩ := ofExpression
  obtain rfl := layout.unique layout'
  cases Term.unique (.arithmetic derived) (.of_end ends) (.condition derived') (.of_end ends')

/-- An expression may be assigned. -/
theorem Derives.assigned {name : String} (valid : Name.isValid name = true)
    (ofExpression : Derives Expression text tree) :
    Derives FormulaRule (name ++ " = " ++ text) (.single name tree) := by
  obtain ⟨before, after, layout, derived, ends⟩ := ofExpression
  have named : VariableName (name.toList ++ ' ' :: '=' :: ' ' :: text.toList) name
      (' ' :: '=' :: ' ' :: text.toList) := by
    refine ⟨rfl, valid, ?_⟩
    rintro _ ⟨⟩
    rfl
  have sign : Spaced (Sign '=') (' ' :: '=' :: ' ' :: text.toList) () before :=
    ⟨_, _, layout_blank (layout_before rfl (by decide)), rfl, layout_blank layout⟩
  have letters :
      (name ++ " = " ++ text).toList = name.toList ++ ' ' :: '=' :: ' ' :: text.toList := by
    simp
  have item : Assigned Expression _ (.assign name tree) after := .mk named sign derived
  rw [Derives, letters]
  exact ⟨_, after, named.beginsOperand.layout, .assignments (.mk (.mk item .none) .absent), ends⟩

end Texts

end Grammar

open Grammar

/-- No source is of two kinds. So a bare expression is read as what its assignment to
the answer is read as, and formulas are read as they are. The fault of a source that
is neither is its fault as a formula. -/
theorem parse_kinds (source : String) :
    (∀ formula tree, parseFormula source = .ok formula → parseExpr source ≠ .ok tree) ∧
    (∀ formula test, parseFormula source = .ok formula → parseCondition source ≠ .ok test) ∧
    (∀ tree test, parseExpr source = .ok tree → parseCondition source ≠ .ok test) ∧
    (∀ tree, parseExpr source = .ok tree →
      parseFormula ("ans = " ++ source) = .ok (.single "ans" tree) ∧
      parseInput source = .ok (.single "ans" tree)) ∧
    (∀ formula, parseFormula source = .ok formula → parseInput source = .ok formula) ∧
    (∀ error error', parseFormula source = .error error → parseExpr source = .error error' →
      parseInput source = .error error) := by
  have formulaOrExpr : ∀ formula tree, parseFormula source = .ok formula →
      parseExpr source ≠ .ok tree := by
    intro formula tree ofFormula ofExpr
    exact (parseFormula_eq_ok_iff.1 ofFormula).2.formula_not_expression
      (parseExpr_eq_ok_iff.1 ofExpr).2
  refine ⟨formulaOrExpr, ?conditions, ?terms, ?expressions, ?formulas, ?faults⟩
  case conditions =>
    intro formula test ofFormula ofCondition
    exact (parseFormula_eq_ok_iff.1 ofFormula).2.formula_not_condition
      (parseCondition_eq_ok_iff.1 ofCondition).2
  case terms =>
    intro tree test ofExpr ofCondition
    exact (parseExpr_eq_ok_iff.1 ofExpr).2.expression_not_condition
      (parseCondition_eq_ok_iff.1 ofCondition).2
  case expressions =>
    intro tree ofExpr
    obtain ⟨ascii, derived⟩ := parseExpr_eq_ok_iff.1 ofExpr
    refine ⟨?_, ?_⟩
    · have words : "ans = " = "ans" ++ " = " := by decide
      have assigned : Derives FormulaRule ("ans" ++ " = " ++ source) (.single "ans" tree) :=
        derived.assigned (by decide)
      rw [words]
      exact parseFormula_eq_ok_iff.2 ⟨isAscii_append.2 ⟨by decide, ascii⟩, assigned⟩
    · cases ofFormula : parseFormula source with
      | ok formula =>
          exact absurd ofExpr (formulaOrExpr formula tree ofFormula)
      | error error =>
          simp only [parseInput, ofFormula, ofExpr, answerName]
  case formulas =>
    intro formula ofFormula
    simp only [parseInput, ofFormula]
  case faults =>
    intro error error' ofFormula ofExpr
    simp only [parseInput, ofFormula, ofExpr]

end RewardFormula
