import RewardFormula.Proofs.Source.Spelling

/-!
# Canonical texts are read back

The canonical text of a tree is read as the tree, except that the signs of its
constants are read as negations. The induction is on the tree: the text spells
it by the rule for its priority, so that an operand without parentheses can be
joined to the row of an operation, and one with parentheses is a row by itself.
-/

namespace RewardFormula

open Grammar

variable {source rest : List Char}

/-- Operands with operators between them, with the tree that groups them and the
operators on its right edge. -/
def Row : Rule (Expr × List BinaryOp) := fun source grouping rest =>
  ∃ first middle row, Operand source first middle ∧
    Many (Then (Spaced BinarySign) Operand) middle row rest ∧
    Grouped first row grouping.1 grouping.2

/-- A row that may be an operand of an operation, which puts operands of certain
priorities in parentheses. -/
def AdmittedRow (encloses : Priority → Bool) : Rule Expr := fun source tree rest =>
  ∃ edge, Row source (tree, edge) rest ∧ ∀ root ∈ edge.head?, encloses root.priority = false

theorem Row.sum {tree : Expr} {edge : List BinaryOp} (row : Row source (tree, edge) rest) :
    Sum source tree rest := by
  obtain ⟨first, middle, items, operand, others, grouped⟩ := row
  exact .mk operand others grouped

theorem AdmittedRow.sum {encloses : Priority → Bool} {tree : Expr}
    (admitted : AdmittedRow encloses source tree rest) : Sum source tree rest := by
  obtain ⟨edge, row, -⟩ := admitted
  exact row.sum

/-- An operand is admitted everywhere. -/
theorem AdmittedRow.of_operand {encloses : Priority → Bool} {tree : Expr}
    (operand : Operand source tree rest) : AdmittedRow encloses source tree rest :=
  ⟨[], ⟨tree, rest, [], operand, .none, .operand tree⟩, by simp⟩

/-- Two rows that an operation admits make a row with the operation between
them. -/
theorem Row.operation {op : BinaryOp} {left right : Expr} {afterLeft atRight : List Char}
    (leftRow : AdmittedRow op.enclosesLeft source left afterLeft)
    (sign : Spaced BinarySign afterLeft op atRight)
    (rightRow : AdmittedRow op.enclosesRight atRight right rest) :
    ∃ edge, Row source (.binary op left right, op :: edge) rest := by
  obtain ⟨leftEdge, ⟨first, middle, before, operand, others, leftGrouped⟩, admitsLeft⟩ := leftRow
  obtain ⟨rightEdge, ⟨first', middle', after, operand', others', rightGrouped⟩, admitsRight⟩ :=
    rightRow
  exact ⟨rightEdge, first, middle, before ++ (op, first') :: after, operand,
    others.append (.more (.mk sign operand') others'),
    .operation leftGrouped rightGrouped admitsLeft admitsRight⟩

/-- The rule by which the text of an expression of this priority spells it. -/
def Priority.rule (priority : Priority) : Rule Expr := fun source tree rest =>
  match priority with
  | .ternary => Expression source tree rest
  | .negation | .primary => Operand source tree rest
  | .addition | .multiplication | .power =>
    ∃ edge, Row source (tree, edge) rest ∧ ∀ root ∈ edge.head?, root.priority = priority

namespace Priority

variable {priority : Priority} {tree : Expr}

theorem operand_of_rule (derived : priority.rule source tree rest)
    (tight : ¬ priority < .negation) : Operand source tree rest := by
  cases priority
  case negation => exact derived
  case primary => exact derived
  all_goals exact absurd (by decide) tight

theorem admittedRow_of_rule {encloses : Priority → Bool} (derived : priority.rule source tree rest)
    (enclosesTernary : encloses .ternary = true) (admits : encloses priority = false) :
    AdmittedRow encloses source tree rest := by
  cases priority
  case ternary =>
    rw [admits] at enclosesTernary
    cases enclosesTernary
  case negation => exact .of_operand derived
  case primary => exact .of_operand derived
  all_goals
    obtain ⟨edge, row, ofPriority⟩ := derived
    refine ⟨edge, row, fun root member => ?_⟩
    rw [ofPriority root member]
    exact admits

theorem expression_of_rule (derived : priority.rule source tree rest) :
    Expression source tree rest := by
  cases admits : priority == .ternary with
  | true =>
      obtain rfl := beq_iff_eq.1 admits
      exact derived
  | false =>
      have row := @admittedRow_of_rule _ _ _ _ (· == .ternary) derived rfl admits
      exact .sum row.sum

theorem rule_of_operation {op : BinaryOp} {left right : Expr} {edge : List BinaryOp}
    (row : Row source (.binary op left right, op :: edge) rest) :
    op.priority.rule source (.binary op left right) rest := by
  have derived : ∃ edge, Row source (.binary op left right, edge) rest ∧
      ∀ root ∈ edge.head?, root.priority = op.priority := by
    refine ⟨op :: edge, row, ?_⟩
    rintro _ ⟨⟩
    rfl
  cases op <;> exact derived

end Priority

namespace Grammar.Spells

variable {text : String} {priority : Priority} {tree : Expr}

theorem expression (spelled : Spells priority.rule text tree) : Spells Expression text tree :=
  spelled.change Priority.expression_of_rule

theorem operand (spelled : Spells priority.rule text tree) :
    Spells Operand (parenthesizedIf (priority < .negation) text) tree := by
  unfold parenthesizedIf
  split
  · exact spelled.expression.enclosed
  next tight =>
    exact spelled.change fun derived =>
      Priority.operand_of_rule derived (by simpa using tight)

theorem admittedRow (encloses : Priority → Bool) (enclosesTernary : encloses .ternary = true)
    (spelled : Spells priority.rule text tree) :
    Spells (AdmittedRow encloses) (parenthesizedIf (encloses priority) text) tree := by
  unfold parenthesizedIf
  split
  · exact spelled.expression.enclosed.change .of_operand
  next admits =>
    exact spelled.change fun derived =>
      Priority.admittedRow_of_rule derived enclosesTernary (by simpa using admits)

end Grammar.Spells

/-- The rule by which the text of a condition spells it. -/
def Condition.rule (test : Condition) : Rule Condition :=
  if test.isLogical then Logical else LogicalAtom

theorem Condition.logical_of_rule {test value : Condition}
    (derived : test.rule source value rest) : Logical source value rest := by
  unfold Condition.rule at derived
  split at derived
  · exact derived
  · exact derived.logical

theorem Grammar.Spells.logical {test value : Condition} {text : String}
    (spelled : Spells test.rule text value) : Spells Logical text value :=
  spelled.change Condition.logical_of_rule

theorem Grammar.Spells.logicalAtom {test value : Condition} {text : String}
    (spelled : Spells test.rule text value) :
    Spells LogicalAtom (parenthesizedIf test.isLogical text) value := by
  unfold Condition.rule at spelled
  unfold parenthesizedIf
  split
  next joins =>
    rw [if_pos joins] at spelled
    exact spelled.enclosedCondition
  next atom =>
    rw [if_neg atom] at spelled
    exact spelled

section Signs

variable {source : List Char}

theorem binarySign_divides (op : BinaryOp) : Divides BinarySign (" " ++ op.symbol ++ " ") op := by
  refine divides_between ?_ ?_ rfl
  · cases op <;> decide
  · cases op <;> simp [BinaryOp.symbol, BeginsLayout, Reader.isBlank]

theorem comparisonSign_divides (op : Comparison) :
    Divides ComparisonSign (" " ++ op.symbol ++ " ") op := by
  refine divides_between ?_ ?_ rfl
  · cases op <;> decide
  · cases op <;> simp [Comparison.symbol, BeginsLayout, Reader.isBlank]

theorem logicalSign_divides (op : LogicalOp) :
    Divides LogicalSign (" " ++ op.symbol ++ " ") op := by
  refine divides_between ?_ ?_ .symbol
  · cases op <;> decide
  · cases op <;> simp [LogicalOp.symbol, BeginsLayout, Reader.isBlank]

end Signs

/-- The texts of operations have the sign with its blanks between their operands. -/
theorem text_around (left symbol right : String) :
    left ++ " " ++ symbol ++ " " ++ right = left ++ (" " ++ symbol ++ " ") ++ right := by
  simp only [String.append_assoc]

namespace Grammar.Spells

variable {text leftText rightText : String}

theorem negation {tree : Expr} (spelled : Spells Operand text tree) :
    Spells Operand ("-" ++ text) (.unary .neg tree) := by
  refine ⟨isAscii_append.2 ⟨by decide, spelled.ascii⟩, fun separate => ?_⟩
  have derived := spelled.derives separate
  have negated := Operand.negation derived.beginsOperand.layout derived
  simpa using negated

theorem operation (op : BinaryOp) {left right : Expr}
    (leftSpelled : Spells (AdmittedRow op.enclosesLeft) leftText left)
    (rightSpelled : Spells (AdmittedRow op.enclosesRight) rightText right) :
    Spells op.priority.rule (leftText ++ " " ++ op.symbol ++ " " ++ rightText)
      (.binary op left right) := by
  rw [text_around]
  refine leftSpelled.divided (binarySign_divides op) rightSpelled
    (fun derived => derived.sum.beginsOperand) fun leftRow sign rightRow => ?_
  obtain ⟨edge, row⟩ := Row.operation leftRow sign rightRow
  exact Priority.rule_of_operation row

theorem comparison (op : Comparison) {left right : Expr} (leftSpelled : Spells Sum leftText left)
    (rightSpelled : Spells Sum rightText right) :
    Spells LogicalAtom (leftText ++ " " ++ op.symbol ++ " " ++ rightText)
      (.compare op left right) := by
  rw [text_around]
  exact leftSpelled.divided (comparisonSign_divides op) rightSpelled Sum.beginsOperand .comparison

/-- A connective is hung over all that stands before it. -/
theorem connection (op : LogicalOp) {left right : Condition}
    (leftSpelled : Spells Logical leftText left)
    (rightSpelled : Spells LogicalAtom rightText right) :
    Spells Logical (leftText ++ " " ++ op.symbol ++ " " ++ rightText) (.logical op left right) := by
  rw [text_around]
  refine leftSpelled.divided (logicalSign_divides op) rightSpelled
    (fun derived => derived.logical.beginsOperand) ?_
  rintro source afterLeft atRight rest ⟨first, row⟩ sign last
  have longer := Logical.mk first (row.snoc (.mk sign last))
  rwa [List.foldl_append] at longer

theorem selection {testText acceptedText rejectedText : String} {test : Condition}
    {accepted rejected : Expr} (testSpelled : Spells Logical testText test)
    (acceptedSpelled : Spells Expression acceptedText accepted)
    (rejectedSpelled : Spells Expression rejectedText rejected) :
    Spells Expression (testText ++ " ? " ++ acceptedText ++ " : " ++ rejectedText)
      (.ternary test accepted rejected) := by
  have selects : Divides (Sign '?') " ? " () :=
    divides_sign_between rfl (by decide) (by decide) rfl
  have condition : Spells (Then (Before Logical (Spaced (Sign '?'))) Expression)
      (testText ++ " ? " ++ acceptedText) (test, accepted) :=
    testSpelled.divided selects acceptedSpelled Expression.beginsOperand
      fun derived sign accepted => .mk (.mk derived sign) accepted
  refine condition.divided colon_divides rejectedSpelled Expression.beginsOperand ?_
  rintro source afterLeft atRight rest ⟨⟨derived, sign⟩, accepted⟩ colon rejected
  exact .ternary derived sign accepted colon rejected

theorem assigned {name : String} {value : Expr} (valid : Name.isValid name = true)
    (spelled : Spells Expression text value) :
    Spells (Assigned Expression) (name ++ " = " ++ text) (.assign name value) :=
  (spells_name valid).divided equals_divides spelled Expression.beginsOperand .mk

end Grammar.Spells

mutual

theorem Expr.spelled (tree : Expr) (writable : tree.isWritable = true) :
    Spells tree.priority.rule tree.text tree.withExplicitSigns := by
  match tree with
  | .const value =>
      exact spells_constant writable
  | .var name =>
      have reference : Expr.isReference (.var name) = true := rfl
      exact (spells_reference reference writable).change .reference
  | .deref base field =>
      have parts := writable
      simp only [Expr.isWritable, Bool.and_eq_true] at parts
      have reference : Expr.isReference (.deref base field) = true := parts.1.1
      exact (spells_reference reference writable).change .reference
  | .unary .neg inner =>
      exact (inner.spelled writable).operand.negation
  | .binary op left right =>
      obtain ⟨leftWritable, rightWritable⟩ := Bool.and_eq_true_iff.1 writable
      refine .operation op ((left.spelled leftWritable).admittedRow op.enclosesLeft ?_)
        ((right.spelled rightWritable).admittedRow op.enclosesRight ?_)
      all_goals cases op <;> rfl
  | .call name arguments =>
      obtain ⟨valid, argumentsWritable⟩ := Bool.and_eq_true_iff.1 writable
      have spelled := Expr.spelled_texts arguments argumentsWritable
      exact (spells_signature Expression.beginsOperand valid spelled).change
        fun signature => .call signature.call
  | .ternary condition accepted rejected =>
      obtain ⟨writable, rejectedWritable⟩ := Bool.and_eq_true_iff.1 writable
      obtain ⟨conditionWritable, acceptedWritable⟩ := Bool.and_eq_true_iff.1 writable
      exact .selection (condition.spelled conditionWritable).logical
        (accepted.spelled acceptedWritable).expression
        (rejected.spelled rejectedWritable).expression
  | .loop element base none body result =>
      simp only [Expr.isWritable, Bool.and_eq_true] at writable
      obtain ⟨⟨⟨⟨elementValid, reference⟩, baseWritable⟩, bodyWritable⟩, resultValid⟩ := writable
      have range := Spells.range elementValid (spells_reference reference baseWritable)
      have spelled := range.loop (Assignment.spelled_statements body bodyWritable) resultValid
      simp only [← String.append_assoc] at spelled
      exact spelled.change .loop
  | .loop element base (some exclusion) body result =>
      simp only [Expr.isWritable, Bool.and_eq_true] at writable
      obtain ⟨⟨⟨⟨⟨⟨elementValid, reference⟩, baseWritable⟩, exclusionReference⟩,
        exclusionWritable⟩, bodyWritable⟩, resultValid⟩ := writable
      have range := (Spells.range elementValid (spells_reference reference baseWritable)).excluding
        (spells_reference exclusionReference exclusionWritable)
      have spelled := range.loop (Assignment.spelled_statements body bodyWritable) resultValid
      simp only [← String.append_assoc] at spelled
      exact spelled.change .loop
termination_by structural tree

theorem Expr.spelled_texts (trees : List Expr) (writable : Expr.areWritable trees = true) :
    List.Forall₂ (Spells Expression) (Expr.texts trees) (Expr.allWithExplicitSigns trees) := by
  match trees with
  | [] =>
      exact .nil
  | first :: rest =>
      obtain ⟨firstWritable, restWritable⟩ := Bool.and_eq_true_iff.1 writable
      exact .cons (first.spelled firstWritable).expression
        (Expr.spelled_texts rest restWritable)
termination_by structural trees

theorem Condition.spelled (test : Condition) (writable : test.isWritable = true) :
    Spells test.rule test.text test.withExplicitSigns := by
  match test with
  | .literal value =>
      exact (spells_boolean value).change .literal
  | .compare op left right =>
      obtain ⟨leftWritable, rightWritable⟩ := Bool.and_eq_true_iff.1 writable
      have leftSpelled := (left.spelled leftWritable).admittedRow (· == .ternary) rfl
      have rightSpelled := (right.spelled rightWritable).admittedRow (· == .ternary) rfl
      exact (leftSpelled.change AdmittedRow.sum).comparison op
        (rightSpelled.change AdmittedRow.sum)
  | .logical op left right =>
      obtain ⟨leftWritable, rightWritable⟩ := Bool.and_eq_true_iff.1 writable
      have leftSpelled := (left.spelled leftWritable).logical
      exact leftSpelled.connection op (right.spelled rightWritable).logicalAtom
termination_by structural test

theorem Assignment.spelled (item : Assignment) (writable : item.isWritable = true) :
    Spells (Assigned Expression) item.text item.withExplicitSigns := by
  match item with
  | .assign name value =>
      obtain ⟨valid, valueWritable⟩ := Bool.and_eq_true_iff.1 writable
      exact .assigned valid (value.spelled valueWritable).expression
termination_by structural item

theorem Assignment.spelled_statements (items : List Assignment)
    (writable : Assignment.areWritable items = true) :
    SpellsBody (Assignment.statements items) (Assignment.allWithExplicitSigns items) := by
  match items with
  | [] =>
      exact ⟨by decide, fun _ => .none⟩
  | first :: rest =>
      obtain ⟨firstWritable, restWritable⟩ := Bool.and_eq_true_iff.1 writable
      exact (Assignment.spelled_statements rest restWritable).cons (first.spelled firstWritable)
termination_by structural items

end

theorem Assignment.spelled_texts {items : List Assignment}
    (writable : Assignment.areWritable items = true) :
    List.Forall₂ (Spells (Assigned Expression)) (items.map Assignment.text)
      (Assignment.allWithExplicitSigns items) := by
  induction items with
  | nil =>
      exact .nil
  | cons first rest inductionHypothesis =>
      obtain ⟨firstWritable, restWritable⟩ := Bool.and_eq_true_iff.1 writable
      exact .cons (first.spelled firstWritable) (inductionHypothesis restWritable)

theorem spells_parameters {parameters : List String}
    (valid : parameters.all Name.isValid = true) :
    List.Forall₂ (Spells VariableName) parameters parameters := by
  induction parameters with
  | nil =>
      exact .nil
  | cons first rest inductionHypothesis =>
      obtain ⟨firstValid, restValid⟩ := Bool.and_eq_true_iff.1 valid
      exact .cons (spells_name firstValid) (inductionHypothesis restValid)

theorem Formula.spelled {tree : Formula} (writable : tree.isWritable = true) :
    Spells FormulaRule tree.text tree.withExplicitSigns := by
  cases tree with
  | assignments items =>
      obtain ⟨nonempty, itemsWritable⟩ := Bool.and_eq_true_iff.1 writable
      have spelled := spells_separated Assigned.beginsOperand semicolon_divides
        (Assignment.spelled_texts itemsWritable) (by simpa using nonempty)
      exact spelled.change fun derived => .assignments (.mk derived .absent)
  | function name parameters body =>
      obtain ⟨valid, bodyWritable⟩ := Bool.and_eq_true_iff.1 writable
      obtain ⟨nameValid, parametersValid⟩ := Bool.and_eq_true_iff.1 valid
      have signature : Spells (Signature VariableName) _ (name, parameters) :=
        spells_signature VariableName.beginsOperand nameValid (spells_parameters parametersValid)
      have bodySpelled := (body.spelled bodyWritable).expression
      have declared := signature.divided equals_divides bodySpelled Expression.beginsOperand
        Signature.declaration
      have text : name ++ "(" ++ String.intercalate ", " parameters ++ ")" ++ " = " ++ body.text =
          Formula.text (.function name parameters body) := by
        rw [← String.toList_inj]
        simp [Formula.text]
      rw [text] at declared
      exact declared.change .declaration

/-- The text of a tree that can be written is read as the tree with its signs as
negations, and so as the tree itself if none of its constants has a sign. -/
theorem parse_text :
    (∀ tree : Expr, tree.isWritable = true →
      parseExpr tree.text = .ok tree.withExplicitSigns ∧
        (Unsigned tree.constants → parseExpr tree.text = .ok tree)) ∧
    (∀ test : Condition, test.isWritable = true →
      parseCondition test.text = .ok test.withExplicitSigns ∧
        (Unsigned test.constants → parseCondition test.text = .ok test)) ∧
    (∀ tree : Formula, tree.isWritable = true →
      parseFormula tree.text = .ok tree.withExplicitSigns ∧
        (Unsigned tree.constants → parseFormula tree.text = .ok tree)) := by
  refine ⟨fun tree writable => ?_, fun test writable => ?_, fun tree writable => ?_⟩
  · have spelled := (tree.spelled writable).expression
    have read := parseExpr_eq_ok_iff.2
      ⟨spelled.ascii, spelled.derivesText Expression.beginsOperand⟩
    exact ⟨read, fun unsigned => by rwa [tree.withExplicitSigns_eq unsigned] at read⟩
  · have spelled := (test.spelled writable).logical
    have read := parseCondition_eq_ok_iff.2
      ⟨spelled.ascii, spelled.derivesText Logical.beginsOperand⟩
    exact ⟨read, fun unsigned => by rwa [test.withExplicitSigns_eq unsigned] at read⟩
  · have spelled := Formula.spelled writable
    have read := parseFormula_eq_ok_iff.2
      ⟨spelled.ascii, spelled.derivesText FormulaRule.beginsOperand⟩
    exact ⟨read, fun unsigned => by rwa [tree.withExplicitSigns_eq unsigned] at read⟩

/-- A base with a sign is read as a negation, which binds tighter than the power.
Without signs the tree is read back as it is. -/
theorem parse_text_signed_base :
    parseExpr (Expr.text (.binary .power (.const (Binary64.ofMagnitude true 0x4000000000000000))
        (.var "level"))) =
      .ok (.binary .power (.unary .neg (.const (Binary64.ofMagnitude false 0x4000000000000000)))
        (.var "level")) ∧
    parseCondition (Condition.text (.compare .less (.var "level")
        (.const (Binary64.ofMagnitude false 0x4000000000000000)))) =
      .ok (.compare .less (.var "level") (.const (Binary64.ofMagnitude false 0x4000000000000000))) ∧
    parseFormula (Formula.text (.single "score" (.deref (.var "player") "level"))) =
      .ok (.single "score" (.deref (.var "player") "level")) := by
  have unsignedConstant : Unsigned [Binary64.ofMagnitude false 0x4000000000000000] := by
    unfold Unsigned
    decide
  have noConstant : Unsigned [] := by
    simp [Unsigned]
  exact ⟨(parse_text.1 _ (by decide)).1, (parse_text.2.1 _ (by decide)).2 unsignedConstant,
    (parse_text.2.2 _ (by decide)).2 noConstant⟩

end RewardFormula
