import RewardFormula.Proofs.Formula.RoundTrip
import RewardFormula.Proofs.Formula.WellFormed

/-!
# Texts of what was read

What is read from a source is read again from its canonical text, with its
infinities as the names that stand for them in the text. The induction is on
well-formed trees: each can be written once its infinities are named, and the naming
leaves its text alone.
-/

namespace RewardFormula

open Binary64 Grammar

/-- A part of a formula has the text of the same part with its infinities named,
and this can be written without signs. -/
structure IsReread (text : τ → σ) (isWritable : τ → Bool) (constants : τ → List Float)
    (part named : τ) : Prop where
  text : text named = text part
  writable : isWritable named = true
  unsigned : Unsigned (constants named)

abbrev Expr.Rereads (tree : Expr) : Prop :=
  IsReread Expr.text Expr.isWritable Expr.constants tree tree.withNamedInfinities

abbrev Expr.AllReread (trees : List Expr) : Prop :=
  IsReread Expr.texts Expr.areWritable Expr.allConstants trees (Expr.allWithNamedInfinities trees)

abbrev Condition.Rereads (test : Condition) : Prop :=
  IsReread Condition.text Condition.isWritable Condition.constants test test.withNamedInfinities

abbrev Assignment.Rereads (item : Assignment) : Prop :=
  IsReread Assignment.text Assignment.isWritable Assignment.constants item
    item.withNamedInfinities

abbrev Assignment.AllReread (items : List Assignment) : Prop :=
  IsReread (List.map Assignment.text) Assignment.areWritable Assignment.allConstants items
    (Assignment.allWithNamedInfinities items)

abbrev Formula.Rereads (tree : Formula) : Prop :=
  IsReread Formula.text Formula.isWritable Formula.constants tree tree.withNamedInfinities

theorem unsigned_nil : Unsigned [] := by
  simp [Unsigned]

namespace Expr

theorem priority_withNamedInfinities (tree : Expr) :
    tree.withNamedInfinities.priority = tree.priority := by
  cases tree with
  | const value =>
      rw [withNamedInfinities]
      split <;> rfl
  | loop _ _ excluding _ _ =>
      cases excluding <;> rfl
  | _ =>
      rfl

theorem Rereads.number {value : Float} (number : value.isNaN = false)
    (unsigned : isNegative value = false) : (const value).Rereads := by
  cases finite : isFinite value with
  | true =>
      have unnamed : withNamedInfinities (const value) = const value := by
        rw [withNamedInfinities, if_pos finite]
      refine ⟨congrArg Expr.text unnamed, ?_, ?_⟩
      · rw [unnamed]
        exact finite
      · simp [unnamed, Unsigned, constants, unsigned]
  | false =>
      have named : withNamedInfinities (const value) = var "inf" := by
        simp only [withNamedInfinities, finite, Bool.false_eq_true, if_false]
      have infinite := eq_infinity_of_not_finite number unsigned finite
      refine ⟨?_, ?_, ?_⟩
      · rw [named, infinite]
        rfl
      · rw [named]
        rfl
      · rw [named]
        exact unsigned_nil

/-- References have no constants. -/
theorem withNamedInfinities_of_isReference (tree : Expr) (reference : tree.isReference = true) :
    tree.withNamedInfinities = tree := by
  match tree with
  | .var _ =>
      rfl
  | .deref base field =>
      rw [withNamedInfinities, base.withNamedInfinities_of_isReference reference]
termination_by structural tree

theorem constants_of_isReference (tree : Expr) (reference : tree.isReference = true) :
    tree.constants = [] := by
  match tree with
  | .var _ =>
      rfl
  | .deref base field =>
      exact base.constants_of_isReference reference
termination_by structural tree

/-- A reference that can be written. -/
abbrev IsWritableReference (tree : Expr) : Prop :=
  tree.isReference = true ∧ tree.isWritable = true

theorem Rereads.reference {tree : Expr} (written : tree.IsWritableReference) : tree.Rereads := by
  obtain ⟨reference, writable⟩ := written
  have same := tree.withNamedInfinities_of_isReference reference
  refine ⟨congrArg Expr.text same, ?_, ?_⟩
  · rw [same]
    exact writable
  · rw [same, tree.constants_of_isReference reference]
    exact unsigned_nil

/-- References have no infinities to be named. -/
theorem Rereads.isWritableReference {tree : Expr} (rereads : tree.Rereads)
    (reference : tree.isReference = true) : tree.IsWritableReference := by
  have writable := rereads.writable
  rw [tree.withNamedInfinities_of_isReference reference] at writable
  exact ⟨reference, writable⟩

theorem Rereads.property {base : Expr} {field : String} (reference : base.isReference = true)
    (rereads : base.Rereads) (valid : Name.isValid field = true) :
    (deref base field).Rereads := by
  have writable := (rereads.isWritableReference reference).2
  refine .reference ⟨reference, ?_⟩
  simp only [isWritable, reference, writable, valid, Bool.and_self]

theorem Rereads.negation {inner : Expr} (rereads : inner.Rereads) :
    (unary .neg inner).Rereads where
  text := by
    unfold withNamedInfinities Expr.text
    simp only [rereads.text, priority_withNamedInfinities]
  writable := rereads.writable
  unsigned := rereads.unsigned

theorem Rereads.operation {left right : Expr} (op : BinaryOp) (leftRereads : left.Rereads)
    (rightRereads : right.Rereads) : (binary op left right).Rereads where
  text := by
    unfold withNamedInfinities Expr.text
    simp only [leftRereads.text, rightRereads.text,
      priority_withNamedInfinities]
  writable := Bool.and_eq_true_iff.2 ⟨leftRereads.writable, rightRereads.writable⟩
  unsigned := unsigned_append.2 ⟨leftRereads.unsigned, rightRereads.unsigned⟩

theorem AllReread.nil : AllReread [] :=
  ⟨rfl, rfl, unsigned_nil⟩

theorem AllReread.cons {first : Expr} {rest : List Expr} (firstRereads : first.Rereads)
    (restReread : AllReread rest) : AllReread (first :: rest) where
  text := congrArg₂ List.cons firstRereads.text restReread.text
  writable := Bool.and_eq_true_iff.2 ⟨firstRereads.writable, restReread.writable⟩
  unsigned := unsigned_append.2 ⟨firstRereads.unsigned, restReread.unsigned⟩

theorem AllReread.of_forall {trees : List Expr} (rereads : ∀ tree ∈ trees, tree.Rereads) :
    AllReread trees := by
  induction trees with
  | nil =>
      exact .nil
  | cons first rest inductionHypothesis =>
      have ⟨firstRereads, restRereads⟩ := List.forall_mem_cons.1 rereads
      exact .cons firstRereads (inductionHypothesis restRereads)

theorem Rereads.call {name : String} {arguments : List Expr} (valid : Name.isValid name = true)
    (reread : AllReread arguments) : (call name arguments).Rereads where
  text := by
    unfold withNamedInfinities Expr.text
    simp only [reread.text]
  writable := Bool.and_eq_true_iff.2 ⟨valid, reread.writable⟩
  unsigned := reread.unsigned

theorem Rereads.selection {test : Condition} {accepted rejected : Expr}
    (testRereads : test.Rereads) (acceptedRereads : accepted.Rereads)
    (rejectedRereads : rejected.Rereads) : (ternary test accepted rejected).Rereads where
  text := by
    unfold withNamedInfinities Expr.text
    simp only [testRereads.text, acceptedRereads.text,
      rejectedRereads.text]
  writable := by
    simp only [withNamedInfinities, isWritable, testRereads.writable, acceptedRereads.writable,
      rejectedRereads.writable, Bool.and_self]
  unsigned := unsigned_append.2 ⟨testRereads.unsigned,
    unsigned_append.2 ⟨acceptedRereads.unsigned, rejectedRereads.unsigned⟩⟩

end Expr

namespace Condition

theorem isLogical_withNamedInfinities (test : Condition) :
    test.withNamedInfinities.isLogical = test.isLogical := by
  cases test <;> rfl

theorem Rereads.literal (value : Bool) : (literal value).Rereads :=
  ⟨rfl, rfl, unsigned_nil⟩

theorem Rereads.comparison {left right : Expr} (op : Comparison) (leftRereads : left.Rereads)
    (rightRereads : right.Rereads) : (compare op left right).Rereads where
  text := by
    simp only [withNamedInfinities, Condition.text, leftRereads.text, rightRereads.text,
      Expr.priority_withNamedInfinities]
  writable := Bool.and_eq_true_iff.2 ⟨leftRereads.writable, rightRereads.writable⟩
  unsigned := unsigned_append.2 ⟨leftRereads.unsigned, rightRereads.unsigned⟩

theorem Rereads.connection {left right : Condition} (op : LogicalOp)
    (leftRereads : left.Rereads) (rightRereads : right.Rereads) :
    (logical op left right).Rereads where
  text := by
    simp only [withNamedInfinities, Condition.text, leftRereads.text, rightRereads.text,
      isLogical_withNamedInfinities]
  writable := Bool.and_eq_true_iff.2 ⟨leftRereads.writable, rightRereads.writable⟩
  unsigned := unsigned_append.2 ⟨leftRereads.unsigned, rightRereads.unsigned⟩

end Condition

namespace Assignment

theorem Rereads.assigned {name : String} {value : Expr} (valid : Name.isValid name = true)
    (rereads : value.Rereads) : (assign name value).Rereads where
  text := by
    simp only [withNamedInfinities, Assignment.text, rereads.text]
  writable := Bool.and_eq_true_iff.2 ⟨valid, rereads.writable⟩
  unsigned := rereads.unsigned

theorem AllReread.nil : AllReread [] :=
  ⟨rfl, rfl, unsigned_nil⟩

theorem AllReread.cons {first : Assignment} {rest : List Assignment}
    (firstRereads : first.Rereads) (restReread : AllReread rest) : AllReread (first :: rest) where
  text := congrArg₂ List.cons firstRereads.text restReread.text
  writable := Bool.and_eq_true_iff.2 ⟨firstRereads.writable, restReread.writable⟩
  unsigned := unsigned_append.2 ⟨firstRereads.unsigned, restReread.unsigned⟩

theorem AllReread.of_forall {items : List Assignment}
    (rereads : ∀ item ∈ items, item.Rereads) : AllReread items := by
  induction items with
  | nil =>
      exact .nil
  | cons first rest inductionHypothesis =>
      have ⟨firstRereads, restRereads⟩ := List.forall_mem_cons.1 rereads
      exact .cons firstRereads (inductionHypothesis restRereads)

theorem statements_congr {items items' : List Assignment}
    (same : items.map Assignment.text = items'.map Assignment.text) :
    statements items = statements items' := by
  induction items generalizing items' with
  | nil =>
      cases items' with
      | nil =>
          rfl
      | cons first rest =>
          cases same
  | cons first rest inductionHypothesis =>
      cases items' with
      | nil =>
          cases same
      | cons first' rest' =>
          obtain ⟨firstSame, restSame⟩ := List.cons.inj same
          rw [statements, statements, firstSame, inductionHypothesis restSame]

end Assignment

theorem Expr.Rereads.loop {element result : String} {base : Expr} {exclusion : Option Expr}
    {body : List Assignment} (elementValid : Name.isValid element = true)
    (baseReference : base.IsWritableReference)
    (exclusionReference : ∀ tree ∈ exclusion, tree.IsWritableReference)
    (bodyReread : Assignment.AllReread body) (resultValid : Name.isValid result = true) :
    (Expr.loop element base exclusion body result).Rereads := by
  have baseRereads := Rereads.reference baseReference
  obtain ⟨reference, writable⟩ := baseReference
  have sameBase := withNamedInfinities_of_isReference base reference
  have sameBody := Assignment.statements_congr bodyReread.text
  cases exclusion with
  | none =>
      refine ⟨?_, ?_, ?_⟩
      · unfold withNamedInfinities Expr.text
        simp only [sameBase, sameBody]
      · simp only [withNamedInfinities, isWritable, sameBase, elementValid, reference, writable,
          bodyReread.writable, resultValid, Bool.and_self]
      · exact unsigned_append.2 ⟨baseRereads.unsigned, bodyReread.unsigned⟩
  | some tree =>
      have exclusionRereads := Rereads.reference (exclusionReference tree rfl)
      obtain ⟨exclusionIsReference, exclusionWritable⟩ := exclusionReference tree rfl
      have sameExclusion := withNamedInfinities_of_isReference tree exclusionIsReference
      refine ⟨?_, ?_, ?_⟩
      · unfold withNamedInfinities Expr.text
        simp only [sameBase, sameExclusion, sameBody]
      · simp only [withNamedInfinities, isWritable, sameBase, sameExclusion, elementValid,
          reference, writable, exclusionIsReference, exclusionWritable, bodyReread.writable,
          resultValid, Bool.and_self]
      · exact unsigned_append.2 ⟨baseRereads.unsigned,
          unsigned_append.2 ⟨exclusionRereads.unsigned, bodyReread.unsigned⟩⟩

mutual

theorem Expr.WellFormed.rereads {tree : Expr} (wellFormed : tree.WellFormed) : tree.Rereads := by
  match wellFormed with
  | .const number unsigned =>
      exact .number number unsigned
  | .var valid =>
      exact .reference ⟨rfl, valid⟩
  | .deref reference base valid =>
      exact .property reference base.rereads valid
  | .unary .neg inner =>
      exact .negation inner.rereads
  | .binary op left right =>
      exact .operation op left.rereads right.rereads
  | .call valid arguments =>
      exact .call valid (.of_forall fun argument member => (arguments argument member).rereads)
  | .ternary test accepted rejected =>
      exact .selection test.rereads accepted.rereads rejected.rereads
  | .loop elementValid baseReference base exclusionReference exclusion body resultValid =>
      refine .loop elementValid (base.rereads.isWritableReference baseReference) ?_
        (.of_forall fun item member => (body item member).rereads) resultValid
      intro tree member
      exact (exclusion tree member).rereads.isWritableReference (exclusionReference tree member)
termination_by structural wellFormed

theorem Condition.WellFormed.rereads {test : Condition} (wellFormed : test.WellFormed) :
    test.Rereads := by
  match wellFormed with
  | .literal value =>
      exact .literal value
  | .compare op left right =>
      exact .comparison op left.rereads right.rereads
  | .logical op left right =>
      exact .connection op left.rereads right.rereads
termination_by structural wellFormed

theorem Assignment.WellFormed.rereads {item : Assignment} (wellFormed : item.WellFormed) :
    item.Rereads := by
  match wellFormed with
  | .assign valid value =>
      exact .assigned valid value.rereads
termination_by structural wellFormed

end

theorem Formula.Rereads.assignments {items : List Assignment} (nonempty : items ≠ [])
    (reread : Assignment.AllReread items) : (Formula.assignments items).Rereads where
  text := congrArg (String.intercalate "; ") reread.text
  writable := by
    cases items with
    | nil =>
        exact absurd rfl nonempty
    | cons first rest =>
        exact reread.writable
  unsigned := reread.unsigned

theorem Formula.Rereads.declaration {name : String} {parameters : List String} {body : Expr}
    (valid : Name.isValid name = true)
    (parametersValid : ∀ parameter ∈ parameters, Name.isValid parameter = true)
    (rereads : body.Rereads) : (Formula.function name parameters body).Rereads where
  text := by
    simp only [Formula.withNamedInfinities, Formula.text, rereads.text]
  writable := by
    simp only [Formula.withNamedInfinities, Formula.isWritable, valid, rereads.writable,
      List.all_eq_true.2 parametersValid, Bool.and_self]
  unsigned := rereads.unsigned

theorem Formula.WellFormed.rereads {tree : Formula} (wellFormed : tree.WellFormed) :
    tree.Rereads := by
  cases wellFormed with
  | assignments nonempty items =>
      exact .assignments nonempty (.of_forall fun item member => (items item member).rereads)
  | function valid parametersValid body =>
      exact .declaration valid parametersValid body.rereads

section Derivations

variable {source rest : List Char}

theorem Grammar.Expression.rereads {tree : Expr} (derived : Expression source tree rest) :
    tree.Rereads :=
  derived.wellFormed.rereads

theorem Grammar.Logical.rereads {test : Condition} (derived : Logical source test rest) :
    test.Rereads :=
  derived.wellFormed.rereads

theorem Grammar.FormulaRule.rereads {tree : Formula} (derived : FormulaRule source tree rest) :
    tree.Rereads :=
  derived.wellFormed.rereads

end Derivations

theorem Expr.Rereads.parse {tree : Expr} (rereads : tree.Rereads) :
    parseExpr tree.text = .ok tree.withNamedInfinities := by
  have spelled := (tree.withNamedInfinities.spelled rereads.writable).expression
  rw [Expr.withExplicitSigns_eq _ rereads.unsigned, rereads.text] at spelled
  exact parseExpr_eq_ok_iff.2 ⟨spelled.ascii, spelled.derivesText Expression.beginsOperand⟩

theorem Condition.Rereads.parse {test : Condition} (rereads : test.Rereads) :
    parseCondition test.text = .ok test.withNamedInfinities := by
  have spelled := (test.withNamedInfinities.spelled rereads.writable).logical
  rw [Condition.withExplicitSigns_eq _ rereads.unsigned, rereads.text] at spelled
  exact parseCondition_eq_ok_iff.2 ⟨spelled.ascii, spelled.derivesText Logical.beginsOperand⟩

theorem Formula.Rereads.parse {tree : Formula} (rereads : tree.Rereads) :
    parseFormula tree.text = .ok tree.withNamedInfinities := by
  have spelled := Formula.spelled rereads.writable
  rw [Formula.withExplicitSigns_eq _ rereads.unsigned, rereads.text] at spelled
  exact parseFormula_eq_ok_iff.2 ⟨spelled.ascii, spelled.derivesText FormulaRule.beginsOperand⟩

/-- The text of what was read is read as the same with its infinities named. So
it is read as an equal tree if, and only if, no numeral of the source is past
the largest double. -/
theorem parse_text_of_parsed (source : String) :
    (∀ tree, parseExpr source = .ok tree →
      parseExpr tree.text = .ok tree.withNamedInfinities ∧
        ((tree.withNamedInfinities == tree) = true ↔ AllFinite tree.constants)) ∧
    (∀ test, parseCondition source = .ok test →
      parseCondition test.text = .ok test.withNamedInfinities ∧
        ((test.withNamedInfinities == test) = true ↔ AllFinite test.constants)) ∧
    (∀ tree, parseFormula source = .ok tree →
      parseFormula tree.text = .ok tree.withNamedInfinities ∧
        ((tree.withNamedInfinities == tree) = true ↔ AllFinite tree.constants)) := by
  refine ⟨?_, ?_, ?_⟩
  · intro tree parsed
    obtain ⟨-, before, after, -, derived, -⟩ := parseExpr_eq_ok_iff.1 parsed
    exact ⟨derived.rereads.parse, tree.beq_withNamedInfinities⟩
  · intro test parsed
    obtain ⟨-, before, after, -, derived, -⟩ := parseCondition_eq_ok_iff.1 parsed
    exact ⟨derived.rereads.parse, test.beq_withNamedInfinities⟩
  · intro tree parsed
    obtain ⟨-, before, after, -, derived, -⟩ := parseFormula_eq_ok_iff.1 parsed
    exact ⟨derived.rereads.parse, tree.beq_withNamedInfinities⟩

/-- A numeral past the largest double in each kind of source. -/
theorem parse_text_of_parsed_overflow :
    (parseExpr "-1e999" = .ok (.unary .neg (.const (infinity false))) ∧
      parseExpr "-inf" = .ok (.unary .neg (.var "inf"))) ∧
    (parseCondition "x < 1e999" = .ok (.compare .less (.var "x") (.const (infinity false))) ∧
      parseCondition "x < inf" = .ok (.compare .less (.var "x") (.var "inf"))) ∧
    (parseFormula "x = 1e999" = .ok (.single "x" (.const (infinity false))) ∧
      parseFormula "x = inf" = .ok (.single "x" (.var "inf"))) := by
  have expression : parseExpr "-1e999" = .ok (.unary .neg (.const (infinity false))) := by
    cbv
  have condition : parseCondition "x < 1e999" =
      .ok (.compare .less (.var "x") (.const (infinity false))) := by
    cbv
  have formula : parseFormula "x = 1e999" = .ok (.single "x" (.const (infinity false))) := by
    cbv
  exact ⟨⟨expression, ((parse_text_of_parsed _).1 _ expression).1⟩,
    ⟨condition, ((parse_text_of_parsed _).2.1 _ condition).1⟩,
    formula, ((parse_text_of_parsed _).2.2 _ formula).1⟩

/-- Not everything that is read is read again as an equal tree. -/
theorem not_parse_text_same :
    ¬ ∀ source tree, parseFormula source = .ok tree →
      ∃ reread, parseFormula tree.text = .ok reread ∧ (reread == tree) = true := by
  intro law
  have formula : parseFormula "x = 1e999" = .ok (.single "x" (.const (infinity false))) := by
    cbv
  have again : parseFormula "x = inf" = .ok (.single "x" (.var "inf")) := by
    cbv
  obtain ⟨reread, parsed, same⟩ := law _ _ formula
  have text : Formula.text (.single "x" (.const (infinity false))) = "x = inf" := by
    rfl
  rw [text, again] at parsed
  cases parsed
  revert same
  decide

end RewardFormula
