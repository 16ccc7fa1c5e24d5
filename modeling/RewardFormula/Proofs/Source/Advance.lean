import RewardFormula.Proofs.Source.Nesting
import RewardFormula.Proofs.Source.Parsing

/-!
# Reading always goes on

Every rule of the grammar leaves an ending of its source, and every rule but those
that may read nothing takes a character. So no repetition stalls, rules are only
nested at shorter endings, and the depth that a source is read with is never used
up: readings end, and no text is refused for a defect of the grammar.
-/

namespace RewardFormula

namespace Reader

variable {α : Type}

/-- What the rules of the grammar take where they are nested to a depth. Only layout
and lists in parentheses may be read from nothing. -/
structure RulesAdvance (depth : Nat) : Prop where
  ofLayout : layout.Trims
  ofKeyword : ∀ word ∈ Name.reserved, (keyword word).Consumes
  ofName : name.Consumes
  ofNumber : number.Consumes
  ofBoolean : boolean.Consumes
  ofAssignSign : assignSign.Consumes
  ofComma : comma.Consumes
  ofSemicolon : semicolon.Consumes
  ofBinaryOp : binaryOp.Consumes
  ofComparisonSign : comparison.Consumes
  ofLogicalOp : logicalOp.Consumes
  ofReference : reference.Consumes
  ofCall : (call (term depth)).Consumes
  ofArguments : (separatedOrNone comma (expression (term depth))).Trims
  ofLoop : (loop (term depth)).Consumes
  ofEnclosed : (enclosed (term depth)).Consumes
  ofNegation : (negation (operand depth)).Consumes
  ofOperand : (operand depth).Consumes
  ofSum : (sum (operand depth)).Consumes
  ofComparison : (comparisonTerm (operand depth)).Consumes
  ofDisjunction : (disjunction (operand depth)).Consumes
  ofBranches : (branches (term depth)).Consumes
  ofTerm : (term depth).Consumes
  ofExpression : (expression (term depth)).Consumes
  ofCondition : (condition (term depth)).Consumes
  ofAssignment : (assignment (term depth)).Consumes
  ofParameters : (separatedOrNone comma name).Trims
  ofDeclaration : (functionDeclaration (term depth)).Consumes
  ofFormula : (formula (term depth)).Consumes

theorem rulesAdvance (depth : Nat) : RulesAdvance depth where
  ofLayout := layout_trims
  ofKeyword := by
    intro word reserved
    refine keyword_consumes ?_
    revert word
    decide
  ofName := name_consumes
  ofNumber := number_consumes
  ofBoolean := boolean_consumes
  ofAssignSign := assignSign_consumes
  ofComma := comma_consumes
  ofSemicolon := semicolon_consumes
  ofBinaryOp := binaryOp_consumes
  ofComparisonSign := comparison_consumes
  ofLogicalOp := logicalOp_consumes
  ofReference := reference_consumes
  ofCall := call_consumes (term_consumes depth)
  ofArguments := arguments_trims (term_consumes depth)
  ofLoop := loop_consumes (term_consumes depth)
  ofEnclosed := enclosed_consumes (term_consumes depth)
  ofNegation := negation_consumes (operand_consumes depth)
  ofOperand := operand_consumes depth
  ofSum := sum_consumes (operand_consumes depth)
  ofComparison := comparisonTerm_consumes (operand_consumes depth)
  ofDisjunction := disjunction_consumes (operand_consumes depth)
  ofBranches := branches_consumes (term_consumes depth)
  ofTerm := term_consumes depth
  ofExpression := expression_consumes (term_consumes depth)
  ofCondition := condition_consumes (term_consumes depth)
  ofAssignment := assignment_consumes (term_consumes depth)
  ofParameters := comma_consumes.separatedOrNone name_consumes
  ofDeclaration := functionDeclaration_consumes (term_consumes depth)
  ofFormula := formula_consumes (term_consumes depth)

/-- A repetition of the item reads one item after the other until one is refused. It
is never refused itself, and any budget above the length of the source does. -/
structure Repeats (item : Reader α) : Prop where
  consumes : item.Consumes
  unfolds : ∀ source, many item source =
    match item source with
    | .refused _ => .read [] source
    | .broken fault => .broken fault
    | .read value rest => (many item rest).prepend value
  notRefused : ∀ source, ¬ (many item).Refuses source
  unbounded : ∀ source extra,
    manyWithin item (source.length + 1 + extra) source = many item source

theorem Consumes.repeats {item : Reader α} (consumes : item.Consumes) : Repeats item where
  consumes := consumes
  unfolds := many_eq consumes
  notRefused := many_not_refuses consumes
  unbounded source extra := manyWithin_budget_irrelevant consumes (by omega) (by omega)

/-- The items that the rules of the grammar repeat. -/
structure ItemsRepeat (depth : Nat) : Prop where
  ofLayoutUnit : Repeats layoutUnit
  ofField : Repeats field
  ofOperation : Repeats (followedBy binaryOp (operand depth))
  ofConnection : Repeats (followedBy logicalOp (comparisonTerm (operand depth)))
  ofArgument : Repeats (do let _ ← comma; expression (term depth))
  ofParameter : Repeats (do let _ ← comma; name)
  ofStatement : Repeats (do let item ← assignment (term depth); semicolon; return item)
  ofAssignment : Repeats (do let _ ← semicolon; assignment (term depth))

theorem itemsRepeat (depth : Nat) : ItemsRepeat depth where
  ofLayoutUnit := layoutUnit_consumes.repeats
  ofField := field_consumes.repeats
  ofOperation := (followedBy_consumes binaryOp_consumes (operand_consumes depth)).repeats
  ofConnection := (followedBy_consumes logicalOp_consumes
    (comparisonTerm_consumes (operand_consumes depth))).repeats
  ofArgument := (comma_consumes.bind fun _ =>
    (expression_consumes (term_consumes depth)).trims).repeats
  ofParameter := (comma_consumes.bind fun _ => name_consumes.trims).repeats
  ofStatement := (statement_consumes (term_consumes depth)).repeats
  ofAssignment := (semicolon_consumes.bind fun _ =>
    (assignment_consumes (term_consumes depth)).trims).repeats

/-- The reader at the shorter endings of a source, and another one elsewhere. -/
def behind (source : List Char) (reader elsewhere : Reader α) : Reader α := fun rest =>
  if rest <:+ source ∧ rest.length < source.length then reader rest else elsewhere rest

/-- What the rules reply at a source does not hang on what stands for the rules
nested in them, other than at the shorter endings of the source. -/
structure NestsBehind (source : List Char) (operand operand' term term' : Reader Term) :
    Prop where
  ofCall : call (behind source term term') source = call term source
  ofLoop : loop (behind source term term') source = loop term source
  ofEnclosed : enclosed (behind source term term') source = enclosed term source
  ofNegation : negation (behind source operand operand') source = negation operand source
  ofOperand : operandOver (behind source operand operand') (behind source term term') source =
    operandOver operand term source
  ofSum : sum (operandOver (behind source operand operand') (behind source term term')) source =
    sum (operandOver operand term) source
  ofComparison :
    comparisonTerm (operandOver (behind source operand operand') (behind source term term'))
      source = comparisonTerm (operandOver operand term) source
  ofDisjunction :
    disjunction (operandOver (behind source operand operand') (behind source term term'))
      source = disjunction (operandOver operand term) source
  ofBranches : branches (behind source term term') source = branches term source
  ofTerm :
    termOver (operandOver (behind source operand operand') (behind source term term'))
      (behind source term term') source = termOver (operandOver operand term) term source
  ofAssignment : assignment (behind source term term') source = assignment term source
  ofDeclaration :
    functionDeclaration (behind source term term') source = functionDeclaration term source
  ofFormula : formula (behind source term term') source = formula term source

theorem AgreeBelow.at_source {source : List Char} {reader reader' : Reader α}
    (agree : AgreeBelow source (source.length + 1) reader reader') :
    reader' source = reader source :=
  (agree (List.suffix_refl source) (Nat.lt_succ_self source.length)).1.symm

theorem AgreeBelow.behind {source : List Char} {reader reader' : Reader α}
    (agree : AgreeBelow source source.length reader reader') (elsewhere : Reader α) :
    AgreeBelow source source.length reader (behind source reader elsewhere) :=
  fun _ inside short => ⟨(if_pos ⟨inside, short⟩).symm, (agree inside short).2⟩

theorem nestsBehind (source : List Char) (extra : Nat) (operand' term' : Reader Term) :
    NestsBehind source (operand (Source.depth source + extra)) operand'
      (term (Source.depth source + extra)) term' := by
  obtain ⟨operandsAgree, termsAgree⟩ := @Levels.agreeBelow source Levels.ofGrammar source.length
  have enough : 2 * source.length ≤ Source.depth source + extra := by
    unfold Source.depth
    omega
  have operandAgree := (operandsAgree (Nat.le_succ_of_le enough)
    (Nat.le_succ_of_le enough)).behind operand'
  have termAgree := (termsAgree enough enough).behind term'
  have operandConsumes := operand_consumes (Source.depth source + extra)
  have termConsumes := term_consumes (Source.depth source + extra)
  have levelAgree := operandOver_agree operandAgree termAgree termConsumes
  have levelConsumes := operandOver_consumes operandConsumes termConsumes
  exact {
    ofCall := (call_agree termAgree termConsumes).at_source
    ofLoop := (loop_agree termAgree termConsumes).at_source
    ofEnclosed := (enclosed_agree termAgree).at_source
    ofNegation := (negation_agree operandAgree).at_source
    ofOperand := levelAgree.at_source
    ofSum := (sum_agree levelAgree levelConsumes).at_source
    ofComparison := (comparisonTerm_agree levelAgree levelConsumes).at_source
    ofDisjunction := (disjunction_agree levelAgree levelConsumes).at_source
    ofBranches := (branches_agree termAgree).at_source
    ofTerm := (termOver_agree levelAgree levelConsumes termAgree).at_source
    ofAssignment := (assignment_agree termAgree).at_source
    ofDeclaration := (functionDeclaration_agree termAgree).at_source
    ofFormula := (formula_agree termAgree termConsumes).at_source }

end Reader

namespace Reader

variable {α : Type}

/-- The rule reads alike over terms that agree. -/
def Respects (rule : Reader Term → Reader α) : Prop :=
  ∀ {whole : List Char} {bound : Nat} {term term' : Reader Term},
    AgreeBelow whole bound term term' → term.Consumes →
      AgreeBelow whole bound (rule term) (rule term')

theorem expression_respects : Respects expression :=
  fun agree _ => expression_agree agree

theorem condition_respects : Respects condition :=
  fun agree _ => condition_agree agree

theorem formula_respects : Respects formula :=
  fun agree consumes => (formula_agree agree consumes).mono (Nat.le_succ _)

end Reader

namespace Source

open Reader

variable {α : Type} {source : List Char}

/-- Whole sources are read alike by rules that agree, and without a defect. -/
theorem readAll_agree {rule rule' : Reader α}
    (agree : AgreeBelow source (source.length + 1) rule rule') :
    readAll rule source = readAll rule' source ∧
      ∀ fault, readAll rule source = .error fault → fault.cause.isDefect = false := by
  obtain ⟨same, proper⟩ :=
    agree.spaced (List.suffix_refl source) (Nat.lt_succ_self source.length)
  refine ⟨by simp only [readAll, same], ?_⟩
  unfold readAll
  revert proper
  cases spaced rule source with
  | read value rest =>
      rintro - fault
      cases rest with
      | nil =>
          rintro ⟨⟩
      | cons c rest =>
          rintro ⟨⟩
          rfl
  | refused fault =>
      rintro plain _ ⟨⟩
      exact plain
  | broken fault =>
      rintro plain _ ⟨⟩
      exact plain

theorem term_agree (levels : Levels) (extra : Nat) (source : List Char) :
    AgreeBelow source (source.length + 1) (term (depth source))
      (levels.termAt (depth source + extra)) := by
  refine (levels.agreeBelow (source.length + 1)).2 ?_ ?_
  all_goals
    unfold depth
    omega

section Rules

variable {rule : Reader Term → Reader α} (respects : Respects rule)

include respects

theorem readAll_levels (levels : Levels) (extra : Nat) (source : List Char) :
    readAll (rule (levels.termAt (depth source + extra))) source =
      readAll (rule (term (depth source))) source :=
  (readAll_agree (respects (term_agree levels extra source) (term_consumes _))).1.symm

theorem readAll_plain {fault : Fault}
    (met : readAll (rule (term (depth source))) source = .error fault) :
    fault.cause.isDefect = false :=
  (readAll_agree (respects (term_agree .ofGrammar 0 source) (term_consumes _))).2 fault met

end Rules

theorem notBlank_plain {fault : Fault} (blank : notBlank source = .error fault) :
    fault.cause.isDefect = false := by
  obtain ⟨-, proper⟩ :=
    @layout_agree source (source.length + 1) _ (List.suffix_refl source) (Nat.lt_succ_self _)
  unfold notBlank at blank
  revert proper blank
  cases layout source with
  | read value rest =>
      cases rest with
      | nil =>
          rintro ⟨⟩ -
          rfl
      | cons c rest =>
          rintro ⟨⟩
  | refused fault =>
      rintro ⟨⟩ plain
      exact plain
  | broken fault =>
      rintro ⟨⟩ plain
      exact plain

/-- A text is refused for what stands in it if its characters are. -/
theorem readAscii_plain {read : List Char → Except Fault α}
    (plain : ∀ {source fault}, read source = .error fault → fault.cause.isDefect = false)
    {text : String} {error : SourceError} (refused : readAscii read text = .error error) :
    error.cause.isDefect = false := by
  rcases Grammar.readAscii_eq_error.1 refused with ⟨location, -, rfl⟩ | ⟨-, fault, met, rfl⟩
  · rfl
  · exact plain met

end Source

namespace Reader.Levels

variable (levels : Levels) (extra : Nat)

/-- Reads a formula by these levels, with more of them than the source asks for. -/
def parseFormula : String → Except SourceError Formula :=
  Source.readAscii fun source => do
    Source.notBlank source
    Source.readAll (formula (levels.termAt (Source.depth source + extra))) source

/-- Reads an arithmetic expression in the same way. -/
def parseExpr : String → Except SourceError Expr :=
  Source.readAscii fun source =>
    Source.readAll (expression (levels.termAt (Source.depth source + extra))) source

/-- Reads a condition in the same way. -/
def parseCondition : String → Except SourceError Condition :=
  Source.readAscii fun source =>
    Source.readAll (condition (levels.termAt (Source.depth source + extra))) source

theorem parseFormula_eq : levels.parseFormula extra = RewardFormula.parseFormula := by
  refine congrArg Source.readAscii (funext fun source => ?_)
  rw [Source.readAll_levels formula_respects]

theorem parseExpr_eq : levels.parseExpr extra = RewardFormula.parseExpr :=
  congrArg Source.readAscii (funext (Source.readAll_levels expression_respects levels extra))

theorem parseCondition_eq : levels.parseCondition extra = RewardFormula.parseCondition :=
  congrArg Source.readAscii (funext (Source.readAll_levels condition_respects levels extra))

end Reader.Levels

/-- The result is a value, or an error of the text and not of the grammar. -/
def FreeOfDefects {α : Type} (result : Except SourceError α) : Prop :=
  ∀ error, result = .error error → error.cause.isDefect = false

open Reader

theorem parseFormula_freeOfDefects (text : String) : FreeOfDefects (parseFormula text) := by
  intro error refused
  refine Source.readAscii_plain (fun {source fault} met => ?_) refused
  cases blank : Source.notBlank source with
  | error blankFault =>
      rw [blank] at met
      cases met
      exact Source.notBlank_plain blank
  | ok value =>
      rw [blank] at met
      exact Source.readAll_plain formula_respects met

theorem parseExpr_freeOfDefects (text : String) : FreeOfDefects (parseExpr text) :=
  fun _ refused => Source.readAscii_plain (Source.readAll_plain expression_respects) refused

theorem parseCondition_freeOfDefects (text : String) : FreeOfDefects (parseCondition text) :=
  fun _ refused => Source.readAscii_plain (Source.readAll_plain condition_respects) refused

/-- Reading always goes on. Rules leave endings of their sources and take characters,
and so do the items that they repeat, whose repetitions are never stalled. Rules are
nested at shorter endings only. However many levels there are beyond those that the
length of a source asks for, and whatever stands below them, the same is read, and
no text is refused for a defect of the grammar. -/
theorem reading_advances :
    (∀ depth, RulesAdvance depth) ∧
    (∀ depth, ItemsRepeat depth) ∧
    (∀ source extra operand' term',
      NestsBehind source (operand (Source.depth source + extra)) operand'
        (term (Source.depth source + extra)) term') ∧
    (∀ (levels : Levels) extra,
      levels.parseFormula extra = parseFormula ∧ levels.parseExpr extra = parseExpr ∧
        levels.parseCondition extra = parseCondition) ∧
    ∀ text, FreeOfDefects (parseFormula text) ∧ FreeOfDefects (parseExpr text) ∧
      FreeOfDefects (parseCondition text) := by
  refine ⟨rulesAdvance, itemsRepeat, nestsBehind, ?levels, ?defects⟩
  case levels =>
    intro levels extra
    exact ⟨levels.parseFormula_eq extra, levels.parseExpr_eq extra,
      levels.parseCondition_eq extra⟩
  case defects =>
    intro text
    exact ⟨parseFormula_freeOfDefects text, parseExpr_freeOfDefects text,
      parseCondition_freeOfDefects text⟩

-- In front of an open parenthesis one level less is not enough.
example : term (Source.depth ['('] - 1) ['('] = .broken ⟨.defect .tooDeep, none, [], []⟩ := rfl

end RewardFormula
