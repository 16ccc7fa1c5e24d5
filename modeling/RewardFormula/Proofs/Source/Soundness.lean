import Mathlib.Data.List.Forall2
import RewardFormula.Proofs.Source.Progress

/-!
# What is read is derived

Terms are read before it is known whether they are expressions or conditions.
So each level of the grammar has two rules, and what its reader reads is
derived by the one for its kind.
-/

namespace RewardFormula

namespace Grammar

/-- A condition that may stand where an operand may: a truth value, or a
condition in parentheses. -/
inductive ConditionOperand : Rule Condition
  | literal {source rest : List Char} {value : Bool} :
      BooleanWord source value rest → ConditionOperand source (.literal value) rest
  | enclosed {opened inside closing rest : List Char} {test : Condition} :
      Layout opened inside → Logical inside test closing → Layout closing (')' :: rest) →
        ConditionOperand ('(' :: opened) test rest

/-- A term is derived by one rule as an expression, by another as a condition. -/
inductive TermRule (exprRule : Rule Expr) (conditionRule : Rule Condition) : Rule Term
  | arithmetic {source rest : List Char} {tree : Expr} :
      exprRule source tree rest → TermRule exprRule conditionRule source (.arithmetic tree) rest
  | condition {source rest : List Char} {test : Condition} :
      conditionRule source test rest →
        TermRule exprRule conditionRule source (.condition test) rest

variable {source rest : List Char}

theorem ConditionOperand.logicalAtom {test : Condition}
    (derived : ConditionOperand source test rest) : LogicalAtom source test rest := by
  cases derived with
  | literal word =>
      exact .literal word
  | enclosed opening inside closing =>
      exact .enclosed opening inside closing

theorem LogicalAtom.logical {test : Condition} (derived : LogicalAtom source test rest) :
    Logical source test rest :=
  .mk derived .none

theorem Operand.sum {tree : Expr} (derived : Operand source tree rest) : Sum source tree rest :=
  .mk derived .none (.operand tree)

/-- Items may be changed one by one. -/
theorem Many.change {α β : Type} {rule : Rule α} {rule' : Rule β} {related : α → β → Prop}
    {as : List α} {bs : List β} (derived : Many rule source as rest)
    (allRelated : List.Forall₂ related as bs)
    (change : ∀ {source rest a b}, rule source a rest → related a b → rule' source b rest) :
    Many rule' source bs rest := by
  induction derived generalizing bs with
  | none =>
      cases allRelated
      exact .none
  | more first _ inductionHypothesis =>
      cases allRelated with
      | cons firstRelated restRelated =>
          exact .more (change first firstRelated) (inductionHypothesis restRelated)

end Grammar

namespace Term

theorem demandExpr_eq_ok {term : Spanned Term} {tree : Expr} :
    demandExpr term = .ok tree ↔ term.value = .arithmetic tree := by
  unfold demandExpr
  split
  next found atFront =>
    simp [atFront]
  next found atFront =>
    simp [atFront]

theorem demandCondition_eq_ok {term : Spanned Term} {test : Condition} :
    demandCondition term = .ok test ↔ term.value = .condition test := by
  unfold demandCondition
  split
  next found atFront =>
    simp [atFront]
  next found atFront =>
    simp [atFront]

end Term

namespace Reader

open Grammar

variable {α : Type}

/-- The operator and the term of an item of a row that was read are those of an
item of a row of expressions. -/
def IsArithmetic (item : BinaryOp × Spanned Term) (pair : BinaryOp × Expr) : Prop :=
  item.1 = pair.1 ∧ item.2.value = .arithmetic pair.2

/-- The same for a row of conditions. -/
def IsLogical (item : LogicalOp × Spanned Term) (pair : LogicalOp × Condition) : Prop :=
  item.1 = pair.1 ∧ item.2.value = .condition pair.2

theorem demandExprs_eq_ok {items : List (BinaryOp × Spanned Term)} {row : List (BinaryOp × Expr)} :
    demandExprs items = .ok row ↔ List.Forall₂ IsArithmetic items row := by
  induction items generalizing row with
  | nil =>
      rw [List.forall₂_nil_left_iff]
      simp [demandExprs, eq_comm]
  | cons item items inductionHypothesis =>
      obtain ⟨op, term⟩ := item
      simp only [List.forall₂_cons_left_iff, ← inductionHypothesis, IsArithmetic,
        ← Term.demandExpr_eq_ok, demandExprs]
      constructor
      · intro demanded
        split at demanded
        next expr exprs first others =>
          obtain rfl := Except.ok.inj demanded
          exact ⟨(op, expr), exprs, ⟨rfl, first⟩, others, rfl⟩
        next =>
          cases demanded
        next =>
          cases demanded
      · rintro ⟨⟨op', expr⟩, exprs, ⟨rfl, first⟩, others, rfl⟩
        simp only at first
        simp only [first, others]

theorem demandConditions_eq_ok {left test : Condition} {items : List (LogicalOp × Spanned Term)} :
    demandConditions left items = .ok test ↔
      ∃ row, List.Forall₂ IsLogical items row ∧
        test = row.foldl (fun left item => .logical item.1 left item.2) left := by
  induction items generalizing left with
  | nil =>
      simp [demandConditions, eq_comm]
  | cons item items inductionHypothesis =>
      obtain ⟨op, term⟩ := item
      simp only [List.forall₂_cons_left_iff, IsLogical, ← Term.demandCondition_eq_ok,
        demandConditions]
      constructor
      · intro demanded
        split at demanded
        next right found =>
          obtain ⟨row, related, rfl⟩ := inductionHypothesis.1 demanded
          exact ⟨(op, right) :: row, ⟨(op, right), row, ⟨rfl, found⟩, related, rfl⟩, rfl⟩
        next =>
          cases demanded
      · rintro ⟨-, ⟨⟨op', right⟩, row, ⟨rfl, found⟩, related, rfl⟩, rfl⟩
        simp only at found
        simp only [found]
        exact inductionHypothesis.2 ⟨row, related, rfl⟩

theorem grouped_eq_read
    {first tree : Expr} {row : List (BinaryOp × Expr)} {source rest : List Char} :
    grouped first row source = .read tree rest ↔
      (∃ edge, Grouped first row tree edge) ∧ source = rest := by
  rw [← Expr.group?_eq_some_iff]
  cases grouping : Expr.group? first [] row with
  | none =>
      simp [grouped, grouping]
  | some found =>
      simp [grouped, grouping]

/-! ## Sound readers -/

/-- Whatever the reader reads, the rule derives. -/
def Sound (reader : Reader α) (rule : Rule α) : Prop :=
  ∀ ⦃source rest : List Char⦄ ⦃value : α⦄,
    reader source = .read value rest → rule source value rest

theorem character_sound (c : Char) : (character c).Sound (Sign c) :=
  fun _ _ _ reading => character_eq_read.1 reading

theorem name_sound : name.Sound VariableName :=
  fun _ _ _ reading => name_eq_read.1 reading

theorem Sound.spaced {reader : Reader α} {rule : Rule α} (sound : reader.Sound rule) :
    (spaced reader).Sound (Spaced rule) := by
  intro source rest value reading
  obtain ⟨before, after, layoutBefore, found, layoutAfter⟩ := spaced_eq_read.1 reading
  exact ⟨before, after, layoutBefore, sound found, layoutAfter⟩

theorem Sound.many {item : Reader α} {rule : Rule α}
    (sound : item.Sound rule) (consumes : item.Consumes) : (many item).Sound (Many rule) := by
  intro source rest values reading
  induction values generalizing source with
  | nil =>
      obtain ⟨rfl, -⟩ := (many_eq_read_nil consumes).1 reading
      exact .none
  | cons value values inductionHypothesis =>
      obtain ⟨middle, first, remaining⟩ := (many_eq_read_cons consumes).1 reading
      exact .more (sound first) (inductionHypothesis remaining)

theorem Sound.separated {separator : Reader Unit} {item : Reader α} {mark : Rule Unit}
    {rule : Rule α} (markSound : separator.Sound mark) (itemSound : item.Sound rule)
    (separatorConsumes : separator.Consumes) (itemTrims : item.Trims) :
    (separated separator item).Sound (Separated mark rule) := by
  intro source rest values reading
  simp only [Reader.separated, bind_eq_read, pure_eq_read] at reading
  obtain ⟨first, middle, firstReading, others, left, othersReading, rfl, rfl⟩ := reading
  refine .mk (itemSound firstReading)
    (Sound.many ?_ (separatorConsumes.bind fun _ => itemTrims) othersReading)
  intro source rest value reading
  obtain ⟨⟨⟩, middle, markReading, itemReading⟩ := bind_eq_read.1 reading
  exact .mk (markSound markReading) (itemSound itemReading)

theorem Sound.separatedOrNone {separator : Reader Unit} {item : Reader α} {mark : Rule Unit}
    {rule : Rule α} (markSound : separator.Sound mark) (itemSound : item.Sound rule)
    (separatorConsumes : separator.Consumes) (itemTrims : item.Trims) :
    (separatedOrNone separator item).Sound (SeparatedOrNone mark rule) := by
  intro source rest values reading
  rcases orElse_eq_read.1 reading with some | ⟨-, none⟩
  · exact .some (markSound.separated itemSound separatorConsumes itemTrims some)
  · obtain ⟨rfl, rfl⟩ := pure_eq_read.1 none
    exact .none

theorem optionalSemicolon_sound {source rest : List Char} {value : Option Unit}
    (reading : optional semicolon source = .read value rest) :
    ∃ middle, LastSemicolon source middle ∧ ∀ next, Layout rest next → Layout middle next := by
  rcases optional_eq_read.1 reading with ⟨⟨⟩, -, present⟩ | ⟨-, rfl, -⟩
  · obtain ⟨before, after, layoutBefore, found, layoutAfter⟩ := spaced_eq_read.1 present
    rw [character_eq_read.1 found] at layoutBefore
    refine ⟨after, .present layoutBefore, fun next layoutNext => ?_⟩
    rw [layoutNext.eq_of_not_beginsLayout layoutAfter.not_beginsLayout]
    exact layoutAfter
  · exact ⟨rest, .absent, fun _ layoutNext => layoutNext⟩

theorem field_eq_read {source rest : List Char} {found : String} :
    field source = .read found rest ↔
      After (Spaced (Sign '.')) VariableName source found rest := by
  simp only [field, bind_eq_read, spaced_eq_read, committed_eq_read, name_eq_read,
    character_eq_read]
  constructor
  · rintro ⟨⟨⟩, middle, mark, named⟩
    exact .mk mark named
  · rintro ⟨mark, named⟩
    exact ⟨(), _, mark, named⟩

theorem reference_sound : reference.Sound Reference := by
  intro source rest tree reading
  simp only [reference, bind_eq_read, pure_eq_read, name_eq_read] at reading
  obtain ⟨base, middle, named, fields, left, fieldsReading, rfl, rfl⟩ := reading
  have fieldSound : field.Sound (After (Spaced (Sign '.')) VariableName) :=
    fun _ _ _ found => field_eq_read.1 found
  exact .mk named (fieldSound.many field_consumes fieldsReading)

section Terms

variable {term : Reader Term} (sound : term.Sound (TermRule Expression Logical))
    (consumes : term.Consumes)

include sound

theorem expression_sound : (expression term).Sound Expression := by
  intro source rest tree reading
  simp only [expression, bind_eq_read, within_eq_read, spanned_eq_read, demand_eq_read,
    Term.demandExpr_eq_ok] at reading
  obtain ⟨⟨value, start, stop⟩, middle, ⟨found, -⟩, rfl, rfl⟩ := reading
  cases sound found with
  | arithmetic derived =>
      exact derived

theorem condition_sound : (condition term).Sound Logical := by
  intro source rest test reading
  simp only [condition, bind_eq_read, spanned_eq_read, demand_eq_read,
    Term.demandCondition_eq_ok] at reading
  obtain ⟨⟨value, start, stop⟩, middle, ⟨found, -⟩, rfl, rfl⟩ := reading
  cases sound found with
  | condition derived =>
      exact derived

theorem assignment_sound : (assignment term).Sound (Assigned Expression) := by
  intro source rest item reading
  simp only [assignment, within_eq_read, bind_eq_read, name_eq_read, committed_eq_read,
    pure_eq_read, spaced_eq_read, assignSign_eq_read] at reading
  obtain ⟨found, afterName, named, ⟨⟩, afterSign, ⟨before, after, layoutBefore, ⟨mark, -⟩,
    layoutAfter⟩, value, left, valueReading, rfl, rfl⟩ := reading
  exact .mk named ⟨before, after, layoutBefore, mark, layoutAfter⟩
    (expression_sound sound valueReading)

theorem statement_sound :
    (statement term).Sound (Before (Assigned Expression) (Spaced (Sign ';'))) := by
  intro source rest item reading
  simp only [statement, bind_eq_read, pure_eq_read] at reading
  obtain ⟨item', middle, itemReading, ⟨⟩, _, mark, rfl, rfl⟩ := reading
  exact .mk (assignment_sound sound itemReading) ((character_sound ';').spaced mark)

include consumes

theorem call_sound : (call term).Sound (Call Expression) := by
  intro source rest tree reading
  simp only [call, within_eq_read, bind_eq_read, name_eq_read, committed_eq_read, pure_eq_read,
    layout_eq_read, character_eq_read, Sign] at reading
  obtain ⟨found, afterName, named, ⟨⟩, _, layoutName, ⟨⟩, opened, rfl, ⟨⟩, inside, layoutOpened,
    arguments, _, ⟨arguments', closing, argumentsReading, ⟨⟩, _, layoutClosing, ⟨⟩, _, rfl, rfl,
    rfl⟩, rfl, rfl⟩ := reading
  exact .mk named layoutName layoutOpened
    ((character_sound ',').spaced.separatedOrNone (expression_sound sound) comma_consumes
      (expression_consumes consumes).trims argumentsReading) layoutClosing

omit sound consumes in
theorem loopHeader_sound : loopHeader.Sound LoopHeader := by
  intro source rest header reading
  simp only [loopHeader, bind_eq_read, name_eq_read, pure_eq_read, layout_eq_read,
    character_eq_read, spaced_eq_read, optional_eq_read, Sign] at reading
  obtain ⟨⟨⟩, opened, rfl, ⟨⟩, inside, layoutOpened, element, afterName, named, ⟨⟩, afterColon,
    colon, base, afterBase, baseReading, exclusion, closing, exclusionReading, ⟨⟩, -,
    layoutClosing, ⟨⟩, _, rfl, rfl, rfl⟩ := reading
  refine .mk layoutOpened named colon (reference_sound baseReading) ?_ layoutClosing
  rcases exclusionReading with ⟨excluded, rfl, ⟨⟩, middle, mark, excludedReading⟩ | ⟨rfl, rfl, -⟩
  · exact .present (.mk mark (reference_sound excludedReading))
  · exact .absent

theorem loopBody_sound : (loopBody term).Sound (LoopBody Expression) := by
  intro source rest parts reading
  simp only [loopBody, bind_eq_read, name_eq_read, pure_eq_read, layout_eq_read,
    character_eq_read, keyword_eq_read, Sign] at reading
  obtain ⟨⟨⟩, opened, rfl, ⟨⟩, inside, layoutOpened, body, afterBody, bodyReading, ⟨⟩,
    afterReturn, returned, ⟨⟩, atResult, layoutReturn, result, afterResult, named, semicolon?,
    afterSemicolon, semicolonReading, ⟨⟩, _, layoutClosing, ⟨⟩, _, rfl, rfl, rfl⟩ := reading
  obtain ⟨closing, last, layoutAfter⟩ := optionalSemicolon_sound semicolonReading
  have bodyDerived := (statement_sound sound).many (statement_consumes consumes) bodyReading
  exact .mk layoutOpened bodyDerived returned layoutReturn named last (layoutAfter _ layoutClosing)

theorem loop_sound : (loop term).Sound (ForLoop Expression) := by
  intro source rest tree reading
  simp only [loop, within_eq_read, bind_eq_read, keyword_eq_read, layout_eq_read,
    committed_eq_read, pure_eq_read] at reading
  obtain ⟨⟨⟩, afterWord, word, ⟨⟩, atHeader, layoutWord, ⟨element, base, exclusion⟩, afterHeader,
    headerReading, ⟨⟩, atBody, layoutHeader, ⟨body, result⟩, _, bodyReading, rfl, rfl⟩ := reading
  exact .mk word layoutWord (loopHeader_sound headerReading) layoutHeader
    (loopBody_sound sound consumes bodyReading)

omit consumes in
theorem enclosed_sound : (enclosed term).Sound (TermRule Operand ConditionOperand) := by
  intro source rest value reading
  simp only [enclosed, bind_eq_read, character_eq_read, layout_eq_read, committed_eq_read,
    pure_eq_read, Sign] at reading
  obtain ⟨⟨⟩, opened, rfl, ⟨⟩, inside, layoutOpened, value', closing, found, ⟨⟩, _, layoutClosing,
    ⟨⟩, _, rfl, rfl, rfl⟩ := reading
  cases sound found with
  | arithmetic derived =>
      exact .arithmetic (.enclosed layoutOpened derived layoutClosing)
  | condition derived =>
      exact .condition (.enclosed layoutOpened derived layoutClosing)

end Terms

theorem negation_sound {operand : Reader Term}
    (sound : operand.Sound (TermRule Operand ConditionOperand)) :
    (negation operand).Sound (TermRule Operand ConditionOperand) := by
  intro source rest value reading
  simp only [negation, bind_eq_read, character_eq_read, layout_eq_read, committed_eq_read,
    spanned_eq_read, demand_eq_read, Term.demandExpr_eq_ok, pure_eq_read, Sign] at reading
  obtain ⟨⟨⟩, afterSign, rfl, ⟨⟩, atInner, layoutSign, ⟨found, start, stop⟩, afterInner,
    ⟨foundReading, -⟩, inner, _, ⟨rfl, rfl⟩, rfl, rfl⟩ := reading
  cases sound foundReading with
  | arithmetic derived =>
      exact .arithmetic (.negation layoutSign derived)

theorem operandOver_sound {operand term : Reader Term}
    (operandSound : operand.Sound (TermRule Operand ConditionOperand))
    (termSound : term.Sound (TermRule Expression Logical)) (consumes : term.Consumes) :
    (operandOver operand term).Sound (TermRule Operand ConditionOperand) := by
  intro source rest value reading
  simp only [operandOver, orElse_eq_read, map_eq_read, number_eq_read, boolean_eq_read,
    Function.comp_apply] at reading
  rcases reading with ⟨number, written, rfl⟩ | ⟨-, ⟨truth, word, rfl⟩ |
    ⟨-, ⟨tree, loopReading, rfl⟩ | ⟨-, ⟨tree, callReading, rfl⟩ |
      ⟨-, ⟨tree, referenceReading, rfl⟩ | ⟨-, enclosedReading | ⟨-, negationReading⟩⟩⟩⟩⟩⟩
  · exact .arithmetic (.number written)
  · exact .condition (.literal word)
  · exact .arithmetic (.loop (loop_sound termSound consumes loopReading))
  · exact .arithmetic (.call (call_sound termSound consumes callReading))
  · exact .arithmetic (.reference (reference_sound referenceReading))
  · exact enclosed_sound termSound enclosedReading
  · exact negation_sound operandSound negationReading

/-! ## Rows of operands -/

theorem followedBy_sound {operator : Reader α} {sign : Rule α} {term : Reader Term}
    {rule : Rule Term} (signSound : operator.Sound sign) (termSound : term.Sound rule) :
    (followedBy operator term).Sound fun source item rest =>
      Then (Spaced sign) rule source (item.1, item.2.value) rest := by
  intro source rest item reading
  simp only [followedBy, bind_eq_read, committed_eq_read, spanned_eq_read, pure_eq_read] at reading
  obtain ⟨op, middle, signReading, ⟨value, start, stop⟩, _, ⟨found, -⟩, rfl, rfl⟩ := reading
  exact .mk (signSound.spaced signReading) (termSound found)

/-- A row is derived if its items match those that are read. -/
theorem followedBy_many_sound {operator : Reader α} {sign : Rule α} {term : Reader Term}
    {rule : Rule Term} {item : Rule β} {related : α × Spanned Term → α × β → Prop}
    (signSound : operator.Sound sign) (termSound : term.Sound rule)
    (operatorConsumes : operator.Consumes) (termConsumes : term.Consumes)
    (isItem : ∀ {found pair source rest}, related found pair → rule source found.2.value rest →
      found.1 = pair.1 ∧ item source pair.2 rest)
    {source rest : List Char} {items : List (α × Spanned Term)} {row : List (α × β)}
    (reading : many (followedBy operator term) source = .read items rest)
    (allRelated : List.Forall₂ related items row) :
    Many (Then (Spaced sign) item) source row rest := by
  have derivedItems := (followedBy_sound signSound termSound).many
    (followedBy_consumes operatorConsumes termConsumes) reading
  refine derivedItems.change allRelated ?_
  rintro source rest ⟨op, term⟩ ⟨op', value⟩ ⟨mark, found⟩ isRelated
  obtain ⟨rfl, derived⟩ := isItem isRelated found
  exact .mk mark derived

section Operands

variable {operand : Reader Term} (sound : operand.Sound (TermRule Operand ConditionOperand))
    (consumes : operand.Consumes)

include sound consumes

theorem sum_sound : (sum operand).Sound (TermRule Sum ConditionOperand) := by
  intro source rest value reading
  simp only [sum, bind_eq_read, spanned_eq_read] at reading
  obtain ⟨⟨first, start, stop⟩, middle, ⟨firstReading, -⟩, items, afterRow, itemsReading,
    resultReading⟩ := reading
  cases items with
  | nil =>
      obtain ⟨rfl, -⟩ :=
        (many_eq_read_nil (followedBy_consumes binaryOp_consumes consumes)).1 itemsReading
      obtain ⟨rfl, rfl⟩ := pure_eq_read.1 resultReading
      cases sound firstReading with
      | arithmetic derived =>
          exact .arithmetic derived.sum
      | condition derived =>
          exact .condition derived
  | cons item items =>
      simp only [List.isEmpty_cons, Bool.false_eq_true, if_false, bind_eq_read, demand_eq_read,
        map_eq_read, Term.demandExpr_eq_ok, demandExprs_eq_ok, grouped_eq_read] at resultReading
      obtain ⟨firstTree, _, ⟨rfl, rfl⟩, row, _, ⟨related, rfl⟩, tree, ⟨⟨edge, grouped⟩, rfl⟩,
        rfl⟩ := resultReading
      have signSound : binaryOp.Sound BinarySign := fun _ _ _ found => binaryOp_eq_read.1 found
      have derivedRow : Many (Then (Spaced BinarySign) Operand) middle row afterRow := by
        refine followedBy_many_sound signSound sound binaryOp_consumes consumes ?_ itemsReading
          related
        rintro found pair source rest ⟨sameOp, isExpr⟩ derived
        rw [isExpr] at derived
        cases derived with
        | arithmetic derived =>
            exact ⟨sameOp, derived⟩
      cases sound firstReading with
      | arithmetic derivedFirst =>
          exact .arithmetic (.mk derivedFirst derivedRow grouped)

theorem comparisonTerm_sound : (comparisonTerm operand).Sound (TermRule Sum LogicalAtom) := by
  have sumSound := sum_sound sound consumes
  intro source rest value reading
  simp only [comparisonTerm, bind_eq_read, spanned_eq_read, optional_eq_read] at reading
  obtain ⟨⟨left, start, stop⟩, middle, ⟨leftReading, -⟩, compared, afterRight, comparedReading,
    resultReading⟩ := reading
  rcases comparedReading with ⟨⟨op, right⟩, rfl, rightReading⟩ | ⟨rfl, rfl, -⟩
  · simp only [bind_eq_read, demand_eq_read, Term.demandExpr_eq_ok, pure_eq_read] at resultReading
    obtain ⟨leftTree, _, ⟨rfl, rfl⟩, rightTree, _, ⟨isExpr, rfl⟩, ⟨⟩, afterCheck, notCompared,
      rfl, rfl⟩ := resultReading
    have unmoved : afterRight = afterCheck := by
      unfold Reader.notCompared at notCompared
      split at notCompared
      · cases notCompared
      · exact (Reply.read.inj notCompared).2
    have signSound : comparison.Sound ComparisonSign := fun _ _ _ => comparison_sound
    obtain ⟨mark, found⟩ := followedBy_sound signSound sumSound rightReading
    rw [isExpr] at found
    subst unmoved
    cases found with
    | arithmetic derivedRight =>
        cases sumSound leftReading with
        | arithmetic derivedLeft =>
            exact .condition (.comparison derivedLeft mark derivedRight)
  · obtain ⟨rfl, rfl⟩ := pure_eq_read.1 resultReading
    cases sumSound leftReading with
    | arithmetic derived =>
        exact .arithmetic derived
    | condition derived =>
        exact .condition derived.logicalAtom

theorem disjunction_sound : (disjunction operand).Sound (TermRule Sum Logical) := by
  have comparisonSound := comparisonTerm_sound sound consumes
  have comparisonConsumes := comparisonTerm_consumes consumes
  intro source rest value reading
  simp only [disjunction, bind_eq_read, spanned_eq_read] at reading
  obtain ⟨⟨first, start, stop⟩, middle, ⟨firstReading, -⟩, items, afterRow, itemsReading,
    resultReading⟩ := reading
  cases items with
  | nil =>
      have connectedConsumes := followedBy_consumes logicalOp_consumes comparisonConsumes
      obtain ⟨rfl, -⟩ := (many_eq_read_nil connectedConsumes).1 itemsReading
      obtain ⟨rfl, rfl⟩ := pure_eq_read.1 resultReading
      cases comparisonSound firstReading with
      | arithmetic derived =>
          exact .arithmetic derived
      | condition derived =>
          exact .condition derived.logical
  | cons item items =>
      simp only [List.isEmpty_cons, Bool.false_eq_true, if_false, bind_eq_read, demand_eq_read,
        map_eq_read, Term.demandCondition_eq_ok, demandConditions_eq_ok] at resultReading
      obtain ⟨firstTest, _, ⟨rfl, rfl⟩, test, ⟨⟨row, related, rfl⟩, rfl⟩, rfl⟩ := resultReading
      have signSound : logicalOp.Sound LogicalSign := fun _ _ _ found => logicalOp_eq_read.1 found
      have derivedRow : Many (Then (Spaced LogicalSign) LogicalAtom) middle row afterRow := by
        refine followedBy_many_sound signSound comparisonSound logicalOp_consumes
          comparisonConsumes ?_ itemsReading related
        rintro found pair source rest ⟨sameOp, isTest⟩ derived
        rw [isTest] at derived
        cases derived with
        | condition derived =>
            exact ⟨sameOp, derived⟩
      cases comparisonSound firstReading with
      | condition derivedFirst =>
          exact .condition (.mk derivedFirst derivedRow)

theorem termOver_sound {term : Reader Term} (termSound : term.Sound (TermRule Expression Logical)) :
    (termOver operand term).Sound (TermRule Expression Logical) := by
  have expressionSound := expression_sound termSound
  intro source rest value reading
  simp only [termOver, branches, bind_eq_read, spanned_eq_read, optional_eq_read,
    committed_eq_read, pure_eq_read] at reading
  obtain ⟨⟨first, start, stop⟩, afterFirst, ⟨firstReading, -⟩, selected, afterSelected,
    selectedReading, resultReading⟩ := reading
  rcases selectedReading with ⟨-, rfl, ⟨⟩, atAccepted, question, accepted, afterAccepted,
    acceptedReading, ⟨⟩, atRejected, colon, rejected, _, rejectedReading, rfl, rfl⟩ | ⟨rfl, rfl, -⟩
  · simp only [bind_eq_read, demand_eq_read, Term.demandCondition_eq_ok, pure_eq_read]
      at resultReading
    obtain ⟨test, _, ⟨rfl, rfl⟩, rfl, rfl⟩ := resultReading
    cases disjunction_sound sound consumes firstReading with
    | condition derivedTest =>
        exact .arithmetic (.ternary derivedTest ((character_sound '?').spaced question)
          (expressionSound acceptedReading) ((character_sound ':').spaced colon)
          (expressionSound rejectedReading))
  · obtain ⟨rfl, rfl⟩ := pure_eq_read.1 resultReading
    cases disjunction_sound sound consumes firstReading with
    | arithmetic derived =>
        exact .arithmetic (.sum derived)
    | condition derived =>
        exact .condition derived

end Operands

theorem operand_and_term_sound (depth : Nat) :
    (operand depth).Sound (TermRule Operand ConditionOperand) ∧
      (term depth).Sound (TermRule Expression Logical) := by
  induction depth with
  | zero =>
      rw [operand_zero, term_zero]
      exact ⟨fun _ _ _ reading => absurd reading refuse_ne_read,
        fun _ _ _ reading => absurd reading refuse_ne_read⟩
  | succ depth inductionHypothesis =>
      obtain ⟨operandSound, termSound⟩ := inductionHypothesis
      rw [operand_succ, term_succ]
      exact ⟨operandOver_sound operandSound termSound (term_consumes depth),
        termOver_sound operandSound (operand_consumes depth) termSound⟩

theorem term_sound (depth : Nat) : (term depth).Sound (TermRule Expression Logical) :=
  (operand_and_term_sound depth).2

theorem functionDeclaration_sound {term : Reader Term}
    (sound : term.Sound (TermRule Expression Logical))
    {source afterBody : List Char} {tree : Formula}
    (reading : functionDeclaration term source = .read tree afterBody) :
    ∀ rest, LastSemicolon afterBody rest → Declaration source tree rest := by
  simp only [functionDeclaration, within_eq_read, bind_eq_read, name_eq_read, pure_eq_read,
    layout_eq_read, character_eq_read, committed_eq_read, spaced_eq_read, assignSign_eq_read, Sign]
    at reading
  obtain ⟨found, afterName, named, ⟨⟩, _, layoutName, ⟨⟩, opened, rfl, ⟨⟩, inside, layoutOpened,
    parameters, closing, parametersReading, ⟨⟩, _, layoutClosing, ⟨⟩, afterClosing, rfl, ⟨⟩, atBody,
    ⟨before, after, layoutBefore, ⟨mark, -⟩, layoutAfter⟩, body, _, bodyReading, rfl, rfl⟩ :=
      reading
  intro rest last
  exact .mk named layoutName layoutOpened
    ((character_sound ',').spaced.separatedOrNone name_sound comma_consumes name_consumes.trims
      parametersReading)
    layoutClosing ⟨before, after, layoutBefore, mark, layoutAfter⟩
    (expression_sound sound bodyReading) last

/-- A formula that is read is derived, though the layout after its last
semicolon is read with it. -/
theorem formula_sound {term : Reader Term}
    (sound : term.Sound (TermRule Expression Logical)) (consumes : term.Consumes)
    {source rest : List Char} {tree : Formula}
    (reading : formula term source = .read tree rest) :
    ∃ rest', FormulaRule source tree rest' ∧ ∀ next, Layout rest next → Layout rest' next := by
  simp only [formula, orElse_eq_read, bind_eq_read, pure_eq_read] at reading
  rcases reading with ⟨tree', afterBody, declared, semicolon?, _, semicolonReading, rfl, rfl⟩ |
    ⟨-, items, afterItems, itemsReading, semicolon?, _, semicolonReading, rfl, rfl⟩
  · obtain ⟨rest', last, layoutAfter⟩ := optionalSemicolon_sound semicolonReading
    exact ⟨rest', .declaration (functionDeclaration_sound sound declared rest' last), layoutAfter⟩
  · obtain ⟨rest', last, layoutAfter⟩ := optionalSemicolon_sound semicolonReading
    have derived := (character_sound ';').spaced.separated (assignment_sound sound)
      semicolon_consumes (assignment_consumes consumes).trims itemsReading
    exact ⟨rest', .assignments (.mk derived last), layoutAfter⟩

end Reader

end RewardFormula
