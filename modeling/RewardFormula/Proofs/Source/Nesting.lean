import RewardFormula.Proofs.Source.Progress

/-!
# Nested rules are met at shorter endings

Between a rule and the rules that are nested in it at least one character is
taken. So what a rule replies at a source is settled by what the nested rules
reply at the shorter endings of the source, and what stands for them elsewhere
does not matter. Two levels for each character, and two for the end of the source,
are as many as its reading can use, and with these no rule meets a defect of the
grammar.
-/

namespace RewardFormula

/-- Whether the cause is that the rules of the grammar failed themselves. -/
def Cause.isDefect : Cause → Bool
  | defect _ => true
  | _ => false

namespace Fault

@[simp] theorem within_cause (construct : Construct) (origin : List Char) (fault : Fault) :
    (fault.within construct origin).cause = fault.cause := by
  unfold Fault.within
  split <;> rfl

end Fault

/-- What a reply at a source should be: it leaves an ending of the source, or has
a fault of the source and not of the grammar. -/
def Reply.IsProper (source : List Char) : Reply α → Prop
  | read _ rest => rest <:+ source
  | refused fault => fault.cause.isDefect = false
  | broken fault => fault.cause.isDefect = false

theorem Reply.IsProper.of_suffix {source source' : List Char} {reply : Reply α}
    (proper : reply.IsProper source) (ending : source <:+ source') : reply.IsProper source' := by
  cases reply with
  | read value rest =>
      exact List.IsSuffix.trans proper ending
  | refused fault =>
      exact proper
  | broken fault =>
      exact proper

namespace Reader

variable {α β : Type} {whole : List Char} {bound : Nat}

/-- At the endings of a source that are shorter than a bound, the two readers give
the same reply, and a proper one. -/
def AgreeBelow (whole : List Char) (bound : Nat) (reader reader' : Reader α) : Prop :=
  ∀ ⦃source⦄, source <:+ whole → source.length < bound →
    reader source = reader' source ∧ (reader source).IsProper source

theorem AgreeBelow.refl {reader : Reader α}
    (proper : ∀ source, (reader source).IsProper source) : AgreeBelow whole bound reader reader :=
  fun source _ _ => ⟨rfl, proper source⟩

theorem AgreeBelow.mono {reader reader' : Reader α} {bound' : Nat}
    (agree : AgreeBelow whole bound reader reader') (le : bound' ≤ bound) :
    AgreeBelow whole bound' reader reader' :=
  fun _ inside short => agree inside (Nat.lt_of_lt_of_le short le)

theorem pure_agree (value : α) : AgreeBelow whole bound (pure value) (pure value) :=
  .refl fun source => List.suffix_refl source

theorem demand_agree {value : Except Fault α}
    (plain : ∀ fault, value = .error fault → fault.cause.isDefect = false) :
    AgreeBelow whole bound (demand value) (demand value) := by
  refine .refl fun source => ?_
  cases value with
  | ok result =>
      exact List.suffix_refl source
  | error fault =>
      exact plain fault rfl

/-- What comes next only has to agree at what is left of the places where the first
readers agree. -/
theorem AgreeBelow.bind_places {first first' : Reader α} {next next' : α → Reader β}
    (firstAgree : AgreeBelow whole bound first first')
    (nextAgree : ∀ {source value rest}, source <:+ whole → source.length < bound →
      first source = .read value rest → rest <:+ source →
        next value rest = next' value rest ∧ (next value rest).IsProper rest) :
    AgreeBelow whole bound (first >>= next) (first' >>= next') := by
  intro source inside short
  obtain ⟨same, proper⟩ := firstAgree inside short
  simp only [Bind.bind, Reader.bind, ← same]
  cases reading : first source with
  | read value rest =>
      rw [reading] at proper
      obtain ⟨nextSame, nextProper⟩ := nextAgree inside short reading proper
      exact ⟨nextSame, nextProper.of_suffix proper⟩
  | refused fault =>
      rw [reading] at proper
      exact ⟨rfl, proper⟩
  | broken fault =>
      rw [reading] at proper
      exact ⟨rfl, proper⟩

theorem AgreeBelow.bind {first first' : Reader α} {next next' : α → Reader β}
    (firstAgree : AgreeBelow whole bound first first')
    (nextAgree : ∀ value, AgreeBelow whole bound (next value) (next' value)) :
    AgreeBelow whole bound (first >>= next) (first' >>= next') :=
  firstAgree.bind_places fun inside short _ ending =>
    nextAgree _ (ending.trans inside) (Nat.lt_of_le_of_lt ending.length_le short)

/-- Behind a reader that takes a character the bound is one less. -/
theorem AgreeBelow.bind_behind {first first' : Reader α} {next next' : α → Reader β}
    (firstAgree : AgreeBelow whole (bound + 1) first first') (consumes : first.Consumes)
    (nextAgree : ∀ value, AgreeBelow whole bound (next value) (next' value)) :
    AgreeBelow whole (bound + 1) (first >>= next) (first' >>= next') :=
  firstAgree.bind_places fun inside short reading ending =>
    nextAgree _ (ending.trans inside)
      (Nat.lt_of_lt_of_le (consumes reading).2 (Nat.le_of_lt_succ short))

theorem AgreeBelow.map {reader reader' : Reader α} (f : α → β)
    (agree : AgreeBelow whole bound reader reader') :
    AgreeBelow whole bound (f <$> reader) (f <$> reader') :=
  agree.bind fun value => pure_agree (f value)

section Choices

variable {reader reader' : Reader α} (agree : AgreeBelow whole bound reader reader')

include agree

theorem AgreeBelow.orElse {second second' : Reader α}
    (secondAgree : AgreeBelow whole bound second second') :
    AgreeBelow whole bound (reader <|> second) (reader' <|> second') := by
  intro source inside short
  obtain ⟨same, proper⟩ := agree inside short
  simp only [HOrElse.hOrElse, OrElse.orElse, Reader.orElse]
  rw [← same]
  revert proper
  cases reader source with
  | read value rest =>
      exact fun proper => ⟨rfl, proper⟩
  | refused fault =>
      exact fun _ => secondAgree inside short
  | broken fault =>
      exact fun proper => ⟨rfl, proper⟩

theorem AgreeBelow.committed :
    AgreeBelow whole bound (committed reader) (Reader.committed reader') := by
  intro source inside short
  obtain ⟨same, proper⟩ := agree inside short
  refine ⟨by simp only [Reader.committed, same], ?_⟩
  unfold Reader.committed
  revert proper
  cases reader source <;> exact id

theorem AgreeBelow.optional :
    AgreeBelow whole bound (optional reader) (Reader.optional reader') := by
  intro source inside short
  obtain ⟨same, proper⟩ := agree inside short
  refine ⟨by simp only [Reader.optional, same], ?_⟩
  unfold Reader.optional
  revert proper
  cases reader source with
  | read value rest =>
      exact id
  | refused fault =>
      exact fun _ => List.suffix_refl source
  | broken fault =>
      exact id

/-- The note of a construct leaves the cause of a fault as it is. -/
theorem AgreeBelow.within (construct : Construct) :
    AgreeBelow whole bound (within construct reader) (Reader.within construct reader') := by
  intro source inside short
  obtain ⟨same, proper⟩ := agree inside short
  refine ⟨by simp only [Reader.within, same], ?_⟩
  unfold Reader.within
  revert proper
  cases reader source with
  | read value rest =>
      exact id
  | refused fault =>
      exact (congrArg Cause.isDefect (fault.within_cause construct source)).trans
  | broken fault =>
      exact (congrArg Cause.isDefect (fault.within_cause construct source)).trans

theorem AgreeBelow.spanned :
    AgreeBelow whole bound (spanned reader) (Reader.spanned reader') := by
  intro source inside short
  obtain ⟨same, proper⟩ := agree inside short
  refine ⟨by simp only [Reader.spanned, same], ?_⟩
  unfold Reader.spanned
  revert proper
  cases reader source <;> exact id

end Choices

section Repetition

variable {item item' : Reader α} (agree : AgreeBelow whole bound item item')
  (consumes : item.Consumes)

include agree consumes

/-- An item that takes a character never stalls a repetition. -/
theorem AgreeBelow.manyWithin (budget : Nat) :
    AgreeBelow whole bound (manyWithin item budget) (Reader.manyWithin item' budget) := by
  induction budget with
  | zero =>
      exact pure_agree []
  | succ budget inductionHypothesis =>
      intro source inside short
      obtain ⟨same, proper⟩ := agree inside short
      simp only [Reader.manyWithin]
      rw [← same]
      cases reading : item source with
      | refused fault =>
          exact ⟨rfl, List.suffix_refl source⟩
      | broken fault =>
          rw [reading] at proper
          exact ⟨rfl, proper⟩
      | read value rest =>
          obtain ⟨ending, shorter⟩ := consumes reading
          obtain ⟨othersSame, othersProper⟩ :=
            inductionHypothesis (ending.trans inside) (Nat.lt_trans shorter short)
          simp only [shorter, if_true]
          rw [← othersSame]
          revert othersProper
          cases Reader.manyWithin item budget rest with
          | read values left =>
              exact fun leftEnding => ⟨rfl, List.IsSuffix.trans leftEnding ending⟩
          | refused fault =>
              exact fun plain => ⟨rfl, plain⟩
          | broken fault =>
              exact fun plain => ⟨rfl, plain⟩

theorem AgreeBelow.many : AgreeBelow whole bound (many item) (Reader.many item') :=
  fun source inside short => agree.manyWithin consumes (source.length + 1) inside short

variable {separator : Reader β} (separatorAgree : AgreeBelow whole bound separator separator)
  (separatorConsumes : separator.Consumes)

include separatorAgree separatorConsumes

theorem AgreeBelow.separated :
    AgreeBelow whole bound (separated separator item) (Reader.separated separator item') :=
  agree.bind fun _ =>
    ((separatorAgree.bind fun _ => agree).many
      (separatorConsumes.bind fun _ => consumes.trims)).bind fun _ => pure_agree _

theorem AgreeBelow.separatedOrNone :
    AgreeBelow whole bound (separatedOrNone separator item)
      (Reader.separatedOrNone separator item') :=
  (agree.separated consumes separatorAgree separatorConsumes).orElse (pure_agree [])

end Repetition

/-! ## Tokens -/

theorem blanks_agree : AgreeBelow whole bound blanks blanks := by
  refine .refl fun source => ?_
  unfold blanks
  split
  next first rest =>
    split
    · exact (List.dropWhile_suffix _).trans (List.suffix_cons first rest)
    · rfl
  next =>
    rfl

theorem lineComment_agree : AgreeBelow whole bound lineComment lineComment := by
  refine .refl fun source => ?_
  unfold lineComment
  split
  next rest =>
    exact (List.dropWhile_suffix _).trans (List.suffix_append ['/', '/'] rest)
  next =>
    rfl

theorem blockComment_agree : AgreeBelow whole bound blockComment blockComment := by
  refine .refl fun source => ?_
  unfold blockComment
  split
  next rest =>
    split
    next left closed =>
      exact (afterBlock?_suffix closed).trans (List.suffix_append ['/', '*'] rest)
    next =>
      rfl
  next =>
    rfl

theorem layoutUnit_agree : AgreeBelow whole bound layoutUnit layoutUnit :=
  blanks_agree.orElse (lineComment_agree.orElse blockComment_agree)

theorem layout_agree : AgreeBelow whole bound layout layout :=
  (layoutUnit_agree.many layoutUnit_consumes).bind fun _ => pure_agree ()

theorem AgreeBelow.spaced {reader reader' : Reader α}
    (agree : AgreeBelow whole bound reader reader') :
    AgreeBelow whole bound (spaced reader) (Reader.spaced reader') :=
  layout_agree.bind fun _ => agree.bind fun value => layout_agree.bind fun _ => pure_agree value

theorem character_agree (c : Char) : AgreeBelow whole bound (character c) (character c) := by
  refine .refl fun source => ?_
  unfold character
  split
  next =>
    rfl
  next actual rest =>
    split
    · exact List.suffix_cons actual rest
    · rfl

theorem word_agree (expected : String) :
    AgreeBelow whole bound (word expected) (word expected) := by
  refine .refl fun source => ?_
  cases reading : word expected source with
  | read value rest =>
      exact ⟨expected.toList, (word_eq_read.1 reading).symm⟩
  | refused fault =>
      unfold word at reading
      split at reading <;> cases reading
      rfl
  | broken fault =>
      unfold word at reading
      split at reading <;> cases reading

theorem notFollowedBy_agree (isExcluded : Char → Bool) :
    AgreeBelow whole bound (notFollowedBy isExcluded) (notFollowedBy isExcluded) := by
  refine .refl fun source => ?_
  unfold notFollowedBy
  split
  next next rest =>
    split
    · rfl
    · exact List.suffix_refl (next :: rest)
  next =>
    exact List.suffix_refl []

theorem keyword_agree (expected : String) :
    AgreeBelow whole bound (keyword expected) (keyword expected) :=
  (word_agree expected).bind fun _ => notFollowedBy_agree _

theorem name_agree : AgreeBelow whole bound name name := by
  refine .refl fun source => ?_
  unfold name
  split
  next first rest =>
    split
    · dsimp only
      split
      · rfl
      · exact (List.dropWhile_suffix _).trans (List.suffix_cons first rest)
    · rfl
  next =>
    rfl

theorem number_agree : AgreeBelow whole bound number number := by
  refine .refl fun source => ?_
  unfold number
  split
  next first afterFirst =>
    split
    · split
      next =>
        rfl
      next decimal scanned =>
        exact List.nil_suffix
      next decimal next rest scanned =>
        split
        · rfl
        · exact Grammar.scan_suffix scanned
    · rfl
  next =>
    rfl

theorem giving_agree {reader : Reader α} (agree : AgreeBelow whole bound reader reader)
    (value : β) :
    AgreeBelow whole bound (do let _ ← reader; return value)
      (do let _ ← reader; return value) :=
  agree.bind fun _ => pure_agree value

theorem boolean_agree : AgreeBelow whole bound boolean boolean :=
  (giving_agree (keyword_agree "true") true).orElse <|
    (giving_agree (keyword_agree "TRUE") true).orElse <|
      (giving_agree (keyword_agree "false") false).orElse <|
        giving_agree (keyword_agree "FALSE") false

theorem assignSign_agree : AgreeBelow whole bound assignSign assignSign :=
  (character_agree '=').bind fun _ => notFollowedBy_agree _

theorem comma_agree : AgreeBelow whole bound comma comma :=
  (character_agree ',').spaced

theorem semicolon_agree : AgreeBelow whole bound semicolon semicolon :=
  (character_agree ';').spaced

theorem binaryOp_agree : AgreeBelow whole bound binaryOp binaryOp :=
  (giving_agree (character_agree '+') _).orElse <|
    (giving_agree (character_agree '-') _).orElse <|
      (giving_agree (character_agree '*') _).orElse <|
        (giving_agree (character_agree '/') _).orElse <| giving_agree (character_agree '^') _

theorem comparison_agree : AgreeBelow whole bound comparison comparison :=
  (giving_agree (word_agree "<=") _).orElse <| (giving_agree (word_agree ">=") _).orElse <|
    (giving_agree (word_agree "==") _).orElse <| (giving_agree (word_agree "!=") _).orElse <|
      (giving_agree (word_agree "<") _).orElse <| giving_agree (word_agree ">") _

theorem logicalOp_agree : AgreeBelow whole bound logicalOp logicalOp :=
  (giving_agree (word_agree "&&") _).orElse <| (giving_agree (keyword_agree "and") _).orElse <|
    (giving_agree (keyword_agree "AND") _).orElse <| (giving_agree (word_agree "||") _).orElse <|
      (giving_agree (keyword_agree "or") _).orElse <| giving_agree (keyword_agree "OR") _

theorem field_agree : AgreeBelow whole bound field field :=
  (character_agree '.').spaced.bind fun _ => name_agree.committed

theorem reference_agree : AgreeBelow whole bound reference reference :=
  name_agree.bind fun _ => (field_agree.many field_consumes).bind fun _ => pure_agree _

theorem past_agree (c : Char) {next next' : Reader α}
    (nextAgree : AgreeBelow whole bound next next') :
    AgreeBelow whole bound (past c next) (past c next') :=
  layout_agree.bind fun _ => (character_agree c).bind fun _ => nextAgree

theorem ended_agree (value : α) : AgreeBelow whole bound (ended value) (ended value) :=
  semicolon_agree.optional.bind fun _ => pure_agree value

theorem exclusion_agree : AgreeBelow whole bound exclusion exclusion :=
  (character_agree '-').spaced.bind fun _ => reference_agree

theorem returned_agree (body : List Assignment) :
    AgreeBelow whole bound (returned body) (returned body) := by
  refine (keyword_agree "return").bind fun _ => layout_agree.bind fun _ => ?_
  refine name_agree.bind fun result => semicolon_agree.optional.bind fun _ => ?_
  exact past_agree '\x7d' (pure_agree (body, result))

theorem loopHeader_agree : AgreeBelow whole bound loopHeader loopHeader := by
  refine (character_agree '(').bind fun _ => layout_agree.bind fun _ => ?_
  refine name_agree.bind fun element => (character_agree ':').spaced.bind fun _ => ?_
  refine reference_agree.bind fun base => exclusion_agree.optional.bind fun excluded => ?_
  exact past_agree ')' (pure_agree (element, base, excluded))

theorem demandExpr_plain (term : Spanned Term) :
    ∀ fault, Term.demandExpr term = .error fault → fault.cause.isDefect = false := by
  intro fault demanded
  unfold Term.demandExpr at demanded
  split at demanded <;> cases demanded
  rfl

theorem demandCondition_plain (term : Spanned Term) :
    ∀ fault, Term.demandCondition term = .error fault → fault.cause.isDefect = false := by
  intro fault demanded
  unfold Term.demandCondition at demanded
  split at demanded <;> cases demanded
  rfl

theorem demandExprs_plain (items : List (BinaryOp × Spanned Term)) :
    ∀ fault, demandExprs items = .error fault → fault.cause.isDefect = false := by
  intro fault demanded
  obtain ⟨item, -, faulted⟩ := exists_of_demandExprs demanded
  exact demandExpr_plain item.2 fault faulted

theorem demandConditions_plain (left : Condition) (items : List (LogicalOp × Spanned Term)) :
    ∀ fault, demandConditions left items = .error fault → fault.cause.isDefect = false := by
  intro fault demanded
  obtain ⟨item, -, faulted⟩ := exists_of_demandConditions demanded
  exact demandCondition_plain item.2 fault faulted

/-! ## Expressions and assignments over terms -/

section Terms

variable {term term' : Reader Term} (agree : AgreeBelow whole bound term term')

include agree

theorem expression_agree : AgreeBelow whole bound (expression term) (expression term') :=
  (agree.spanned.within .expression).bind fun term => demand_agree (demandExpr_plain term)

theorem condition_agree : AgreeBelow whole bound (condition term) (condition term') :=
  agree.spanned.bind fun term => demand_agree (demandCondition_plain term)

theorem assigned_agree (make : Expr → α) :
    AgreeBelow whole bound (assigned term make) (assigned term' make) := by
  have valueAgree := (expression_agree agree).committed
  exact assignSign_agree.spaced.bind fun _ => valueAgree.bind fun value => pure_agree (make value)

theorem assignment_agree : AgreeBelow whole (bound + 1) (assignment term) (assignment term') :=
  (name_agree.bind_behind name_consumes fun name =>
    assigned_agree agree (Assignment.assign name)).within .assignment

theorem statement_agree : AgreeBelow whole (bound + 1) (statement term) (statement term') :=
  (assignment_agree agree).bind fun item => semicolon_agree.bind fun _ => pure_agree item

theorem enclosed_agree : AgreeBelow whole (bound + 1) (enclosed term) (enclosed term') := by
  have closedAgree := agree.bind fun term => past_agree ')' (pure_agree term)
  refine (character_agree '(').bind_behind (character_consumes '(') fun _ => ?_
  exact layout_agree.bind fun _ => closedAgree.committed

theorem branches_agree : AgreeBelow whole (bound + 1) (branches term) (branches term') := by
  have expressionAgree := expression_agree agree
  refine (character_agree '?').spaced.bind_behind (character_consumes '?').spaced fun _ => ?_
  refine AgreeBelow.committed (expressionAgree.bind fun accepted => ?_)
  refine (character_agree ':').spaced.bind fun _ => ?_
  exact expressionAgree.bind fun rejected => pure_agree (accepted, rejected)

theorem functionDeclaration_agree :
    AgreeBelow whole (bound + 1) (functionDeclaration term) (functionDeclaration term') := by
  have parametersAgree : AgreeBelow whole bound (separatedOrNone comma name) _ :=
    name_agree.separatedOrNone name_consumes comma_agree comma_consumes
  refine AgreeBelow.within (name_agree.bind_behind name_consumes fun name => ?_) .function
  refine past_agree '(' (layout_agree.bind fun _ => parametersAgree.bind fun parameters => ?_)
  exact past_agree ')' (assigned_agree agree (Formula.function name parameters))

variable (consumes : term.Consumes)

include consumes

theorem arguments_agree :
    AgreeBelow whole bound (separatedOrNone comma (expression term))
      (separatedOrNone comma (expression term')) :=
  (expression_agree agree).separatedOrNone (expression_consumes consumes) comma_agree comma_consumes

theorem call_agree : AgreeBelow whole (bound + 1) (call term) (call term') := by
  have closedAgree := (arguments_agree agree consumes).bind fun arguments =>
    past_agree ')' (pure_agree arguments)
  refine AgreeBelow.within (name_agree.bind_behind name_consumes fun name => ?_) .function
  refine past_agree '(' (layout_agree.bind fun _ => ?_)
  exact closedAgree.committed.bind fun arguments => pure_agree (Expr.call name arguments)

theorem loopBody_agree : AgreeBelow whole (bound + 1) (loopBody term) (loopBody term') := by
  have statementAgree := (statement_agree agree).mono (Nat.le_succ bound)
  have bodyAgree := statementAgree.many (statement_consumes consumes)
  refine (character_agree '\x7b').bind_behind (character_consumes '\x7b') fun _ => ?_
  exact layout_agree.bind fun _ => bodyAgree.bind fun body => returned_agree body

theorem loop_agree : AgreeBelow whole (bound + 1) (loop term) (loop term') := by
  refine AgreeBelow.within ((keyword_agree "for").bind fun _ => layout_agree.bind fun _ =>
    AgreeBelow.committed (loopHeader_agree.bind ?_)) .loop
  rintro ⟨element, base, excluded⟩
  refine layout_agree.bind fun _ => (loopBody_agree agree consumes).bind ?_
  rintro ⟨body, result⟩
  exact pure_agree _

theorem formula_agree : AgreeBelow whole (bound + 1) (formula term) (formula term') := by
  have declarationAgree := (functionDeclaration_agree agree).bind fun tree => ended_agree tree
  have itemsAgree := (assignment_agree agree).separated (assignment_consumes consumes)
    semicolon_agree semicolon_consumes
  exact declarationAgree.orElse <|
    itemsAgree.bind fun items => ended_agree (Formula.assignments items)

end Terms

theorem followedBy_agree {operator : Reader α} {term term' : Reader Term}
    (operatorAgree : AgreeBelow whole bound operator operator)
    (agree : AgreeBelow whole bound term term') :
    AgreeBelow whole bound (followedBy operator term) (followedBy operator term') :=
  operatorAgree.spaced.bind fun _ => agree.spanned.committed.bind fun _ => pure_agree _

/-- There is a place on the right edge for every operation. -/
theorem grouped_agree (first : Expr) (row : List (BinaryOp × Expr)) :
    AgreeBelow whole bound (grouped first row) (grouped first row) := by
  unfold grouped
  split
  next =>
    exact pure_agree _
  next ungrouped =>
    have isSome := Expr.group?_isSome first row
    rw [ungrouped] at isSome
    cases isSome

theorem notCompared_agree : AgreeBelow whole bound notCompared notCompared := by
  refine .refl fun source => ?_
  unfold notCompared
  split
  · rfl
  · exact List.suffix_refl source

section Operands

variable {operand operand' : Reader Term} (agree : AgreeBelow whole bound operand operand')

include agree

theorem negation_agree : AgreeBelow whole (bound + 1) (negation operand) (negation operand') := by
  refine (character_agree '-').bind_behind (character_consumes '-') fun _ => ?_
  refine layout_agree.bind fun _ => agree.spanned.committed.bind fun inner => ?_
  exact (demand_agree (demandExpr_plain inner)).bind fun _ => pure_agree _

theorem operandOver_agree {term term' : Reader Term} (termAgree : AgreeBelow whole bound term term')
    (termConsumes : term.Consumes) :
    AgreeBelow whole (bound + 1) (operandOver operand term) (operandOver operand' term') :=
  (number_agree.map _).orElse <| (boolean_agree.map _).orElse <|
    ((loop_agree termAgree termConsumes).map _).orElse <|
      ((call_agree termAgree termConsumes).map _).orElse <| (reference_agree.map _).orElse <|
        (enclosed_agree termAgree).orElse (negation_agree agree)

variable (consumes : operand.Consumes)

include consumes

theorem sum_agree : AgreeBelow whole bound (sum operand) (sum operand') := by
  refine agree.spanned.bind fun first =>
    ((followedBy_agree binaryOp_agree agree).many
      (followedBy_consumes binaryOp_consumes consumes)).bind fun rest => ?_
  split
  · exact pure_agree _
  · exact (demand_agree (demandExpr_plain first)).bind fun first =>
      (demand_agree (demandExprs_plain rest)).bind fun row => (grouped_agree first row).map _

theorem comparisonTerm_agree :
    AgreeBelow whole bound (comparisonTerm operand) (comparisonTerm operand') := by
  have sumAgree := sum_agree agree consumes
  refine sumAgree.spanned.bind fun left =>
    (followedBy_agree comparison_agree sumAgree).optional.bind fun compared => ?_
  match compared with
  | none =>
      exact pure_agree _
  | some (op, right) =>
      exact (demand_agree (demandExpr_plain left)).bind fun _ =>
        (demand_agree (demandExpr_plain right)).bind fun _ =>
          notCompared_agree.bind fun _ => pure_agree _

theorem disjunction_agree :
    AgreeBelow whole bound (disjunction operand) (disjunction operand') := by
  have comparisonAgree := comparisonTerm_agree agree consumes
  refine comparisonAgree.spanned.bind fun first =>
    ((followedBy_agree logicalOp_agree comparisonAgree).many
      (followedBy_consumes logicalOp_consumes (comparisonTerm_consumes consumes))).bind
        fun rest => ?_
  split
  · exact pure_agree _
  · exact (demand_agree (demandCondition_plain first)).bind fun first =>
      (demand_agree (demandConditions_plain first rest)).map _

end Operands

/-- The condition is read at the source itself, and the branches behind it. -/
theorem termOver_agree {operand operand' term term' : Reader Term}
    (agree : AgreeBelow whole (bound + 1) operand operand') (consumes : operand.Consumes)
    (termAgree : AgreeBelow whole bound term term') :
    AgreeBelow whole (bound + 1) (termOver operand term) (termOver operand' term') := by
  refine (disjunction_agree agree consumes).spanned.bind fun first =>
    (branches_agree termAgree).optional.bind fun selected => ?_
  match selected with
  | none =>
      exact pure_agree _
  | some (accepted, rejected) =>
      exact (demand_agree (demandCondition_plain first)).bind fun test => pure_agree _

/-- Rules for operands and terms in which rules are nested to a depth, each level
made of the level below it. What stands at the depth of zero is left open. -/
structure Levels where
  operandAt : Nat → Reader Term
  termAt : Nat → Reader Term
  operandAt_succ : ∀ depth, operandAt (depth + 1) = operandOver (operandAt depth) (termAt depth)
  termAt_succ : ∀ depth, termAt (depth + 1) = termOver (operandAt depth) (termAt depth)

/-- The levels of the grammar, where the depth of zero is a defect. -/
def Levels.ofGrammar : Levels where
  operandAt := operand
  termAt := term
  operandAt_succ := operand_succ
  termAt_succ := term_succ

namespace Levels

variable (levels : Levels) {depth depth' : Nat}

/-- Operands agree at sources one character longer than the rules nested in them. -/
theorem operand_succ_agree
    (operandAgree : AgreeBelow whole bound (operand depth) (levels.operandAt depth'))
    (termAgree : AgreeBelow whole bound (term depth) (levels.termAt depth')) :
    AgreeBelow whole (bound + 1) (operand (depth + 1)) (levels.operandAt (depth' + 1)) := by
  rw [operand_succ, levels.operandAt_succ]
  exact operandOver_agree operandAgree termAgree (term_consumes depth)

/-- Terms agree where the operands that they begin with do. -/
theorem term_succ_agree
    (operandAgree : AgreeBelow whole (bound + 1) (operand depth) (levels.operandAt depth'))
    (termAgree : AgreeBelow whole bound (term depth) (levels.termAt depth')) :
    AgreeBelow whole (bound + 1) (term (depth + 1)) (levels.termAt (depth' + 1)) := by
  rw [term_succ, levels.termAt_succ]
  exact termOver_agree operandAgree (operand_consumes depth) termAgree

/-- Two levels for each character are enough, one for operands and one for terms. -/
theorem agreeBelow (bound : Nat) :
    (∀ {depth depth'}, 2 * bound ≤ depth + 1 → 2 * bound ≤ depth' + 1 →
      AgreeBelow whole bound (operand depth) (levels.operandAt depth')) ∧
    ∀ {depth depth'}, 2 * bound ≤ depth → 2 * bound ≤ depth' →
      AgreeBelow whole bound (term depth) (levels.termAt depth') := by
  induction bound with
  | zero =>
      exact ⟨fun _ _ _ _ short => absurd short (Nat.not_lt_zero _),
        fun _ _ _ _ short => absurd short (Nat.not_lt_zero _)⟩
  | succ bound inductionHypothesis =>
      obtain ⟨ofOperands, ofTerms⟩ := inductionHypothesis
      -- Terms begin with operands at the same source, so operands go first.
      have ofOperandsNext : ∀ {depth depth'}, 2 * (bound + 1) ≤ depth + 1 →
          2 * (bound + 1) ≤ depth' + 1 →
            AgreeBelow whole (bound + 1) (operand depth) (levels.operandAt depth') := by
        intro depth depth' enough enough'
        obtain ⟨depth, rfl⟩ := Nat.exists_eq_add_one_of_ne_zero (by omega : depth ≠ 0)
        obtain ⟨depth', rfl⟩ := Nat.exists_eq_add_one_of_ne_zero (by omega : depth' ≠ 0)
        exact levels.operand_succ_agree (ofOperands (by omega) (by omega))
          (ofTerms (by omega) (by omega))
      refine ⟨ofOperandsNext, fun {depth depth'} enough enough' => ?_⟩
      obtain ⟨depth, rfl⟩ := Nat.exists_eq_add_one_of_ne_zero (by omega : depth ≠ 0)
      obtain ⟨depth', rfl⟩ := Nat.exists_eq_add_one_of_ne_zero (by omega : depth' ≠ 0)
      exact levels.term_succ_agree (ofOperandsNext (by omega) (by omega))
        (ofTerms (by omega) (by omega))

end Levels

end Reader

end RewardFormula
