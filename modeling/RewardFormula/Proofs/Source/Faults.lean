import RewardFormula.Proofs.Source.Soundness

/-!
# The faults that are met in a source

A fault covers a stretch of the source in which it is met, at whatever depth of
the grammar and after however many readings that were given up. A term that is
faulted for its kind is a term of the other kind. No rule faults what it leaves.
-/

namespace RewardFormula

open Grammar

/-- Whether a fault with this cause says that a term is of the wrong kind. -/
def Cause.isDemand : Cause → Bool
  | expectedArithmetic => true
  | expectedCondition => true
  | _ => false

/-- Whether a fault with this cause says that the characters fit no rule, and nothing else. -/
def Cause.isMismatch (cause : Cause) : Bool :=
  !cause.isDemand && decide (cause ≠ .leftovers)

namespace Fault

/-- The fault covers a stretch of the source: what is left after it is an ending
of what is left before it, and that is an ending of the source. -/
structure LiesIn (fault : Fault) (source : List Char) : Prop where
  stop_suffix : fault.stop <:+ fault.start
  start_suffix : fault.start <:+ source

/-- The fault covers a stretch of the source, and a stretch that is not of the
kind that was demanded is of the other. -/
structure AccountedIn (fault : Fault) (source : List Char) : Prop extends
    fault.LiesIn source where
  condition : fault.cause = .expectedArithmetic → ∃ test, Logical fault.start test fault.stop
  expression : fault.cause = .expectedCondition → ∃ tree, Expression fault.start tree fault.stop

variable {whole start stop : List Char}

/-- Faults that are not about the kind of a term only have to lie in the source. -/
theorem AccountedIn.plain {cause : Cause} (stops : stop <:+ start) (starts : start <:+ whole)
    (plain : cause.isDemand = false) :
    (⟨cause, none, start, stop⟩ : Fault).AccountedIn whole where
  stop_suffix := stops
  start_suffix := starts
  condition same := by
    obtain rfl : cause = .expectedArithmetic := same
    cases plain
  expression same := by
    obtain rfl : cause = .expectedCondition := same
    cases plain

/-- The fault is one of those that the rules of the grammar meet. That characters are left
over is said of whole sources only. -/
structure MetIn (fault : Fault) (source : List Char) : Prop extends fault.AccountedIn source where
  notLeftovers : fault.cause ≠ .leftovers

theorem MetIn.plain {cause : Cause} (stops : stop <:+ start) (starts : start <:+ whole)
    (plain : cause.isMismatch = true) :
    (⟨cause, none, start, stop⟩ : Fault).MetIn whole := by
  have parts : cause.isDemand = false ∧ cause ≠ .leftovers := by
    simpa [Cause.isMismatch] using plain
  exact ⟨.plain stops starts parts.1, parts.2⟩

theorem MetIn.within {fault : Fault} (met : fault.MetIn whole)
    (construct : Construct) (origin : List Char) :
    (fault.within construct origin).MetIn whole := by
  unfold Fault.within
  split
  · exact ⟨⟨⟨met.stop_suffix, met.start_suffix⟩, met.condition, met.expression⟩,
      met.notLeftovers⟩
  · exact met

end Fault

namespace Spanned

variable {α : Type} {whole : List Char}

/-- The value is what a reader reads in a source, and its span is what the
reader took. -/
structure ReadBy (reader : Reader α) (whole : List Char) (spanned : Spanned α) : Prop where
  reading : reader spanned.start = .read spanned.value spanned.stop
  stop_suffix : spanned.stop <:+ spanned.start
  start_suffix : spanned.start <:+ whole

end Spanned

/-- What a reply says of a source: the value is as it is said to be, the rest is
an ending of the source, and the fault is accounted for in it. -/
def Reply.AccountsFor (whole : List Char) (found : α → Prop) : Reply α → Prop
  | .read value rest => found value ∧ rest <:+ whole
  | .refused fault => fault.MetIn whole
  | .broken fault => fault.MetIn whole

namespace Reader

variable {α β : Type} {whole : List Char} {found : α → Prop} {result : β → Prop}

/-- The same for the replies at all the places of the source. -/
def AccountsFor (reader : Reader α) (whole : List Char) (found : α → Prop) : Prop :=
  ∀ ⦃source : List Char⦄, source <:+ whole → (reader source).AccountsFor whole found

theorem AccountsFor.weaken {reader : Reader α} {found' : α → Prop}
    (accounts : reader.AccountsFor whole found) (implies : ∀ value, found value → found' value) :
    reader.AccountsFor whole found' := by
  intro source inside
  have reply := accounts inside
  revert reply
  cases reader source with
  | read value rest =>
      exact And.imp_left (implies value)
  | refused fault =>
      exact id
  | broken fault =>
      exact id

theorem pure_accountsFor {value : α} (known : found value) :
    (pure value : Reader α).AccountsFor whole found :=
  fun _ inside => ⟨known, inside⟩

theorem refuse_accountsFor {cause : Cause} (plain : cause.isMismatch = true) :
    (refuse cause : Reader α).AccountsFor whole found :=
  fun _ inside => .plain List.nil_suffix inside plain

theorem AccountsFor.bind {first : Reader α} {next : α → Reader β}
    (firstAccounts : first.AccountsFor whole found)
    (nextAccounts : ∀ value, found value → (next value).AccountsFor whole result) :
    (first >>= next).AccountsFor whole result := by
  intro source inside
  have reply := firstAccounts inside
  simp only [Bind.bind, Reader.bind]
  revert reply
  cases first source with
  | read value rest =>
      rintro ⟨foundValue, restInside⟩
      exact nextAccounts value foundValue restInside
  | refused fault =>
      exact id
  | broken fault =>
      exact id

theorem AccountsFor.map {reader : Reader α} {f : α → β}
    (accounts : reader.AccountsFor whole found) (known : ∀ value, found value → result (f value)) :
    (f <$> reader).AccountsFor whole result :=
  accounts.bind fun value foundValue => pure_accountsFor (known value foundValue)

theorem AccountsFor.orElse {first second : Reader α}
    (firstAccounts : first.AccountsFor whole found)
    (secondAccounts : second.AccountsFor whole found) :
    (first <|> second).AccountsFor whole found := by
  intro source inside
  have reply := firstAccounts inside
  simp only [HOrElse.hOrElse, OrElse.orElse, Reader.orElse]
  revert reply
  cases first source with
  | read value rest =>
      exact id
  | refused fault =>
      exact fun _ => secondAccounts inside
  | broken fault =>
      exact id

theorem AccountsFor.committed {reader : Reader α} (accounts : reader.AccountsFor whole found) :
    (committed reader).AccountsFor whole found := by
  intro source inside
  have reply := accounts inside
  unfold Reader.committed
  revert reply
  cases reader source <;> exact id

theorem AccountsFor.optional {reader : Reader α} (accounts : reader.AccountsFor whole found) :
    (optional reader).AccountsFor whole fun value? => ∀ value ∈ value?, found value := by
  intro source inside
  have reply := accounts inside
  unfold Reader.optional
  revert reply
  cases reader source with
  | read value rest =>
      exact And.imp_left fun known => by simpa using known
  | refused fault =>
      exact fun _ => ⟨by simp, inside⟩
  | broken fault =>
      exact id

/-- The note of a construct leaves the stretch of a fault as it is. -/
theorem AccountsFor.within {reader : Reader α} (construct : Construct)
    (accounts : reader.AccountsFor whole found) :
    (within construct reader).AccountsFor whole found := by
  intro source inside
  have reply := accounts inside
  unfold Reader.within
  revert reply
  cases reader source with
  | read value rest =>
      exact id
  | refused fault =>
      exact fun met => Fault.MetIn.within met construct source
  | broken fault =>
      exact fun met => Fault.MetIn.within met construct source

theorem AccountsFor.spanned {reader : Reader α} (accounts : reader.AccountsFor whole found)
    (trims : reader.Trims) : (spanned reader).AccountsFor whole (Spanned.ReadBy reader whole) := by
  intro source inside
  have reply := accounts inside
  unfold Reader.spanned
  revert reply
  cases atSource : reader source with
  | read value rest =>
      exact And.imp_left fun _ => ⟨atSource, trims atSource, inside⟩
  | refused fault =>
      exact id
  | broken fault =>
      exact id

theorem demand_accountsFor {value : Except Fault α}
    (faults : ∀ fault, value = .error fault → fault.MetIn whole) :
    (demand value).AccountsFor whole fun _ => True := by
  intro source inside
  cases value with
  | ok result =>
      exact ⟨trivial, inside⟩
  | error fault =>
      exact faults fault rfl

theorem AccountsFor.manyWithin {item : Reader α} (accounts : item.AccountsFor whole found)
    (budget : Nat) :
    (manyWithin item budget).AccountsFor whole fun values => ∀ value ∈ values, found value := by
  induction budget with
  | zero =>
      exact pure_accountsFor (by simp)
  | succ budget inductionHypothesis =>
      intro source inside
      have reply := accounts inside
      unfold Reader.manyWithin
      revert reply
      cases item source with
      | refused fault =>
          exact fun _ => ⟨by simp, inside⟩
      | broken fault =>
          exact id
      | read value rest =>
          rintro ⟨foundValue, restInside⟩
          have others := inductionHypothesis restInside
          dsimp only
          split
          · revert others
            cases Reader.manyWithin item budget rest with
            | read values left =>
                exact And.imp_left fun foundValues => by simpa using ⟨foundValue, foundValues⟩
            | refused fault =>
                exact id
            | broken fault =>
                exact id
          · exact .plain List.nil_suffix inside rfl

theorem AccountsFor.many {item : Reader α} (accounts : item.AccountsFor whole found) :
    (many item).AccountsFor whole fun values => ∀ value ∈ values, found value :=
  fun source inside => accounts.manyWithin (source.length + 1) inside

theorem AccountsFor.separated {separator : Reader β} {item : Reader α}
    (separatorAccounts : separator.AccountsFor whole result)
    (itemAccounts : item.AccountsFor whole found) :
    (separated separator item).AccountsFor whole fun _ => True :=
  itemAccounts.bind fun _ _ =>
    (separatorAccounts.bind fun _ _ => itemAccounts).many.bind fun _ _ => pure_accountsFor trivial

theorem AccountsFor.separatedOrNone {separator : Reader β} {item : Reader α}
    (separatorAccounts : separator.AccountsFor whole result)
    (itemAccounts : item.AccountsFor whole found) :
    (separatedOrNone separator item).AccountsFor whole fun _ => True :=
  (separatorAccounts.separated itemAccounts).orElse (pure_accountsFor trivial)

/-! ## Tokens -/

theorem blanks_accountsFor : blanks.AccountsFor whole fun _ => True := by
  intro source inside
  unfold blanks
  split
  · split
    · exact ⟨trivial, ((List.dropWhile_suffix _).trans (List.suffix_cons _ _)).trans inside⟩
    · exact refuse_accountsFor rfl inside
  · exact refuse_accountsFor rfl inside

theorem lineComment_accountsFor : lineComment.AccountsFor whole fun _ => True := by
  intro source inside
  unfold lineComment
  split
  next rest =>
    have shorter : rest <:+ '/' :: '/' :: rest := List.suffix_append ['/', '/'] rest
    exact ⟨trivial, ((List.dropWhile_suffix _).trans shorter).trans inside⟩
  next =>
    exact refuse_accountsFor rfl inside

/-- An open comment is faulted from behind its mark to the end of the source. -/
theorem blockComment_accountsFor : blockComment.AccountsFor whole fun _ => True := by
  intro source inside
  unfold blockComment
  split
  next rest =>
    have shorter : rest <:+ '/' :: '*' :: rest := List.suffix_append ['/', '*'] rest
    split
    next left found =>
      exact ⟨trivial, ((afterBlock?_suffix found).trans shorter).trans inside⟩
    next =>
      exact .plain List.nil_suffix (shorter.trans inside) rfl
  next =>
    exact refuse_accountsFor rfl inside

theorem layout_accountsFor : layout.AccountsFor whole fun _ => True :=
  (blanks_accountsFor.orElse
    (lineComment_accountsFor.orElse blockComment_accountsFor)).many.bind fun _ _ =>
      pure_accountsFor trivial

theorem AccountsFor.spaced {reader : Reader α} (accounts : reader.AccountsFor whole found) :
    (spaced reader).AccountsFor whole found :=
  layout_accountsFor.bind fun _ _ => accounts.bind fun _ known =>
    layout_accountsFor.bind fun _ _ => pure_accountsFor known

theorem character_accountsFor (c : Char) : (character c).AccountsFor whole fun _ => True := by
  intro source inside
  unfold character
  split
  · exact .plain List.nil_suffix inside rfl
  next actual rest =>
    split
    · exact ⟨trivial, (List.suffix_cons actual rest).trans inside⟩
    · exact .plain (List.suffix_cons actual rest) inside rfl

theorem word_accountsFor (expected : String) : (word expected).AccountsFor whole fun _ => True := by
  intro source inside
  cases atSource : word expected source with
  | read value rest =>
      have taken := word_eq_read.1 atSource
      exact ⟨trivial, (taken ▸ List.suffix_append expected.toList rest).trans inside⟩
  | refused fault =>
      unfold word at atSource
      split at atSource
      · cases atSource
      · cases atSource
        exact .plain List.nil_suffix inside rfl
  | broken fault =>
      unfold word at atSource
      split at atSource <;> cases atSource

theorem notFollowedBy_accountsFor (isExcluded : Char → Bool) :
    (notFollowedBy isExcluded).AccountsFor whole fun _ => True := by
  intro source inside
  unfold notFollowedBy
  split
  · split
    · exact refuse_accountsFor rfl inside
    · exact ⟨trivial, inside⟩
  · exact ⟨trivial, inside⟩

theorem keyword_accountsFor (expected : String) :
    (keyword expected).AccountsFor whole fun _ => True :=
  (word_accountsFor expected).bind fun _ _ => notFollowedBy_accountsFor _

/-- A reserved word is faulted from its first to its last character. -/
theorem name_accountsFor : name.AccountsFor whole fun _ => True := by
  intro source inside
  unfold name
  split
  next first rest =>
    have shorter : rest.dropWhile Name.isPart <:+ first :: rest :=
      (List.dropWhile_suffix _).trans (List.suffix_cons first rest)
    split
    · dsimp only
      split
      · exact .plain shorter inside rfl
      · exact ⟨trivial, shorter.trans inside⟩
    · exact refuse_accountsFor rfl inside
  next =>
    exact refuse_accountsFor rfl inside

/-- A numeral that runs into a name is faulted with the first character of the
name, a broken numeral at its first character. -/
theorem number_accountsFor : number.AccountsFor whole fun _ => True := by
  intro source inside
  unfold number
  split
  next first afterFirst =>
    split
    · split
      next =>
        exact .plain (List.suffix_cons first afterFirst) inside rfl
      next decimal scanned =>
        exact ⟨trivial, List.nil_suffix⟩
      next decimal next rest scanned =>
        have left := scan_suffix scanned
        split
        · exact .plain ((List.suffix_cons next rest).trans left) inside rfl
        · exact ⟨trivial, left.trans inside⟩
    · exact refuse_accountsFor rfl inside
  next =>
    exact refuse_accountsFor rfl inside

theorem AccountsFor.giving {reader : Reader β} (accounts : reader.AccountsFor whole result)
    (value : α) : (do let _ ← reader; return value : Reader α).AccountsFor whole fun _ => True :=
  accounts.bind fun _ _ => pure_accountsFor trivial

theorem boolean_accountsFor : boolean.AccountsFor whole fun _ => True :=
  ((keyword_accountsFor "true").giving true).orElse <|
    ((keyword_accountsFor "TRUE").giving true).orElse <|
      ((keyword_accountsFor "false").giving false).orElse <|
        (keyword_accountsFor "FALSE").giving false

theorem assignSign_accountsFor : assignSign.AccountsFor whole fun _ => True :=
  (character_accountsFor '=').bind fun _ _ => notFollowedBy_accountsFor _

theorem comma_accountsFor : comma.AccountsFor whole fun _ => True :=
  (character_accountsFor ',').spaced

theorem semicolon_accountsFor : semicolon.AccountsFor whole fun _ => True :=
  (character_accountsFor ';').spaced

theorem binaryOp_accountsFor : binaryOp.AccountsFor whole fun _ => True :=
  ((character_accountsFor '+').giving _).orElse <|
    ((character_accountsFor '-').giving _).orElse <|
      ((character_accountsFor '*').giving _).orElse <|
        ((character_accountsFor '/').giving _).orElse <| (character_accountsFor '^').giving _

theorem comparison_accountsFor : comparison.AccountsFor whole fun _ => True :=
  ((word_accountsFor "<=").giving _).orElse <| ((word_accountsFor ">=").giving _).orElse <|
    ((word_accountsFor "==").giving _).orElse <| ((word_accountsFor "!=").giving _).orElse <|
      ((word_accountsFor "<").giving _).orElse <| (word_accountsFor ">").giving _

theorem logicalOp_accountsFor : logicalOp.AccountsFor whole fun _ => True :=
  ((word_accountsFor "&&").giving _).orElse <| ((keyword_accountsFor "and").giving _).orElse <|
    ((keyword_accountsFor "AND").giving _).orElse <| ((word_accountsFor "||").giving _).orElse <|
      ((keyword_accountsFor "or").giving _).orElse <| (keyword_accountsFor "OR").giving _

theorem field_accountsFor : field.AccountsFor whole fun _ => True :=
  (character_accountsFor '.').spaced.bind fun _ _ => name_accountsFor.committed

theorem reference_accountsFor : reference.AccountsFor whole fun _ => True :=
  name_accountsFor.bind fun _ _ => field_accountsFor.many.bind fun _ _ => pure_accountsFor trivial

theorem past_accountsFor (c : Char) {next : Reader α} (accounts : next.AccountsFor whole found) :
    (past c next).AccountsFor whole found :=
  layout_accountsFor.bind fun _ _ => (character_accountsFor c).bind fun _ _ => accounts

theorem ended_accountsFor (value : α) : (ended value).AccountsFor whole fun _ => True :=
  semicolon_accountsFor.optional.bind fun _ _ => pure_accountsFor trivial

theorem exclusion_accountsFor : exclusion.AccountsFor whole fun _ => True :=
  (character_accountsFor '-').spaced.bind fun _ _ => reference_accountsFor

theorem returned_accountsFor (body : List Assignment) :
    (returned body).AccountsFor whole fun _ => True := by
  refine (keyword_accountsFor "return").bind fun _ _ => layout_accountsFor.bind fun _ _ => ?_
  refine name_accountsFor.bind fun result _ => semicolon_accountsFor.optional.bind fun _ _ => ?_
  exact past_accountsFor '\x7d' (pure_accountsFor trivial)

theorem loopHeader_accountsFor : loopHeader.AccountsFor whole fun _ => True := by
  refine (character_accountsFor '(').bind fun _ _ => layout_accountsFor.bind fun _ _ => ?_
  refine name_accountsFor.bind fun element _ => ?_
  refine (character_accountsFor ':').spaced.bind fun _ _ => ?_
  refine reference_accountsFor.bind fun base _ => ?_
  refine exclusion_accountsFor.optional.bind fun excluded _ => ?_
  exact past_accountsFor ')' (pure_accountsFor trivial)

end Reader

namespace Grammar

/-- Terms of either kind, at any level of the grammar, are terms. -/
theorem TermRule.widen {exprRule exprRule' : Rule Expr}
    {conditionRule conditionRule' : Rule Condition} {source rest : List Char} {term : Term}
    (derived : TermRule exprRule conditionRule source term rest)
    (widenExpr : ∀ tree, exprRule source tree rest → exprRule' source tree rest)
    (widenCondition : ∀ test, conditionRule source test rest → conditionRule' source test rest) :
    TermRule exprRule' conditionRule' source term rest := by
  cases derived with
  | arithmetic derived =>
      exact .arithmetic (widenExpr _ derived)
  | condition derived =>
      exact .condition (widenCondition _ derived)

end Grammar

/-- The term is derived from the stretch of the source that is noted with it. -/
structure Term.DerivedIn (term : Spanned Term) (whole : List Char) : Prop where
  derived : TermRule Expression Logical term.start term.value term.stop
  stop_suffix : term.stop <:+ term.start
  start_suffix : term.start <:+ whole

namespace Reader

variable {α β : Type} {whole : List Char}

/-- Whatever the reader reads is a term. -/
def ReadsTerms (reader : Reader Term) : Prop :=
  reader.Sound (TermRule Expression Logical)

theorem readsTerms_of_operand {reader : Reader Term}
    (sound : reader.Sound (TermRule Operand ConditionOperand)) : reader.ReadsTerms :=
  fun _ _ _ reading => (sound reading).widen (fun _ derived => .sum derived.sum)
    fun _ derived => derived.logicalAtom.logical

theorem AccountsFor.spannedTerm {reader : Reader Term} {found : Term → Prop}
    (accounts : reader.AccountsFor whole found) (sound : reader.ReadsTerms) (trims : reader.Trims) :
    (Reader.spanned reader).AccountsFor whole (Term.DerivedIn · whole) :=
  (accounts.spanned trims).weaken fun _ read =>
    ⟨sound read.reading, read.stop_suffix, read.start_suffix⟩

theorem demandExpr_accounted {term : Spanned Term} (derivedIn : Term.DerivedIn term whole) :
    ∀ fault, Term.demandExpr term = .error fault → fault.MetIn whole := by
  intro fault demanded
  obtain ⟨derived, stops, starts⟩ := derivedIn
  unfold Term.demandExpr at demanded
  split at demanded
  next =>
    cases demanded
  next test isCondition =>
    cases demanded
    rw [isCondition] at derived
    cases derived with
    | condition derived =>
        exact ⟨⟨⟨stops, starts⟩, fun _ => ⟨test, derived⟩, by simp [Spanned.fault]⟩,
          by simp [Spanned.fault]⟩

theorem demandCondition_accounted {term : Spanned Term} (derivedIn : Term.DerivedIn term whole) :
    ∀ fault, Term.demandCondition term = .error fault → fault.MetIn whole := by
  intro fault demanded
  obtain ⟨derived, stops, starts⟩ := derivedIn
  unfold Term.demandCondition at demanded
  split at demanded
  next =>
    cases demanded
  next tree isExpr =>
    cases demanded
    rw [isExpr] at derived
    cases derived with
    | arithmetic derived =>
        exact ⟨⟨⟨stops, starts⟩, by simp [Spanned.fault], fun _ => ⟨tree, derived⟩⟩,
          by simp [Spanned.fault]⟩

theorem demandExprs_accounted {items : List (BinaryOp × Spanned Term)}
    (derivedIn : ∀ item ∈ items, Term.DerivedIn item.2 whole) :
    ∀ fault, demandExprs items = .error fault → fault.MetIn whole := by
  intro fault demanded
  obtain ⟨item, member, faulted⟩ := exists_of_demandExprs demanded
  exact demandExpr_accounted (derivedIn item member) fault faulted

theorem demandConditions_accounted {left : Condition} {items : List (LogicalOp × Spanned Term)}
    (derivedIn : ∀ item ∈ items, Term.DerivedIn item.2 whole) :
    ∀ fault, demandConditions left items = .error fault → fault.MetIn whole := by
  intro fault demanded
  obtain ⟨item, member, faulted⟩ := exists_of_demandConditions demanded
  exact demandCondition_accounted (derivedIn item member) fault faulted

/-! ## Expressions and assignments over terms -/

section Terms

variable {term : Reader Term} (accounts : term.AccountsFor whole fun _ => True)
    (sound : term.ReadsTerms) (consumes : term.Consumes)

include accounts sound consumes

theorem expression_accountsFor : (expression term).AccountsFor whole fun _ => True :=
  ((accounts.spannedTerm sound consumes.trims).within .expression).bind fun _ derivedIn =>
    demand_accountsFor (demandExpr_accounted derivedIn)

theorem condition_accountsFor : (condition term).AccountsFor whole fun _ => True :=
  (accounts.spannedTerm sound consumes.trims).bind fun _ derivedIn =>
    demand_accountsFor (demandCondition_accounted derivedIn)

theorem assigned_accountsFor (make : Expr → α) :
    (assigned term make).AccountsFor whole fun _ => True := by
  have valueAccounts := (expression_accountsFor accounts sound consumes).committed
  exact assignSign_accountsFor.spaced.bind fun _ _ => valueAccounts.bind fun _ _ =>
    pure_accountsFor trivial

theorem assignment_accountsFor : (assignment term).AccountsFor whole fun _ => True :=
  (name_accountsFor.bind fun name _ =>
    assigned_accountsFor accounts sound consumes (Assignment.assign name)).within .assignment

theorem statement_accountsFor : (statement term).AccountsFor whole fun _ => True :=
  (assignment_accountsFor accounts sound consumes).bind fun _ _ =>
    semicolon_accountsFor.bind fun _ _ => pure_accountsFor trivial

theorem call_accountsFor : (call term).AccountsFor whole fun _ => True := by
  have argumentsAccounts :=
    comma_accountsFor.separatedOrNone (expression_accountsFor accounts sound consumes)
  have closedAccounts : (do
      let arguments ← separatedOrNone comma (expression term)
      past ')' (return arguments)).AccountsFor whole fun _ => True :=
    argumentsAccounts.bind fun _ _ => past_accountsFor ')' (pure_accountsFor trivial)
  refine AccountsFor.within .function (name_accountsFor.bind fun name _ => ?_)
  refine past_accountsFor '(' (layout_accountsFor.bind fun _ _ => ?_)
  exact closedAccounts.committed.bind fun _ _ => pure_accountsFor trivial

theorem loopBody_accountsFor : (loopBody term).AccountsFor whole fun _ => True := by
  have statementAccounts := statement_accountsFor accounts sound consumes
  refine (character_accountsFor '\x7b').bind fun _ _ => layout_accountsFor.bind fun _ _ => ?_
  exact statementAccounts.many.bind fun body _ => returned_accountsFor body

theorem loop_accountsFor : (loop term).AccountsFor whole fun _ => True := by
  refine ((keyword_accountsFor "for").bind fun _ _ => layout_accountsFor.bind fun _ _ =>
    AccountsFor.committed (loopHeader_accountsFor.bind ?_)).within .loop
  rintro ⟨element, base, excluded⟩ -
  refine layout_accountsFor.bind fun _ _ =>
    (loopBody_accountsFor accounts sound consumes).bind ?_
  rintro ⟨body, result⟩ -
  exact pure_accountsFor trivial

theorem branches_accountsFor : (branches term).AccountsFor whole fun _ => True := by
  have expressionAccounts := expression_accountsFor accounts sound consumes
  refine (character_accountsFor '?').spaced.bind fun _ _ => AccountsFor.committed ?_
  refine expressionAccounts.bind fun _ _ => (character_accountsFor ':').spaced.bind fun _ _ => ?_
  exact expressionAccounts.bind fun _ _ => pure_accountsFor trivial

theorem functionDeclaration_accountsFor :
    (functionDeclaration term).AccountsFor whole fun _ => True := by
  refine AccountsFor.within .function (name_accountsFor.bind fun name _ => ?_)
  refine past_accountsFor '(' (layout_accountsFor.bind fun _ _ => ?_)
  refine (comma_accountsFor.separatedOrNone name_accountsFor).bind fun parameters _ => ?_
  exact past_accountsFor ')' <|
    assigned_accountsFor accounts sound consumes (Formula.function name parameters)

theorem formula_accountsFor : (formula term).AccountsFor whole fun _ => True := by
  have declarationAccounts := (functionDeclaration_accountsFor accounts sound consumes).bind
    fun tree _ => ended_accountsFor tree
  have itemsAccounts :=
    semicolon_accountsFor.separated (assignment_accountsFor accounts sound consumes)
  exact declarationAccounts.orElse <|
    itemsAccounts.bind fun items _ => ended_accountsFor (Formula.assignments items)

omit sound consumes in
theorem enclosed_accountsFor : (enclosed term).AccountsFor whole fun _ => True := by
  have closedAccounts : (do
      let term ← term
      past ')' (return term)).AccountsFor whole fun _ => True :=
    accounts.bind fun _ _ => past_accountsFor ')' (pure_accountsFor trivial)
  exact (character_accountsFor '(').bind fun _ _ => layout_accountsFor.bind fun _ _ =>
    closedAccounts.committed

end Terms

theorem followedBy_accountsFor {operator : Reader α} {term : Reader Term}
    (operatorAccounts : operator.AccountsFor whole fun _ => True)
    (accounts : term.AccountsFor whole fun _ => True) (sound : term.ReadsTerms)
    (trims : term.Trims) :
    (followedBy operator term).AccountsFor whole fun item => Term.DerivedIn item.2 whole :=
  operatorAccounts.spaced.bind fun _ _ => (accounts.spannedTerm sound trims).committed.bind
    fun _ derivedIn => pure_accountsFor derivedIn

theorem grouped_accountsFor (first : Expr) (row : List (BinaryOp × Expr)) :
    (grouped first row).AccountsFor whole fun _ => True := by
  unfold grouped
  split
  · exact pure_accountsFor trivial
  · exact refuse_accountsFor rfl

/-- A second comparison is faulted at its sign. -/
theorem notCompared_accountsFor : notCompared.AccountsFor whole fun _ => True := by
  intro source inside
  have sign : (do layout; spanned comparison : Reader (Spanned Comparison)).AccountsFor whole
      (Spanned.ReadBy comparison whole) :=
    layout_accountsFor.bind fun _ _ => comparison_accountsFor.spanned comparison_consumes.trims
  have reply := sign inside
  unfold notCompared
  split
  next found rest reading =>
    rw [reading] at reply
    exact .plain reply.1.stop_suffix reply.1.start_suffix rfl
  next =>
    exact ⟨trivial, inside⟩

section Operands

variable {operand : Reader Term} (accounts : operand.AccountsFor whole fun _ => True)
    (sound : operand.Sound (TermRule Operand ConditionOperand)) (consumes : operand.Consumes)

include accounts sound consumes

theorem negation_accountsFor : (negation operand).AccountsFor whole fun _ => True := by
  have innerAccounts := accounts.spannedTerm (readsTerms_of_operand sound) consumes.trims
  refine (character_accountsFor '-').bind fun _ _ => layout_accountsFor.bind fun _ _ => ?_
  refine innerAccounts.committed.bind fun inner derivedIn => ?_
  exact (demand_accountsFor (demandExpr_accounted derivedIn)).bind fun _ _ =>
    pure_accountsFor trivial

theorem operandOver_accountsFor {term : Reader Term}
    (termAccounts : term.AccountsFor whole fun _ => True) (termSound : term.ReadsTerms)
    (termConsumes : term.Consumes) : (operandOver operand term).AccountsFor whole fun _ => True :=
  (number_accountsFor.map fun _ _ => trivial).orElse <|
    (boolean_accountsFor.map fun _ _ => trivial).orElse <|
      ((loop_accountsFor termAccounts termSound termConsumes).map fun _ _ => trivial).orElse <|
        ((call_accountsFor termAccounts termSound termConsumes).map fun _ _ => trivial).orElse <|
          (reference_accountsFor.map fun _ _ => trivial).orElse <|
            (enclosed_accountsFor termAccounts).orElse <|
              negation_accountsFor accounts sound consumes

theorem sum_accountsFor : (sum operand).AccountsFor whole fun _ => True := by
  have readsTerms := readsTerms_of_operand sound
  refine (accounts.spannedTerm readsTerms consumes.trims).bind fun first firstIn =>
    (followedBy_accountsFor binaryOp_accountsFor accounts readsTerms consumes.trims).many.bind
      fun rest restIn => ?_
  split
  · exact pure_accountsFor trivial
  · exact (demand_accountsFor (demandExpr_accounted firstIn)).bind fun first _ =>
      (demand_accountsFor (demandExprs_accounted restIn)).bind fun row _ =>
        (grouped_accountsFor first row).map fun _ _ => trivial

theorem comparisonTerm_accountsFor : (comparisonTerm operand).AccountsFor whole fun _ => True := by
  have sumAccounts := sum_accountsFor accounts sound consumes
  have sumTrims := (sum_consumes consumes).trims
  have readsTerms : (sum operand).ReadsTerms := fun _ _ _ reading =>
    (sum_sound sound consumes reading).widen (fun _ derived => .sum derived)
      fun _ derived => derived.logicalAtom.logical
  refine (sumAccounts.spannedTerm readsTerms sumTrims).bind fun left leftIn =>
    (followedBy_accountsFor comparison_accountsFor sumAccounts readsTerms sumTrims).optional.bind
      fun compared comparedIn => ?_
  match compared with
  | none =>
      exact pure_accountsFor trivial
  | some (op, right) =>
      have rightIn := comparedIn (op, right) rfl
      exact (demand_accountsFor (demandExpr_accounted leftIn)).bind fun _ _ =>
        (demand_accountsFor (demandExpr_accounted rightIn)).bind fun _ _ =>
          notCompared_accountsFor.bind fun _ _ => pure_accountsFor trivial

theorem disjunction_accountsFor : (disjunction operand).AccountsFor whole fun _ => True := by
  have comparisonAccounts := comparisonTerm_accountsFor accounts sound consumes
  have comparisonTrims := (comparisonTerm_consumes consumes).trims
  have readsTerms : (comparisonTerm operand).ReadsTerms := fun _ _ _ reading =>
    (comparisonTerm_sound sound consumes reading).widen (fun _ derived => .sum derived)
      fun _ derived => derived.logical
  refine (comparisonAccounts.spannedTerm readsTerms comparisonTrims).bind fun first firstIn =>
    (followedBy_accountsFor logicalOp_accountsFor comparisonAccounts readsTerms
      comparisonTrims).many.bind fun rest restIn => ?_
  split
  · exact pure_accountsFor trivial
  · exact (demand_accountsFor (demandCondition_accounted firstIn)).bind fun _ _ =>
      (demand_accountsFor (demandConditions_accounted restIn)).map fun _ _ => trivial

theorem termOver_accountsFor {term : Reader Term}
    (termAccounts : term.AccountsFor whole fun _ => True) (termSound : term.ReadsTerms)
    (termConsumes : term.Consumes) : (termOver operand term).AccountsFor whole fun _ => True := by
  have branchesAccounts := branches_accountsFor termAccounts termSound termConsumes
  have readsTerms : (disjunction operand).ReadsTerms := fun _ _ _ reading =>
    (disjunction_sound sound consumes reading).widen (fun _ derived => .sum derived)
      fun _ derived => derived
  refine ((disjunction_accountsFor accounts sound consumes).spannedTerm readsTerms
    (disjunction_consumes consumes).trims).bind fun first firstIn =>
      branchesAccounts.optional.bind fun selected _ => ?_
  match selected with
  | none =>
      exact pure_accountsFor trivial
  | some (accepted, rejected) =>
      exact (demand_accountsFor (demandCondition_accounted firstIn)).bind fun _ _ =>
        pure_accountsFor trivial

end Operands

theorem operand_and_term_accountsFor (depth : Nat) :
    (operand depth).AccountsFor whole (fun _ => True) ∧
      (term depth).AccountsFor whole fun _ => True := by
  induction depth with
  | zero =>
      rw [operand_zero, term_zero]
      exact ⟨refuse_accountsFor rfl, refuse_accountsFor rfl⟩
  | succ depth inductionHypothesis =>
      obtain ⟨operandAccounts, termAccounts⟩ := inductionHypothesis
      obtain ⟨operandSound, termSound⟩ := operand_and_term_sound depth
      rw [operand_succ, term_succ]
      exact ⟨operandOver_accountsFor operandAccounts operandSound (operand_consumes depth)
          termAccounts termSound (term_consumes depth),
        termOver_accountsFor operandAccounts operandSound (operand_consumes depth)
          termAccounts termSound (term_consumes depth)⟩

theorem term_accountsFor (depth : Nat) : (term depth).AccountsFor whole fun _ => True :=
  (operand_and_term_accountsFor depth).2

end Reader

end RewardFormula
