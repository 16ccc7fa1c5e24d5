import RewardFormula.Proofs.Source.NumeralReading
import RewardFormula.Source.Grammar

/-!
# Readers go forward

What a reader leaves is an ending of its source, and a shorter one for every
reader that may be repeated or nested. So repetitions are never stalled, and an
induction on the length of the source goes through the rules of the grammar.
-/

namespace RewardFormula

namespace Reader

open Grammar

variable {α β : Type}

theorem consumes_of_append {reader : Reader α}
    (taken : ∀ {source rest value}, reader source = .read value rest →
      ∃ front, front ≠ [] ∧ source = front ++ rest) :
    reader.Consumes := by
  intro source rest value reading
  obtain ⟨front, nonempty, rfl⟩ := taken reading
  have positive := List.length_pos_iff.2 nonempty
  refine ⟨List.suffix_append front rest, ?_⟩
  rw [List.length_append]
  omega

theorem pure_trims (value : α) : (pure value : Reader α).Trims := by
  intro source rest result reading
  obtain ⟨-, rfl⟩ := pure_eq_read.1 reading
  exact List.suffix_refl source

theorem demand_trims (value : Except Fault α) : (demand value).Trims := by
  intro source rest result reading
  obtain ⟨-, rfl⟩ := demand_eq_read.1 reading
  exact List.suffix_refl source

theorem refuse_consumes (cause : Cause) : (refuse cause : Reader α).Consumes := by
  intro source rest value reading
  exact absurd reading refuse_ne_read

theorem notFollowedBy_trims (isExcluded : Char → Bool) : (notFollowedBy isExcluded).Trims := by
  intro source rest value reading
  obtain ⟨rfl, -⟩ := notFollowedBy_eq_read.1 reading
  exact List.suffix_refl source

theorem Trims.bind {first : Reader α} {next : α → Reader β}
    (firstTrims : first.Trims) (nextTrims : ∀ value, (next value).Trims) :
    (first >>= next).Trims := by
  intro source rest result reading
  obtain ⟨value, middle, firstReading, nextReading⟩ := bind_eq_read.1 reading
  exact (nextTrims value nextReading).trans (firstTrims firstReading)

theorem Consumes.bind {first : Reader α} {next : α → Reader β}
    (firstConsumes : first.Consumes) (nextTrims : ∀ value, (next value).Trims) :
    (first >>= next).Consumes := by
  intro source rest result reading
  obtain ⟨value, middle, firstReading, nextReading⟩ := bind_eq_read.1 reading
  obtain ⟨ending, shorter⟩ := firstConsumes firstReading
  have later := nextTrims value nextReading
  exact ⟨later.trans ending, Nat.lt_of_le_of_lt later.length_le shorter⟩

theorem Trims.bind_consumes {first : Reader α} {next : α → Reader β}
    (firstTrims : first.Trims) (nextConsumes : ∀ value, (next value).Consumes) :
    (first >>= next).Consumes := by
  intro source rest result reading
  obtain ⟨value, middle, firstReading, nextReading⟩ := bind_eq_read.1 reading
  obtain ⟨ending, shorter⟩ := nextConsumes value nextReading
  have earlier := firstTrims firstReading
  exact ⟨ending.trans earlier, Nat.lt_of_lt_of_le shorter earlier.length_le⟩

theorem Consumes.map {reader : Reader α} (f : α → β) (consumes : reader.Consumes) :
    (f <$> reader).Consumes :=
  consumes.bind fun value => pure_trims (f value)

theorem Trims.map {reader : Reader α} (f : α → β) (trims : reader.Trims) :
    (f <$> reader).Trims :=
  trims.bind fun value => pure_trims (f value)

theorem Consumes.giving {reader : Reader α} (consumes : reader.Consumes) (value : β) :
    (do let _ ← reader; return value : Reader β).Consumes :=
  consumes.bind fun _ => pure_trims value

theorem Consumes.orElse {first second : Reader α}
    (firstConsumes : first.Consumes) (secondConsumes : second.Consumes) :
    (first <|> second).Consumes := by
  intro source rest value reading
  rcases orElse_eq_read.1 reading with firstReading | ⟨-, secondReading⟩
  · exact firstConsumes firstReading
  · exact secondConsumes secondReading

theorem Trims.orElse {first second : Reader α}
    (firstTrims : first.Trims) (secondTrims : second.Trims) : (first <|> second).Trims := by
  intro source rest value reading
  rcases orElse_eq_read.1 reading with firstReading | ⟨-, secondReading⟩
  · exact firstTrims firstReading
  · exact secondTrims secondReading

theorem Trims.optional {reader : Reader α} (trims : reader.Trims) :
    (optional reader).Trims := by
  intro source rest value reading
  rcases optional_eq_read.1 reading with ⟨found, -, present⟩ | ⟨-, rfl, -⟩
  · exact trims present
  · exact List.suffix_refl rest

theorem Consumes.committed {reader : Reader α} (consumes : reader.Consumes) :
    (committed reader).Consumes :=
  fun _ _ _ reading => consumes (committed_eq_read.1 reading)

theorem Trims.committed {reader : Reader α} (trims : reader.Trims) : (committed reader).Trims :=
  fun _ _ _ reading => trims (committed_eq_read.1 reading)

theorem Consumes.within {reader : Reader α} (construct : Construct) (consumes : reader.Consumes) :
    (within construct reader).Consumes :=
  fun _ _ _ reading => consumes (within_eq_read.1 reading)

theorem Consumes.spanned {reader : Reader α} (consumes : reader.Consumes) :
    (spanned reader).Consumes :=
  fun _ _ _ reading => consumes (spanned_eq_read.1 reading).1

theorem Consumes.spaced {reader : Reader α} (consumes : reader.Consumes) :
    (spaced reader).Consumes :=
  layout_trims.bind_consumes fun _ => consumes.bind fun value =>
    layout_trims.bind fun _ => pure_trims value

theorem Consumes.separated {separator : Reader β} {item : Reader α}
    (separatorConsumes : separator.Consumes) (itemConsumes : item.Consumes) :
    (separated separator item).Consumes :=
  itemConsumes.bind fun first =>
    (many_trims (separatorConsumes.bind fun _ => itemConsumes.trims)).bind fun rest =>
      pure_trims (first :: rest)

theorem Consumes.separatedOrNone {separator : Reader β} {item : Reader α}
    (separatorConsumes : separator.Consumes) (itemConsumes : item.Consumes) :
    (separatedOrNone separator item).Trims :=
  (separatorConsumes.separated itemConsumes).trims.orElse (pure_trims [])

theorem character_consumes (c : Char) : (character c).Consumes :=
  consumes_of_append fun reading => ⟨[c], by simp, character_eq_read.1 reading⟩

theorem word_consumes {expected : String} (nonempty : expected.toList ≠ []) :
    (word expected).Consumes :=
  consumes_of_append fun reading => ⟨expected.toList, nonempty, word_eq_read.1 reading⟩

theorem keyword_consumes {expected : String} (nonempty : expected.toList ≠ []) :
    (keyword expected).Consumes :=
  (word_consumes nonempty).bind fun _ => notFollowedBy_trims _

theorem name_consumes : name.Consumes := by
  refine consumes_of_append fun {source rest found} reading => ?_
  obtain ⟨split, valid, -⟩ := name_eq_read.1 reading
  refine ⟨found.toList, ?_, split⟩
  intro empty
  simp [Name.isValid, empty] at valid

theorem number_consumes : number.Consumes := by
  refine consumes_of_append fun {source rest value} reading => ?_
  obtain ⟨numeral, decimal, split, written, -⟩ := number_eq_read.1 reading
  refine ⟨numeral, ?_, split⟩
  rintro rfl
  exact absurd written.scan (by simp [Decimal.scan])

theorem boolean_consumes : boolean.Consumes :=
  ((keyword_consumes (by decide)).giving true).orElse <|
    ((keyword_consumes (by decide)).giving true).orElse <|
      ((keyword_consumes (by decide)).giving false).orElse <|
        (keyword_consumes (by decide)).giving false

theorem assignSign_consumes : assignSign.Consumes :=
  (character_consumes '=').bind fun _ => notFollowedBy_trims _

theorem comma_consumes : comma.Consumes :=
  (character_consumes ',').spaced

theorem semicolon_consumes : semicolon.Consumes :=
  (character_consumes ';').spaced

theorem binaryOp_consumes : binaryOp.Consumes := by
  refine consumes_of_append fun {source rest op} reading => ⟨op.symbol.toList, ?_, ?_⟩
  · cases op <;> decide
  · exact binaryOp_eq_read.1 reading

theorem comparison_consumes : comparison.Consumes := by
  refine consumes_of_append fun {source rest op} reading => ⟨op.symbol.toList, ?_, ?_⟩
  · cases op <;> decide
  · exact comparison_sound reading

theorem logicalOp_consumes : logicalOp.Consumes := by
  refine consumes_of_append fun {source rest op} reading => ?_
  cases logicalOp_eq_read.1 reading with
  | symbol =>
      exact ⟨op.symbol.toList, by cases op <;> decide, rfl⟩
  | smallAnd found =>
      exact ⟨_, by decide, found.1⟩
  | capitalAnd found =>
      exact ⟨_, by decide, found.1⟩
  | smallOr found =>
      exact ⟨_, by decide, found.1⟩
  | capitalOr found =>
      exact ⟨_, by decide, found.1⟩

theorem field_consumes : field.Consumes :=
  (character_consumes '.').spaced.bind fun _ => name_consumes.committed.trims

theorem reference_consumes : reference.Consumes :=
  name_consumes.bind fun _ => (many_trims field_consumes).bind fun _ => pure_trims _

/-- A sign with layout in front of it, and what comes next. -/
def past (c : Char) (next : Reader α) : Reader α := do
  layout
  character c
  next

/-- A value, and the semicolon that may follow it. -/
def ended (value : α) : Reader α := do
  let _ ← optional semicolon
  return value

/-- The element that a loop leaves out. -/
def exclusion : Reader Expr := do
  spaced (character '-')
  reference

/-- The name that a loop returns, and the end of its body. -/
def returned (body : List Assignment) : Reader (List Assignment × String) := do
  keyword "return"
  layout
  let result ← name
  let _ ← optional semicolon
  past '\x7d' (return (body, result))

/-- An assigned expression, with what is made of it. -/
def assigned (term : Reader Term) (make : Expr → α) : Reader α := do
  spaced assignSign
  let value ← committed (expression term)
  return make value

/-- An assignment of a loop with its semicolon. -/
def statement (term : Reader Term) : Reader Assignment := do
  let item ← assignment term
  semicolon
  return item

theorem past_trims (c : Char) {next : Reader α} (nextTrims : next.Trims) : (past c next).Trims :=
  layout_trims.bind fun _ => (character_consumes c).trims.bind fun _ => nextTrims

theorem ended_trims (value : α) : (ended value).Trims :=
  semicolon_consumes.trims.optional.bind fun _ => pure_trims value

theorem exclusion_consumes : exclusion.Consumes :=
  (character_consumes '-').spaced.bind fun _ => reference_consumes.trims

theorem returned_trims (body : List Assignment) : (returned body).Trims := by
  refine (keyword_consumes (by decide)).trims.bind fun _ => layout_trims.bind fun _ => ?_
  refine name_consumes.trims.bind fun result => semicolon_consumes.trims.optional.bind fun _ => ?_
  exact past_trims '\x7d' (pure_trims (body, result))

theorem loopHeader_consumes : loopHeader.Consumes := by
  refine (character_consumes '(').bind fun _ => layout_trims.bind fun _ => ?_
  refine name_consumes.trims.bind fun element => ?_
  refine (character_consumes ':').spaced.trims.bind fun _ => ?_
  refine reference_consumes.trims.bind fun base => ?_
  refine exclusion_consumes.trims.optional.bind fun excluded => ?_
  exact past_trims ')' (pure_trims (element, base, excluded))

section Terms

variable {term : Reader Term} (termConsumes : term.Consumes)

include termConsumes

theorem expression_consumes : (expression term).Consumes :=
  (termConsumes.spanned.within .expression).bind fun _ => demand_trims _

theorem condition_consumes : (condition term).Consumes :=
  termConsumes.spanned.bind fun _ => demand_trims _

theorem assigned_trims (make : Expr → α) : (assigned term make).Trims := by
  have valueTrims := (expression_consumes termConsumes).committed.trims
  exact assignSign_consumes.spaced.trims.bind fun _ => valueTrims.bind fun _ => pure_trims _

theorem assignment_consumes : (assignment term).Consumes :=
  (name_consumes.bind fun name =>
    assigned_trims termConsumes (Assignment.assign name)).within .assignment

theorem statement_consumes : (statement term).Consumes :=
  (assignment_consumes termConsumes).bind fun item =>
    semicolon_consumes.trims.bind fun _ => pure_trims item

theorem arguments_trims :
    (separatedOrNone comma (expression term)).Trims :=
  comma_consumes.separatedOrNone (expression_consumes termConsumes)

theorem call_consumes : (call term).Consumes := by
  have closedTrims := (arguments_trims termConsumes).bind fun arguments =>
    past_trims ')' (pure_trims arguments)
  refine Consumes.within .function (name_consumes.bind fun name => ?_)
  refine past_trims '(' (layout_trims.bind fun _ => ?_)
  exact closedTrims.committed.bind fun arguments => pure_trims (Expr.call name arguments)

theorem loopBody_consumes : (loopBody term).Consumes := by
  refine (character_consumes '\x7b').bind fun _ => layout_trims.bind fun _ => ?_
  exact (many_trims (statement_consumes termConsumes)).bind fun body => returned_trims body

theorem loop_consumes : (loop term).Consumes := by
  refine ((keyword_consumes (by decide)).bind fun _ => layout_trims.bind fun _ => ?_).within .loop
  refine Trims.committed (loopHeader_consumes.trims.bind ?_)
  rintro ⟨element, base, excluded⟩
  refine layout_trims.bind fun _ => (loopBody_consumes termConsumes).trims.bind ?_
  rintro ⟨body, result⟩
  exact pure_trims _

theorem enclosed_consumes : (enclosed term).Consumes := by
  have closedTrims := termConsumes.trims.bind fun term => past_trims ')' (pure_trims term)
  exact (character_consumes '(').bind fun _ => layout_trims.bind fun _ => closedTrims.committed

theorem branches_consumes : (branches term).Consumes := by
  have expressionTrims := (expression_consumes termConsumes).trims
  refine (character_consumes '?').spaced.bind fun _ => Trims.committed ?_
  refine expressionTrims.bind fun accepted => (character_consumes ':').spaced.trims.bind fun _ => ?_
  exact expressionTrims.bind fun rejected => pure_trims (accepted, rejected)

theorem functionDeclaration_consumes : (functionDeclaration term).Consumes := by
  refine Consumes.within .function (name_consumes.bind fun name => ?_)
  refine past_trims '(' (layout_trims.bind fun _ => ?_)
  refine (comma_consumes.separatedOrNone name_consumes).bind fun parameters => ?_
  exact past_trims ')' (assigned_trims termConsumes (Formula.function name parameters))

theorem formula_consumes : (formula term).Consumes := by
  have declarations := (functionDeclaration_consumes termConsumes).bind fun tree => ended_trims tree
  have items := semicolon_consumes.separated (assignment_consumes termConsumes)
  exact declarations.orElse (items.bind fun items => ended_trims (Formula.assignments items))

end Terms

theorem negation_consumes {operand : Reader Term} (operandConsumes : operand.Consumes) :
    (negation operand).Consumes := by
  have innerTrims := operandConsumes.spanned.committed.trims
  refine (character_consumes '-').bind fun _ => layout_trims.bind fun _ => ?_
  exact innerTrims.bind fun inner => (demand_trims _).bind fun _ => pure_trims _

theorem operandOver_consumes {operand term : Reader Term}
    (operandConsumes : operand.Consumes) (termConsumes : term.Consumes) :
    (operandOver operand term).Consumes :=
  (number_consumes.map _).orElse <| (boolean_consumes.map _).orElse <|
    ((loop_consumes termConsumes).map _).orElse <| ((call_consumes termConsumes).map _).orElse <|
      (reference_consumes.map _).orElse <| (enclosed_consumes termConsumes).orElse <|
        negation_consumes operandConsumes

theorem followedBy_consumes {operator : Reader α} {term : Reader Term}
    (operatorConsumes : operator.Consumes) (termConsumes : term.Consumes) :
    (followedBy operator term).Consumes :=
  operatorConsumes.spaced.bind fun _ => termConsumes.spanned.committed.trims.bind fun _ =>
    pure_trims _

/-- A row of operands is faulted for one of them. -/
theorem exists_of_demandExprs {items : List (BinaryOp × Spanned Term)} {fault : Fault}
    (demanded : demandExprs items = .error fault) :
    ∃ item ∈ items, Term.demandExpr item.2 = .error fault := by
  induction items with
  | nil =>
      cases demanded
  | cons item items inductionHypothesis =>
      simp only [demandExprs] at demanded
      split at demanded
      next =>
        cases demanded
      next first =>
        cases demanded
        exact ⟨item, List.mem_cons_self, first⟩
      next others _ =>
        cases demanded
        obtain ⟨other, member, second⟩ := inductionHypothesis others
        exact ⟨other, List.mem_cons_of_mem item member, second⟩

/-- A row of conditions is faulted for one of those behind the first. -/
theorem exists_of_demandConditions {left : Condition} {items : List (LogicalOp × Spanned Term)}
    {fault : Fault} (demanded : demandConditions left items = .error fault) :
    ∃ item ∈ items, Term.demandCondition item.2 = .error fault := by
  induction items generalizing left with
  | nil =>
      cases demanded
  | cons item items inductionHypothesis =>
      simp only [demandConditions] at demanded
      split at demanded
      next right =>
        obtain ⟨other, member, second⟩ := inductionHypothesis demanded
        exact ⟨other, List.mem_cons_of_mem item member, second⟩
      next first =>
        cases demanded
        exact ⟨item, List.mem_cons_self, first⟩

theorem grouped_trims (first : Expr) (row : List (BinaryOp × Expr)) :
    (grouped first row).Trims := by
  unfold grouped
  split
  · exact pure_trims _
  · exact (refuse_consumes _).trims

theorem notCompared_trims : notCompared.Trims := by
  intro source rest value reading
  unfold notCompared at reading
  split at reading
  · cases reading
  · cases reading
    exact List.suffix_refl source

section Operands

variable {operand : Reader Term} (operandConsumes : operand.Consumes)

include operandConsumes

theorem sum_consumes : (sum operand).Consumes := by
  refine operandConsumes.spanned.bind fun first =>
    (many_trims (followedBy_consumes binaryOp_consumes operandConsumes)).bind fun rest => ?_
  split
  · exact pure_trims _
  · exact (demand_trims _).bind fun first => (demand_trims _).bind fun row =>
      (grouped_trims first row).map _

theorem comparisonTerm_consumes : (comparisonTerm operand).Consumes := by
  have sumConsumes := sum_consumes operandConsumes
  refine sumConsumes.spanned.bind fun left =>
    (followedBy_consumes comparison_consumes sumConsumes).trims.optional.bind fun compared => ?_
  match compared with
  | none =>
      exact pure_trims _
  | some (op, right) =>
      exact (demand_trims _).bind fun left => (demand_trims _).bind fun right =>
        notCompared_trims.bind fun _ => pure_trims _

theorem disjunction_consumes : (disjunction operand).Consumes := by
  have comparisonConsumes := comparisonTerm_consumes operandConsumes
  refine comparisonConsumes.spanned.bind fun first =>
    (many_trims (followedBy_consumes logicalOp_consumes comparisonConsumes)).bind fun rest => ?_
  split
  · exact pure_trims _
  · exact (demand_trims _).bind fun first => (demand_trims _).map _

theorem termOver_consumes {term : Reader Term} (termConsumes : term.Consumes) :
    (termOver operand term).Consumes := by
  refine (disjunction_consumes operandConsumes).spanned.bind fun first =>
    (branches_consumes termConsumes).trims.optional.bind fun selected => ?_
  match selected with
  | none =>
      exact pure_trims _
  | some (accepted, rejected) =>
      exact (demand_trims _).bind fun test => pure_trims _

end Operands

theorem operand_zero : operand 0 = refuse (.defect .tooDeep) := by
  funext source
  simp only [operand]

theorem term_zero : term 0 = refuse (.defect .tooDeep) := by
  funext source
  simp only [term]

theorem operand_succ (depth : Nat) :
    operand (depth + 1) = operandOver (operand depth) (term depth) := by
  funext source
  simp only [operand]

theorem term_succ (depth : Nat) : term (depth + 1) = termOver (operand depth) (term depth) := by
  funext source
  simp only [term]

/-- Operands and terms take at least one character, whatever the depth. -/
theorem operand_and_term_consumes (depth : Nat) :
    (operand depth).Consumes ∧ (term depth).Consumes := by
  induction depth with
  | zero =>
      rw [operand_zero, term_zero]
      exact ⟨refuse_consumes _, refuse_consumes _⟩
  | succ depth inductionHypothesis =>
      obtain ⟨operandConsumes, termConsumes⟩ := inductionHypothesis
      rw [operand_succ, term_succ]
      exact ⟨operandOver_consumes operandConsumes termConsumes,
        termOver_consumes operandConsumes termConsumes⟩

theorem operand_consumes (depth : Nat) : (operand depth).Consumes :=
  (operand_and_term_consumes depth).1

theorem term_consumes (depth : Nat) : (term depth).Consumes :=
  (operand_and_term_consumes depth).2

end Reader

end RewardFormula
