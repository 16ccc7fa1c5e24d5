import RewardFormula.Proofs.Source.Following
import RewardFormula.Source

/-!
# What is derived is read

A reader reads what its rule derives wherever the rest does not continue it. The
induction is on the length of the source: a rule that is nested in another one
is applied behind at least one character.
-/

namespace RewardFormula

namespace Reader

open Grammar

variable {α β : Type}

/-- In sources shorter than the bound, the reader reads whatever the rule
derives, if what follows is as it should be. -/
def CompleteBelow (bound : Nat) (reader : Reader α) (rule : Rule α) (follow : List Char → Prop) :
    Prop :=
  ∀ ⦃source rest : List Char⦄ ⦃value : α⦄, source.length < bound → rule source value rest →
    follow rest → reader source = .read value rest

/-- What the rule derives may follow. -/
def MayFollow (rule : Rule α) (follow : List Char → Prop) : Prop :=
  ∀ ⦃source rest : List Char⦄ ⦃value : α⦄, rule source value rest → follow source

theorem spacedCharacter_eq_read {c : Char} {source rest : List Char} {value : Unit} :
    spaced (character c) source = .read value rest ↔ Spaced (Sign c) source value rest := by
  simp only [spaced_eq_read, Spaced, character_eq_read]

/-- In front of an operand the sign of assignments is not that of equality. -/
theorem spacedAssignSign_read {source rest : List Char} (sign : Spaced (Sign '=') source () rest)
    (begins : BeginsOperand rest) : spaced assignSign source = .read () rest := by
  obtain ⟨before, after, layoutBefore, mark, layoutAfter⟩ := sign
  have ends := begins.endsBefore_equals layoutAfter
  exact spaced_eq_read.2
    ⟨before, after, layoutBefore, assignSign_eq_read.2 ⟨mark, ends⟩, layoutAfter⟩

section Repetition

variable {rule : Rule α} {follow : List Char → Prop} (mayFollow : MayFollow rule follow)

include mayFollow

/-- What comes before a repetition is followed by its first item or by its end. -/
theorem follow_of_many {source rest : List Char} {values : List α}
    (derived : Many rule source values rest) (ends : follow rest) : follow source := by
  cases derived with
  | none =>
      exact ends
  | more first _ =>
      exact mayFollow first

/-- A repetition reads all the items that are derived, up to where another one
is refused. -/
theorem many_complete_related {item : Reader β} {related : β → α → Prop} {bound : Nat}
    (consumes : item.Consumes)
    (complete : ∀ {source rest value}, source.length < bound → rule source value rest →
      follow rest → ∃ found, item source = .read found rest ∧ related found value)
    {source rest : List Char} {values : List α} (derived : Many rule source values rest)
    (short : source.length < bound) (ends : follow rest) (refuses : item.Refuses rest) :
    ∃ founds, many item source = .read founds rest ∧ List.Forall₂ related founds values := by
  induction derived with
  | none =>
      exact ⟨[], (many_eq_read_nil consumes).2 ⟨rfl, refuses⟩, .nil⟩
  | @more source middle rest value values first others inductionHypothesis =>
      obtain ⟨found, reading, foundRelated⟩ :=
        complete short first (follow_of_many mayFollow others ends)
      have shorter := (consumes reading).2
      obtain ⟨founds, othersReading, othersRelated⟩ :=
        inductionHypothesis (by omega) ends refuses
      exact ⟨found :: founds, (many_eq_read_cons consumes).2 ⟨middle, reading, othersReading⟩,
        .cons foundRelated othersRelated⟩

/-- The same without a change of the items. -/
theorem many_complete {item : Reader α} {bound : Nat} (consumes : item.Consumes)
    (complete : item.CompleteBelow bound rule follow)
    {source rest : List Char} {values : List α} (derived : Many rule source values rest)
    (short : source.length < bound) (ends : follow rest) (refuses : item.Refuses rest) :
    many item source = .read values rest := by
  have found : ∃ founds, many item source = .read founds rest ∧ List.Forall₂ Eq founds values :=
    many_complete_related mayFollow consumes
      (fun short derived ends => ⟨_, complete short derived ends, rfl⟩) derived short ends refuses
  obtain ⟨founds, reading, same⟩ := found
  rw [List.forall₂_eq_eq_eq] at same
  rw [reading, same]

end Repetition

section Separation

variable {c : Char} {item : Reader α} {rule : Rule α} {follow : List Char → Prop} {bound : Nat}
    (mayFollow : MayFollow (Spaced (Sign c)) follow) (consumes : item.Consumes)
    (complete : item.CompleteBelow bound rule follow)

include mayFollow consumes complete

theorem separated_complete {source rest : List Char} {values : List α}
    (derived : Separated (Spaced (Sign c)) rule source values rest) (short : source.length < bound)
    (ends : follow rest)
    (refuses : (do let _ ← spaced (character c); item : Reader α).Refuses rest) :
    separated (spaced (character c)) item source = .read values rest := by
  cases derived with
  | @mk source middle rest value values first others =>
      have othersFollow : MayFollow (After (Spaced (Sign c)) rule) follow := by
        rintro source rest value ⟨mark, -⟩
        exact mayFollow mark
      have firstReading := complete short first (follow_of_many othersFollow others ends)
      have markConsumes := (character_consumes c).spaced
      have shorter := (consumes firstReading).2
      have othersComplete : (do let _ ← spaced (character c); item : Reader α).CompleteBelow bound
          (After (Spaced (Sign c)) rule) follow := by
        rintro source rest value short ⟨mark, found⟩ ends
        have markReading := spacedCharacter_eq_read.2 mark
        have shorter := (markConsumes markReading).2
        exact bind_eq_read.2 ⟨(), _, markReading, complete (by omega) found ends⟩
      have othersReading := many_complete othersFollow
        (markConsumes.bind fun _ => consumes.trims) othersComplete others (by omega) ends refuses
      exact bind_eq_read.2 ⟨value, middle, firstReading,
        bind_eq_read.2 ⟨values, rest, othersReading, rfl⟩⟩

theorem separatedOrNone_complete {source rest : List Char} {values : List α}
    (derived : SeparatedOrNone (Spaced (Sign c)) rule source values rest)
    (short : source.length < bound) (ends : follow rest)
    (markRefuses : (spaced (character c)).Refuses rest)
    (itemRefuses : source = rest → item.Refuses rest) :
    separatedOrNone (spaced (character c)) item source = .read values rest := by
  cases derived with
  | none =>
      exact orElse_eq_read.2 (.inr ⟨bind_refuses.2 (.inl (itemRefuses rfl)), rfl⟩)
  | some derived =>
      refine orElse_eq_read.2 (.inl ?_)
      exact separated_complete mayFollow consumes complete derived short ends
        (bind_refuses.2 (.inl markRefuses))

end Separation

/-- An optional semicolon is read with the layout behind it. -/
theorem lastSemicolon_complete {source rest next : List Char} (last : LastSemicolon source rest)
    (layout : Layout rest next) (other : next.head? ≠ some ';') :
    ∃ value rest', optional semicolon source = .read value rest' ∧ Layout rest' next := by
  cases last with
  | absent =>
      refine ⟨none, source, optional_eq_read.2 (.inr ⟨rfl, rfl, ?_⟩), layout⟩
      exact spaced_refuses.2 ⟨next, layout, character_refuses.2 other⟩
  | present found =>
      have marked : Spaced (Sign ';') source () next := ⟨_, _, found, rfl, layout⟩
      exact ⟨some (), next,
        optional_eq_read.2 (.inl ⟨(), rfl, spacedCharacter_eq_read.2 marked⟩), layout.again⟩

theorem reference_complete {bound : Nat} :
    reference.CompleteBelow bound Reference (StopsBefore afterReference) := by
  intro source rest tree short derived stops
  cases derived with
  | @mk source middle rest base fields named fieldsDerived =>
      have anyFollows : MayFollow (After (Spaced (Sign '.')) VariableName) fun _ => True :=
        fun _ _ _ _ => trivial
      have fieldComplete : field.CompleteBelow (middle.length + 1)
          (After (Spaced (Sign '.')) VariableName) fun _ => True :=
        fun _ _ _ _ derived _ => field_eq_read.2 derived
      have refuses : field.Refuses rest :=
        bind_refuses.2 (.inl (spacedCharacter_refuses stops))
      have fieldsReading := many_complete anyFollows field_consumes fieldComplete fieldsDerived
        (Nat.lt_succ_self _) trivial refuses
      exact bind_eq_read.2 ⟨base, middle, name_eq_read.2 named,
        bind_eq_read.2 ⟨fields, rest, fieldsReading, rfl⟩⟩

/-- What the rules for operands need of a reader of terms: it goes forward, it
is refused where a list of arguments ends, and it is complete. -/
structure ReadsTermsBelow (bound : Nat) (term : Reader Term) : Prop where
  consumes : term.Consumes
  refuses : ∀ rest, term.Refuses (')' :: rest)
  complete : term.CompleteBelow bound (TermRule Expression Logical) (StopsBefore afterTerm)

section Terms

variable {term : Reader Term} {bound : Nat} (reads : ReadsTermsBelow bound term)

include reads

theorem expression_complete :
    (expression term).CompleteBelow bound Expression (StopsBefore afterTerm) := by
  intro source rest tree short derived stops
  have reading := reads.complete short (.arithmetic derived) stops
  simp only [expression, bind_eq_read, within_eq_read, spanned_eq_read, demand_eq_read,
    Term.demandExpr_eq_ok]
  exact ⟨⟨.arithmetic tree, source, rest⟩, rest, ⟨reading, rfl⟩, rfl, rfl⟩

theorem condition_complete :
    (condition term).CompleteBelow bound Logical (StopsBefore afterTerm) := by
  intro source rest test short derived stops
  have reading := reads.complete short (.condition derived) stops
  simp only [condition, bind_eq_read, spanned_eq_read, demand_eq_read,
    Term.demandCondition_eq_ok]
  exact ⟨⟨.condition test, source, rest⟩, rest, ⟨reading, rfl⟩, rfl, rfl⟩

theorem assignment_complete :
    (assignment term).CompleteBelow bound (Assigned Expression) (StopsBefore afterTerm) := by
  intro source rest item short derived stops
  cases derived with
  | @mk source afterName afterSign rest found value named sign derived =>
      have signReading := spacedAssignSign_read sign derived.beginsOperand
      have nameReading := name_eq_read.2 named
      have nameShorter := (name_consumes nameReading).2
      have signShorter := (assignSign_consumes.spaced signReading).2
      have valueReading := expression_complete reads (by omega) derived stops
      simp only [assignment, within_eq_read, bind_eq_read, committed_eq_read, pure_eq_read]
      exact ⟨found, afterName, nameReading, (), afterSign, signReading, value, rest, valueReading,
        rfl, rfl⟩

theorem statement_complete :
    (statement term).CompleteBelow bound (Before (Assigned Expression) (Spaced (Sign ';')))
      fun _ => True := by
  rintro source rest item short ⟨derived, mark⟩ _
  have itemReading := assignment_complete reads short derived (.of_sign mark (by decide))
  exact bind_eq_read.2 ⟨item, _, itemReading,
    bind_eq_read.2 ⟨(), rest, spacedCharacter_eq_read.2 mark, rfl⟩⟩

/-! ## Operands -/

theorem call_complete : (call term).CompleteBelow (bound + 1) (Call Expression) fun _ => True := by
  intro source rest tree short derived _
  cases derived with
  | @mk source afterName opened inside closing rest found arguments named layoutName layoutOpened
      derived layoutClosing =>
      have nameReading := name_eq_read.2 named
      have nameShorter := (name_consumes nameReading).2
      have layoutShorter := layoutName.suffix.length_le
      have insideShorter := layoutOpened.suffix.length_le
      rw [List.length_cons] at layoutShorter
      have commaFollows : MayFollow (Spaced (Sign ',')) (StopsBefore afterTerm) :=
        fun _ _ _ mark => .of_sign mark (by decide)
      have argumentsReading :
          separatedOrNone comma (expression term) inside = .read arguments closing := by
        refine separatedOrNone_complete commaFollows (expression_consumes reads.consumes)
          (expression_complete reads) derived (by omega)
          (.of_layout layoutClosing (by decide)) ?_ ?_
        · exact spacedCharacter_refuses (.of_layout layoutClosing (by decide))
        · rintro rfl
          rw [← layoutClosing.eq_of_not_beginsLayout layoutOpened.not_beginsLayout]
          exact expression_refuses (reads.refuses rest)
      simp only [call, within_eq_read, bind_eq_read, committed_eq_read, pure_eq_read,
        layout_eq_read, character_eq_read]
      exact ⟨found, afterName, nameReading, (), _, layoutName, (), opened, rfl, (), inside,
        layoutOpened, arguments, rest, ⟨arguments, closing, argumentsReading, (), _, layoutClosing,
        (), rest, rfl, rfl, rfl⟩, rfl, rfl⟩

omit reads in
theorem loopHeader_complete : loopHeader.CompleteBelow bound LoopHeader fun _ => True := by
  intro source rest header short derived _
  cases derived with
  | @mk opened inside afterName afterColon afterBase closing rest element base exclusion
      layoutOpened named colon baseDerived exclusionDerived layoutClosing =>
      have baseStops : StopsBefore afterReference afterBase := by
        cases exclusionDerived with
        | absent =>
            exact .of_layout layoutClosing (by decide)
        | present derived =>
            obtain ⟨mark, -⟩ := derived
            exact .of_sign mark (by decide)
      have baseReading := reference_complete (Nat.lt_succ_self _) baseDerived baseStops
      have exclusionReading : optional Reader.exclusion afterBase = .read exclusion closing := by
        cases exclusionDerived with
        | absent =>
            refine optional_eq_read.2 (.inr ⟨rfl, rfl, bind_refuses.2 (.inl ?_)⟩)
            exact spacedCharacter_refuses (.of_layout layoutClosing (by decide))
        | present derived =>
            obtain ⟨mark, derived⟩ := derived
            have stops : StopsBefore afterReference closing :=
              .of_layout layoutClosing (by decide)
            have reading := reference_complete (Nat.lt_succ_self _) derived stops
            exact optional_eq_read.2 (.inl ⟨_, rfl,
              bind_eq_read.2 ⟨(), _, spacedCharacter_eq_read.2 mark, reading⟩⟩)
      simp only [loopHeader, bind_eq_read, pure_eq_read, layout_eq_read, character_eq_read,
        spacedCharacter_eq_read, name_eq_read]
      exact ⟨(), opened, rfl, (), inside, layoutOpened, element, afterName, named, (), afterColon,
        colon, base, afterBase, baseReading, exclusion, closing, exclusionReading, (), _,
        layoutClosing, (), rest, rfl, rfl, rfl⟩

theorem loopBody_complete :
    (loopBody term).CompleteBelow bound (LoopBody Expression) fun _ => True := by
  intro source rest parts short derived _
  cases derived with
  | @mk opened inside afterBody afterReturn atResult afterResult closing rest body result
      layoutOpened bodyDerived returned layoutReturn named last layoutClosing =>
      have insideShorter := layoutOpened.suffix.length_le
      rw [List.length_cons] at short
      have anyFollows :
          MayFollow (Before (Assigned Expression) (Spaced (Sign ';'))) fun _ => True :=
        fun _ _ _ _ => trivial
      have nameRefuses := name_refuses_of_keyword (by decide) returned
      have statementRefuses : (statement term).Refuses afterBody :=
        bind_refuses.2 (.inl (assignment_refuses nameRefuses))
      have bodyReading := many_complete anyFollows (statement_consumes reads.consumes)
        (statement_complete reads) bodyDerived (by omega) trivial statementRefuses
      obtain ⟨semicolon?, afterSemicolon, semicolonReading, layoutAfter⟩ :=
        lastSemicolon_complete last layoutClosing (by simp)
      simp only [loopBody, bind_eq_read, pure_eq_read, layout_eq_read, character_eq_read,
        keyword_eq_read, name_eq_read]
      exact ⟨(), opened, rfl, (), inside, layoutOpened, body, afterBody, bodyReading, (),
        afterReturn, returned, (), atResult, layoutReturn, result, afterResult, named, semicolon?,
        afterSemicolon, semicolonReading, (), _, layoutAfter, (), rest, rfl, rfl, rfl⟩

theorem loop_complete :
    (loop term).CompleteBelow (bound + 1) (ForLoop Expression) fun _ => True := by
  intro source rest tree short derived _
  cases derived with
  | @mk source afterWord atHeader afterHeader atBody rest element result base exclusion body word
      layoutWord header layoutHeader bodyDerived =>
      have wordReading : keyword "for" source = .read () afterWord := keyword_eq_read.2 word
      have headerReading := loopHeader_complete (Nat.lt_succ_self _) header trivial
      have wordShorter := (keyword_consumes (by decide) wordReading).2
      have headerShorter := (loopHeader_consumes headerReading).2
      have atHeaderShorter := layoutWord.suffix.length_le
      have atBodyShorter := layoutHeader.suffix.length_le
      have bodyReading := loopBody_complete reads (by omega) bodyDerived trivial
      simp only [loop, within_eq_read, bind_eq_read, layout_eq_read, committed_eq_read,
        pure_eq_read]
      exact ⟨(), afterWord, wordReading, (), atHeader, layoutWord, (element, base, exclusion),
        afterHeader, headerReading, (), atBody, layoutHeader, (body, result), rest, bodyReading,
        rfl, rfl⟩

theorem enclosed_complete {opened inside closing rest : List Char} {value : Term}
    (layoutOpened : Layout opened inside)
    (derived : TermRule Expression Logical inside value closing)
    (layoutClosing : Layout closing (')' :: rest)) (short : opened.length < bound) :
    enclosed term ('(' :: opened) = .read value rest := by
  have insideShorter := layoutOpened.suffix.length_le
  have stops : StopsBefore afterTerm closing := .of_layout layoutClosing (by decide)
  have reading := reads.complete (by omega) derived stops
  simp only [enclosed, bind_eq_read, character_eq_read, layout_eq_read, committed_eq_read,
    pure_eq_read]
  exact ⟨(), opened, rfl, (), inside, layoutOpened, value, closing, reading, (), _, layoutClosing,
    (), rest, rfl, rfl, rfl⟩

omit reads in
theorem negation_complete {operand : Reader Term}
    (complete : operand.CompleteBelow bound (TermRule Operand ConditionOperand)
      (StopsBefore afterOperand))
    {afterSign atInner rest : List Char} {inner : Expr} (layoutSign : Layout afterSign atInner)
    (derived : Operand atInner inner rest) (stops : StopsBefore afterOperand rest)
    (short : afterSign.length < bound) :
    negation operand ('-' :: afterSign) = .read (.arithmetic (.unary .neg inner)) rest := by
  have innerShorter := layoutSign.suffix.length_le
  have reading := complete (by omega) (.arithmetic derived) stops
  simp only [negation, bind_eq_read, character_eq_read, layout_eq_read, committed_eq_read,
    spanned_eq_read, demand_eq_read, Term.demandExpr_eq_ok, pure_eq_read]
  exact ⟨(), afterSign, rfl, (), atInner, layoutSign, ⟨.arithmetic inner, atInner, rest⟩, rest,
    ⟨reading, rfl⟩, inner, rest, ⟨rfl, rfl⟩, rfl, rfl⟩

omit reads in
/-- A name that no parenthesis follows is not called. -/
theorem call_refuses_of_reference {source rest : List Char} {tree : Expr}
    (derived : Reference source tree rest) (stops : StopsBefore afterOperand rest) :
    (call term).Refuses source := by
  cases derived with
  | @mk source middle rest base fields named fieldsDerived =>
      have fieldFollows :
          MayFollow (After (Spaced (Sign '.')) VariableName) (StopsBefore ['(']) := by
        rintro source rest field ⟨mark, -⟩
        exact .of_sign mark (by decide)
      obtain ⟨next, layoutName, other⟩ :=
        follow_of_many fieldFollows fieldsDerived (stops.mono (by simp [afterOperand]))
      simp only [call, within_refuses, bind_refuses, layout_eq_read, name_eq_read,
        character_refuses]
      refine .inr ⟨base, middle, named, .inr ⟨(), next, layoutName, .inl ?_⟩⟩
      intro first
      exact other '(' first List.mem_cons_self

omit reads in
/-- Operands that begin with a sign are tried after those that begin with a digit
or a letter. -/
theorem operandOver_of_sign {operand : Reader Term} {c : Char} {tail rest : List Char}
    {value : Term} (notStart : Name.isStart c = false) (notDigit : c.isDigit = false ∧ c ≠ '.')
    (reading : enclosed term (c :: tail) = .read value rest ∨
      c ≠ '(' ∧ negation operand (c :: tail) = .read value rest) :
    operandOver operand term (c :: tail) = .read value rest := by
  have noName : EndsBefore Name.isStart (c :: tail) := by
    rintro _ ⟨⟩
    exact notStart
  have noKeyword : ∀ word ∈ Name.reserved, (keyword word).Refuses (c :: tail) :=
    fun word reserved => keyword_refuses_of_endsBefore reserved noName
  have nameRefuses := name_refuses_of_endsBefore noName
  have numberRefuses : number.Refuses (c :: tail) := by
    refine number_refuses ?_
    rintro _ ⟨⟩
    exact notDigit
  simp only [operandOver, orElse_eq_read, map_refuses]
  refine .inr ⟨numberRefuses, .inr ⟨boolean_refuses_of_keywords noKeyword,
    .inr ⟨loop_refuses (noKeyword _ (by decide)), .inr ⟨call_refuses nameRefuses,
      .inr ⟨reference_refuses nameRefuses, ?_⟩⟩⟩⟩⟩
  rcases reading with enclosedReading | ⟨noParenthesis, negationReading⟩
  · exact .inl enclosedReading
  · refine .inr ⟨enclosed_refuses ?_, negationReading⟩
    simpa using noParenthesis

omit reads in
/-- Operands that begin with a name are calls or references. -/
theorem operandOver_of_name {operand : Reader Term} {source afterName rest : List Char}
    {name : String} {value : Expr} (named : VariableName source name afterName)
    (reading : call term source = .read value rest ∨
      (call term).Refuses source ∧ reference source = .read value rest) :
    operandOver operand term source = .read (.arithmetic value) rest := by
  have noKeyword : ∀ word ∈ Name.reserved, (keyword word).Refuses source :=
    fun _ reserved => keyword_refuses_of_name reserved named
  simp only [operandOver, orElse_eq_read, map_eq_read, map_refuses]
  refine .inr ⟨number_refuses_of_isStart named.begins, .inr ⟨boolean_refuses_of_keywords noKeyword,
    .inr ⟨loop_refuses (noKeyword _ (by decide)), ?_⟩⟩⟩
  rcases reading with callReading | ⟨noCall, referenceReading⟩
  · exact .inl ⟨_, callReading, rfl⟩
  · exact .inr ⟨noCall, .inl ⟨_, referenceReading, rfl⟩⟩

theorem operandOver_complete {operand : Reader Term}
    (complete : operand.CompleteBelow bound (TermRule Operand ConditionOperand)
      (StopsBefore afterOperand)) :
    (operandOver operand term).CompleteBelow (bound + 1) (TermRule Operand ConditionOperand)
      (StopsBefore afterOperand) := by
  intro source rest value short derived stops
  cases derived with
  | condition derived =>
      cases derived with
      | literal found =>
          obtain ⟨word, reserved, keyword⟩ := found.reserved
          simp only [operandOver, orElse_eq_read, map_eq_read, map_refuses, Function.comp_apply]
          exact .inr ⟨number_refuses_of_isStart (keyword.begins reserved),
            .inl ⟨_, boolean_eq_read.2 found, rfl⟩⟩
      | @enclosed opened inside closing rest test layoutOpened derived layoutClosing =>
          have reading := enclosed_complete reads layoutOpened (.condition derived) layoutClosing
            (Nat.lt_of_succ_lt_succ short)
          exact operandOver_of_sign rfl (by decide) (.inl reading)
  | arithmetic derived =>
      cases derived with
      | number written =>
          simp only [operandOver, orElse_eq_read, map_eq_read, Function.comp_apply]
          exact .inl ⟨_, number_eq_read.2 written, rfl⟩
      | loop derived =>
          have reading := loop_complete reads short derived trivial
          obtain ⟨word, -, -, -, -⟩ := derived
          simp only [operandOver, orElse_eq_read, map_eq_read, map_refuses]
          exact .inr ⟨number_refuses_of_isStart (word.begins (by decide)),
            .inr ⟨boolean_refuses_of_loop word, .inl ⟨_, reading, rfl⟩⟩⟩
      | call derived =>
          have reading := call_complete reads short derived trivial
          obtain ⟨named, -, -, -, -⟩ := derived
          exact operandOver_of_name named (.inl reading)
      | reference derived =>
          have reading := reference_complete (Nat.lt_succ_self _) derived
            (stops.mono afterReference_subset)
          have callRefuses : (call term).Refuses source := call_refuses_of_reference derived stops
          obtain ⟨named, -⟩ := derived
          exact operandOver_of_name named (.inr ⟨callRefuses, reading⟩)
      | @enclosed opened inside closing rest tree layoutOpened derived layoutClosing =>
          have reading := enclosed_complete reads layoutOpened (.arithmetic derived) layoutClosing
            (Nat.lt_of_succ_lt_succ short)
          exact operandOver_of_sign rfl (by decide) (.inl reading)
      | @negation afterSign atInner rest inner layoutSign derived =>
          have reading := negation_complete complete layoutSign derived stops
            (Nat.lt_of_succ_lt_succ short)
          exact operandOver_of_sign rfl (by decide) (.inr ⟨by decide, reading⟩)

end Terms

/-! ## Rows of operands -/

theorem spacedBinaryOp_eq_read {source rest : List Char} {op : BinaryOp} :
    spaced binaryOp source = .read op rest ↔ Spaced BinarySign source op rest := by
  simp only [spaced_eq_read, Spaced, binaryOp_eq_read]

theorem spacedLogicalOp_eq_read {source rest : List Char} {op : LogicalOp} :
    spaced logicalOp source = .read op rest ↔ Spaced LogicalSign source op rest := by
  simp only [spaced_eq_read, Spaced, logicalOp_eq_read]

/-- The longer of two comparison signs is read, so an operand has to follow. -/
theorem spacedComparison_read {source rest : List Char} {op : Comparison}
    (mark : Spaced ComparisonSign source op rest) (begins : BeginsOperand rest) :
    spaced comparison source = .read op rest := by
  obtain ⟨before, after, layoutBefore, sign, layoutAfter⟩ := mark
  exact spaced_eq_read.2 ⟨before, after, layoutBefore,
    comparison_complete sign (begins.endsBefore_equals layoutAfter), layoutAfter⟩

theorem followedBy_complete {operator : Reader α} {term : Reader Term} {rule : Rule Term}
    {follow : List Char → Prop} {bound : Nat} (operatorConsumes : operator.Consumes)
    (complete : term.CompleteBelow bound rule follow)
    {source middle rest : List Char} {op : α} {value : Term} (short : source.length < bound)
    (operatorReading : spaced operator source = .read op middle)
    (derived : rule middle value rest) (ends : follow rest) :
    followedBy operator term source = .read (op, ⟨value, middle, rest⟩) rest := by
  have shorter := (operatorConsumes.spaced operatorReading).2
  have reading := complete (by omega) derived ends
  simp only [followedBy, bind_eq_read, committed_eq_read, spanned_eq_read, pure_eq_read]
  exact ⟨op, middle, operatorReading, ⟨value, middle, rest⟩, rest, ⟨reading, rfl⟩, rfl, rfl⟩

/-- A row that is derived is read, item by item. -/
theorem followedBy_many_complete {operator : Reader α} {sign : Rule α} {term : Reader Term}
    {rule : Rule Term} {item : Rule β} {related : α × Spanned Term → α × β → Prop}
    {follow : List Char → Prop} {bound : Nat} (operatorConsumes : operator.Consumes)
    (termConsumes : term.Consumes) (complete : term.CompleteBelow bound rule follow)
    (mayFollow : MayFollow (Then (Spaced sign) item) follow)
    (signReading : ∀ {source op rest}, Spaced sign source op rest →
      spaced operator source = .read op rest)
    (isItem : ∀ {source value rest}, item source value rest →
      ∃ term, rule source term rest ∧ ∀ op start stop,
        related (op, ⟨term, start, stop⟩) (op, value))
    {source rest : List Char} {row : List (α × β)}
    (derived : Many (Then (Spaced sign) item) source row rest) (short : source.length < bound)
    (ends : follow rest) (refuses : (followedBy operator term).Refuses rest) :
    ∃ items, many (followedBy operator term) source = .read items rest ∧
      List.Forall₂ related items row := by
  refine many_complete_related mayFollow (followedBy_consumes operatorConsumes termConsumes) ?_
    derived short ends refuses
  rintro source rest ⟨op, value⟩ short ⟨mark, found⟩ follows
  obtain ⟨term, derivedTerm, isRelated⟩ := isItem found
  exact ⟨_, followedBy_complete operatorConsumes complete short (signReading mark) derivedTerm
    follows, isRelated _ _ _⟩

theorem notCompared_read {source : List Char} (stops : StopsBefore afterComparison source) :
    notCompared source = .read () source := by
  obtain ⟨next, layout, excluded⟩ := stops
  have refuses : (do Reader.layout; spanned comparison :
      Reader (Spanned Comparison)).Refuses source := by
    refine bind_refuses.2 (.inr ⟨(), next, layout.reading, spanned_refuses.2 ?_⟩)
    exact comparison_refuses fun c member inside =>
      excluded c member (List.mem_append_left _ inside)
  obtain ⟨fault, refusal⟩ := refuses
  simp only [notCompared, refusal]

theorem binarySign_mayFollow {rule : Rule Expr} :
    MayFollow (Then (Spaced BinarySign) rule) (StopsBefore afterOperand) := by
  rintro source rest ⟨op, tree⟩ ⟨mark, -⟩
  refine .of_spaced mark ?_
  rintro before after rfl
  cases op <;> simp [BinaryOp.symbol, afterOperand, afterReference]

/-- The connectives begin with characters that continue no comparison. -/
theorem logicalSign_mayFollow {rule : Rule Condition} :
    MayFollow (Then (Spaced LogicalSign) rule) (StopsBefore afterComparison) := by
  rintro source rest ⟨op, test⟩ ⟨mark, -⟩
  refine .of_spaced mark fun {before after} sign => ?_
  cases sign with
  | symbol =>
      cases op <;> simp [LogicalOp.symbol, afterComparison, afterSum, afterOperand, afterReference]
  | smallAnd found | capitalAnd found | smallOr found | capitalOr found =>
      obtain ⟨rfl, -⟩ := found
      simp [afterComparison, afterSum, afterOperand, afterReference]

/-- The signs of comparisons begin with characters that continue no sum. -/
theorem comparisonSign_stops {source rest : List Char} {op : Comparison}
    (mark : Spaced ComparisonSign source op rest) :
    StopsBefore afterSum source := by
  refine .of_spaced mark ?_
  rintro before after rfl
  cases op <;> simp [Comparison.symbol, afterSum, afterOperand, afterReference]

section Operands

variable {operand : Reader Term} {bound : Nat} (consumes : operand.Consumes)
    (complete : operand.CompleteBelow bound (TermRule Operand ConditionOperand)
      (StopsBefore afterOperand))

include consumes complete

theorem sum_complete :
    (sum operand).CompleteBelow bound (TermRule Sum ConditionOperand) (StopsBefore afterSum) := by
  intro source rest value short derived stops
  have rowConsumes := followedBy_consumes binaryOp_consumes consumes
  have operandStops := stops.mono afterOperand_subset
  have noOperator : (followedBy binaryOp operand).Refuses rest := by
    refine followedBy_refuses stops fun excluded => binaryOp_refuses.2 fun c member inside => ?_
    exact excluded c member (List.mem_append_left _ inside)
  simp only [sum, bind_eq_read, spanned_eq_read]
  cases derived with
  | @condition source rest test derived =>
      have reading := complete short (.condition derived) operandStops
      exact ⟨⟨.condition test, source, rest⟩, rest, ⟨reading, rfl⟩, [], rest,
        (many_eq_read_nil rowConsumes).2 ⟨rfl, noOperator⟩, rfl⟩
  | @arithmetic source rest tree derived =>
      cases derived with
      | @mk source middle rest first tree row edge firstDerived rowDerived grouped =>
          have firstReading := complete short (.arithmetic firstDerived)
            (follow_of_many binarySign_mayFollow rowDerived operandStops)
          have firstShorter := (consumes firstReading).2
          have isItem : ∀ {source tree rest}, Operand source tree rest →
              ∃ term, TermRule Operand ConditionOperand source term rest ∧
                ∀ op start stop, IsArithmetic (op, ⟨term, start, stop⟩) (op, tree) :=
            fun found => ⟨_, .arithmetic found, fun _ _ _ => ⟨rfl, rfl⟩⟩
          obtain ⟨items, itemsReading, related⟩ := followedBy_many_complete binaryOp_consumes
            consumes complete binarySign_mayFollow spacedBinaryOp_eq_read.2 isItem rowDerived
            (by omega) operandStops noOperator
          refine ⟨⟨.arithmetic first, source, middle⟩, middle, ⟨firstReading, rfl⟩, items, rest,
            itemsReading, ?_⟩
          cases related with
          | nil =>
              obtain rfl := Option.some.inj (Expr.group?_eq_some_iff.2 ⟨edge, grouped⟩)
              rfl
          | @cons item pair items row itemRelated itemsRelated =>
              simp only [List.isEmpty_cons, Bool.false_eq_true, if_false, bind_eq_read,
                demand_eq_read, map_eq_read, Term.demandExpr_eq_ok, demandExprs_eq_ok,
                grouped_eq_read]
              exact ⟨first, rest, ⟨rfl, rfl⟩, pair :: row, rest,
                ⟨.cons itemRelated itemsRelated, rfl⟩, tree, ⟨⟨edge, grouped⟩, rfl⟩, rfl⟩

theorem comparisonTerm_complete :
    (comparisonTerm operand).CompleteBelow bound (TermRule Sum LogicalAtom)
      (StopsBefore afterComparison) := by
  intro source rest value short derived stops
  have sumConsumes := sum_consumes consumes
  have sumComplete := sum_complete consumes complete
  have alone : ∀ {value : Term}, TermRule Sum ConditionOperand source value rest →
      comparisonTerm operand source = .read value rest := by
    intro value derived
    have reading := sumComplete short derived (stops.mono afterSum_subset)
    have noSign : (followedBy comparison (sum operand)).Refuses rest :=
      followedBy_refuses stops fun excluded => comparison_refuses fun c member inside =>
        excluded c member (List.mem_append_left _ inside)
    simp only [comparisonTerm, bind_eq_read, spanned_eq_read, optional_eq_read]
    exact ⟨⟨value, source, rest⟩, rest, ⟨reading, rfl⟩, none, rest, .inr ⟨rfl, rfl, noSign⟩, rfl⟩
  cases derived with
  | arithmetic derived =>
      exact alone (.arithmetic derived)
  | condition derived =>
      cases derived with
      | literal word =>
          exact alone (.condition (.literal word))
      | enclosed opening inside closing =>
          exact alone (.condition (.enclosed opening inside closing))
      | @comparison source afterLeft atRight rest op left right leftDerived mark rightDerived =>
          have leftReading :=
            sumComplete short (.arithmetic leftDerived) (comparisonSign_stops mark)
          have leftShorter := (sumConsumes leftReading).2
          have rightReading := followedBy_complete comparison_consumes sumComplete (by omega)
            (spacedComparison_read mark rightDerived.beginsOperand) (.arithmetic rightDerived)
            (stops.mono afterSum_subset)
          simp only [comparisonTerm, bind_eq_read, spanned_eq_read, optional_eq_read]
          refine ⟨⟨.arithmetic left, source, afterLeft⟩, afterLeft, ⟨leftReading, rfl⟩,
            some (op, ⟨.arithmetic right, atRight, rest⟩), rest, .inl ⟨_, rfl, rightReading⟩, ?_⟩
          simp only [bind_eq_read, demand_eq_read, Term.demandExpr_eq_ok, pure_eq_read]
          exact ⟨left, rest, ⟨rfl, rfl⟩, right, rest, ⟨rfl, rfl⟩, (), rest, notCompared_read stops,
            rfl, rfl⟩

theorem disjunction_complete :
    (disjunction operand).CompleteBelow bound (TermRule Sum Logical)
      (StopsBefore afterLogical) := by
  intro source rest value short derived stops
  have comparisonConsumes := comparisonTerm_consumes consumes
  have comparisonComplete := comparisonTerm_complete consumes complete
  have rowConsumes := followedBy_consumes logicalOp_consumes comparisonConsumes
  have comparisonStops := stops.mono afterComparison_subset
  have noConnective : (followedBy logicalOp (comparisonTerm operand)).Refuses rest :=
    followedBy_refuses stops fun excluded => logicalOp_refuses fun c member inside =>
      excluded c member (List.mem_append_left _ inside)
  simp only [disjunction, bind_eq_read, spanned_eq_read]
  cases derived with
  | @arithmetic source rest tree derived =>
      have reading := comparisonComplete short (.arithmetic derived) comparisonStops
      exact ⟨⟨.arithmetic tree, source, rest⟩, rest, ⟨reading, rfl⟩, [], rest,
        (many_eq_read_nil rowConsumes).2 ⟨rfl, noConnective⟩, rfl⟩
  | condition derived =>
      cases derived with
      | @mk source middle rest first row firstDerived rowDerived =>
          have firstReading := comparisonComplete short (.condition firstDerived)
            (follow_of_many logicalSign_mayFollow rowDerived comparisonStops)
          have firstShorter := (comparisonConsumes firstReading).2
          have isItem : ∀ {source test rest}, LogicalAtom source test rest →
              ∃ term, TermRule Sum LogicalAtom source term rest ∧
                ∀ op start stop, IsLogical (op, ⟨term, start, stop⟩) (op, test) :=
            fun found => ⟨_, .condition found, fun _ _ _ => ⟨rfl, rfl⟩⟩
          obtain ⟨items, itemsReading, related⟩ := followedBy_many_complete logicalOp_consumes
            comparisonConsumes comparisonComplete logicalSign_mayFollow spacedLogicalOp_eq_read.2
            isItem rowDerived (by omega) comparisonStops noConnective
          refine ⟨⟨.condition first, source, middle⟩, middle, ⟨firstReading, rfl⟩, items, rest,
            itemsReading, ?_⟩
          cases related with
          | nil =>
              rfl
          | @cons item pair items row itemRelated itemsRelated =>
              simp only [List.isEmpty_cons, Bool.false_eq_true, if_false, bind_eq_read,
                demand_eq_read, map_eq_read, Term.demandCondition_eq_ok, demandConditions_eq_ok]
              exact ⟨first, rest, ⟨rfl, rfl⟩, _,
                ⟨⟨pair :: row, .cons itemRelated itemsRelated, rfl⟩, rfl⟩, rfl⟩

theorem termOver_complete {term : Reader Term} {below : Nat} (reads : ReadsTermsBelow below term)
    (near : bound ≤ below + 1) :
    (termOver operand term).CompleteBelow bound (TermRule Expression Logical)
      (StopsBefore afterTerm) := by
  intro source rest value short derived stops
  have disjunctionConsumes := disjunction_consumes consumes
  have disjunctionComplete := disjunction_complete consumes complete
  have alone : ∀ {value : Term}, TermRule Sum Logical source value rest →
      termOver operand term source = .read value rest := by
    intro value derived
    have reading := disjunctionComplete short derived (stops.mono afterLogical_subset)
    have noBranches : (branches term).Refuses rest :=
      bind_refuses.2 (.inl (spacedCharacter_refuses (stops.mono (by simp [afterTerm]))))
    simp only [termOver, bind_eq_read, spanned_eq_read, optional_eq_read]
    exact ⟨⟨value, source, rest⟩, rest, ⟨reading, rfl⟩, none, rest,
      .inr ⟨rfl, rfl, noBranches⟩, rfl⟩
  cases derived with
  | condition derived =>
      exact alone (.condition derived)
  | arithmetic derived =>
      cases derived with
      | sum derived =>
          exact alone (.arithmetic derived)
      | @ternary source afterTest atAccepted afterAccepted atRejected rest test accepted rejected
          testDerived question acceptedDerived colon rejectedDerived =>
          have testReading := disjunctionComplete short (.condition testDerived)
            (.of_sign question (by decide))
          have questionReading := spacedCharacter_eq_read.2 question
          have colonReading := spacedCharacter_eq_read.2 colon
          have testShorter := (disjunctionConsumes testReading).2
          have questionShorter := ((character_consumes '?').spaced questionReading).2
          have acceptedReading := expression_complete reads (by omega) acceptedDerived
            (.of_sign colon (by decide))
          have acceptedShorter := (expression_consumes reads.consumes acceptedReading).2
          have colonShorter := ((character_consumes ':').spaced colonReading).2
          have rejectedReading := expression_complete reads (by omega) rejectedDerived stops
          have branchesReading : branches term afterTest = .read (accepted, rejected) rest := by
            simp only [branches, bind_eq_read, committed_eq_read, pure_eq_read]
            exact ⟨(), atAccepted, questionReading, accepted, afterAccepted, acceptedReading, (),
              atRejected, colonReading, rejected, rest, rejectedReading, rfl, rfl⟩
          simp only [termOver, bind_eq_read, spanned_eq_read, optional_eq_read]
          refine ⟨⟨.condition test, source, afterTest⟩, afterTest, ⟨testReading, rfl⟩,
            some (accepted, rejected), rest, .inl ⟨_, rfl, branchesReading⟩, ?_⟩
          simp only [bind_eq_read, demand_eq_read, Term.demandCondition_eq_ok, pure_eq_read]
          exact ⟨test, rest, ⟨rfl, rfl⟩, rfl, rfl⟩

end Operands

/-- Operands and terms are read at any depth that is enough for the length of
the source. -/
theorem operand_and_term_complete (bound : Nat) :
    ∀ depth,
      (2 * bound ≤ depth + 1 →
        (operand depth).CompleteBelow bound (TermRule Operand ConditionOperand)
          (StopsBefore afterOperand)) ∧
      (2 * bound ≤ depth → ReadsTermsBelow bound (term depth)) := by
  have refuses : ∀ depth rest, (term depth).Refuses (')' :: rest) := by
    intro depth rest
    refine term_refuses depth ?_
    rintro _ ⟨⟩
    rfl
  induction bound with
  | zero =>
      intro depth
      exact ⟨fun _ _ _ _ short => absurd short (Nat.not_lt_zero _),
        fun _ => ⟨term_consumes depth, refuses depth,
          fun _ _ _ short => absurd short (Nat.not_lt_zero _)⟩⟩
  | succ bound inductionHypothesis =>
      have operandComplete : ∀ depth, 2 * (bound + 1) ≤ depth + 1 →
          (operand depth).CompleteBelow (bound + 1) (TermRule Operand ConditionOperand)
            (StopsBefore afterOperand) := by
        intro depth enough
        obtain ⟨depth, rfl⟩ : ∃ lower, depth = lower + 1 := ⟨depth - 1, by omega⟩
        obtain ⟨operands, terms⟩ := inductionHypothesis depth
        rw [operand_succ]
        exact operandOver_complete (terms (by omega)) (operands (by omega))
      intro depth
      refine ⟨operandComplete depth, fun enough => ?_⟩
      obtain ⟨depth, rfl⟩ : ∃ lower, depth = lower + 1 := ⟨depth - 1, by omega⟩
      obtain ⟨-, terms⟩ := inductionHypothesis depth
      refine ⟨term_consumes _, refuses _, ?_⟩
      rw [term_succ]
      exact termOver_complete (operand_consumes depth) (operandComplete depth (by omega))
        (terms (by omega)) (Nat.le_refl _)

/-- The depth to which rules may be nested in a source is enough for it. -/
theorem term_complete (source : List Char) :
    ReadsTermsBelow (source.length + 1) (term (Source.depth source)) :=
  (operand_and_term_complete (source.length + 1) (Source.depth source)).2 (Nat.le_refl _)

end Reader

end RewardFormula
