import RewardFormula.Proofs.Source.Completeness

/-!
# The sources that are read are those that the grammar derives

Formulas, expressions and conditions are read from exactly the texts in ASCII
that the grammar derives them from, and no text derives two of a kind.
-/

namespace RewardFormula

namespace Reader

open Grammar

variable {term : Reader Term} {bound : Nat} (reads : ReadsTermsBelow bound term)

include reads

theorem functionDeclaration_complete {source rest : List Char} {tree : Formula}
    (derived : Declaration source tree rest) (short : source.length < bound)
    (ends : Layout rest []) :
    ∃ afterBody, functionDeclaration term source = .read tree afterBody ∧
      LastSemicolon afterBody rest := by
  cases derived with
  | @mk source afterName opened inside closing afterClosing atBody afterBody rest found parameters
      body named layoutName layoutOpened derived layoutClosing sign bodyDerived last =>
      have nameReading := name_eq_read.2 named
      have commaFollows : MayFollow (Spaced (Sign ',')) fun _ => True := fun _ _ _ _ => trivial
      have nameComplete : name.CompleteBelow (inside.length + 1) VariableName fun _ => True :=
        fun _ _ _ _ named _ => name_eq_read.2 named
      have parametersReading : separatedOrNone comma name inside = .read parameters closing := by
        refine separatedOrNone_complete commaFollows name_consumes nameComplete derived
          (Nat.lt_succ_self _) trivial ?_ ?_
        · exact spacedCharacter_refuses (.of_layout layoutClosing (by decide))
        · rintro rfl
          rw [← layoutClosing.eq_of_not_beginsLayout layoutOpened.not_beginsLayout]
          refine name_refuses_of_endsBefore ?_
          rintro _ ⟨⟩
          rfl
      have signReading := spacedAssignSign_read sign bodyDerived.beginsOperand
      have bodyShorter : atBody.length < bound := by
        have nameShorter := (name_consumes nameReading).2
        have parametersShorter :=
          (comma_consumes.separatedOrNone name_consumes parametersReading).length_le
        have signShorter := (assignSign_consumes.spaced signReading).2
        have first := layoutName.suffix.length_le
        have second := layoutOpened.suffix.length_le
        have third := layoutClosing.suffix.length_le
        simp only [List.length_cons] at first third
        omega
      have bodyReading := expression_complete reads bodyShorter bodyDerived
        (.of_lastSemicolon last ends (by decide) (by simp))
      refine ⟨afterBody, ?_, last⟩
      simp only [functionDeclaration, within_eq_read, bind_eq_read, name_eq_read, pure_eq_read,
        layout_eq_read, character_eq_read, committed_eq_read]
      exact ⟨found, afterName, named, (), _, layoutName, (), opened, rfl, (), inside, layoutOpened,
        parameters, closing, parametersReading, (), _, layoutClosing, (), afterClosing, rfl, (),
        atBody, signReading, body, afterBody, bodyReading, rfl, rfl⟩

omit reads in
/-- A name before the sign of assignments declares no function. -/
theorem functionDeclaration_refuses {rule : Rule Expr} {source rest : List Char} {item : Assignment}
    (derived : Assigned rule source item rest) : (functionDeclaration term).Refuses source := by
  obtain ⟨named, ⟨before, after, layoutBefore, rfl, -⟩, -⟩ := derived
  simp only [functionDeclaration, within_refuses, bind_refuses, name_eq_read, layout_eq_read,
    character_refuses]
  exact .inr ⟨_, _, named, .inr ⟨(), _, layoutBefore, .inl (by simp)⟩⟩

theorem assignments_complete {source rest : List Char} {items : List Assignment}
    (derived : Separated (Spaced (Sign ';')) (Assigned Expression) source items rest)
    (short : source.length < bound) {afterLast : List Char} (last : LastSemicolon rest afterLast)
    (ends : Layout afterLast []) :
    separated semicolon (assignment term) source = .read items rest := by
  have semicolonFollows : MayFollow (Spaced (Sign ';')) (StopsBefore afterTerm) :=
    fun _ _ _ mark => .of_sign mark (by decide)
  refine separated_complete semicolonFollows (assignment_consumes reads.consumes)
    (assignment_complete reads) derived short (.of_lastSemicolon last ends (by decide) (by simp)) ?_
  -- Behind a last semicolon nothing but layout is left, so no assignment is begun there.
  rw [bind_refuses]
  cases last with
  | absent =>
      exact .inl (spacedCharacter_refuses (.of_end ends))
  | present found =>
      refine .inr ⟨(), [], spacedCharacter_eq_read.2 ⟨_, _, found, rfl, ends⟩, ?_⟩
      refine assignment_refuses (name_refuses_of_endsBefore ?_)
      simp [EndsBefore]

theorem formula_complete {source rest : List Char} {tree : Formula}
    (derived : FormulaRule source tree rest) (short : source.length < bound)
    (ends : Layout rest []) :
    ∃ rest', formula term source = .read tree rest' ∧ Layout rest' [] := by
  cases derived with
  | declaration derived =>
      obtain ⟨afterBody, reading, last⟩ := functionDeclaration_complete reads derived short ends
      obtain ⟨semicolon?, rest', semicolonReading, layout⟩ :=
        lastSemicolon_complete last ends (by simp)
      refine ⟨rest', orElse_eq_read.2 (.inl ?_), layout⟩
      exact bind_eq_read.2 ⟨tree, afterBody, reading,
        bind_eq_read.2 ⟨semicolon?, rest', semicolonReading, rfl⟩⟩
  | assignments derived =>
      cases derived with
      | @mk source afterItems rest items derived last =>
          have reading := assignments_complete reads derived short last ends
          obtain ⟨semicolon?, rest', semicolonReading, layout⟩ :=
            lastSemicolon_complete last ends (by simp)
          refine ⟨rest', orElse_eq_read.2 (.inr ⟨bind_refuses.2 (.inl ?_), ?_⟩), layout⟩
          · obtain ⟨first, -⟩ := derived
            exact functionDeclaration_refuses first
          · exact bind_eq_read.2 ⟨items, afterItems, reading,
              bind_eq_read.2 ⟨semicolon?, rest', semicolonReading, rfl⟩⟩

end Reader

namespace Source

open Grammar

theorem readAll_eq_ok {rule : Reader α} {source : List Char} {value : α} :
    readAll rule source = .ok value ↔ Reader.spaced rule source = .read value [] := by
  unfold readAll
  split
  next found reading =>
    simp [reading]
  next found rest notNil reading =>
    simp only [reduceCtorEq, reading, Reply.read.injEq, false_iff]
    rintro ⟨-, rfl⟩
    exact notNil rfl
  next fault refusal =>
    simp [refusal]
  next fault breaking =>
    simp [breaking]

/-- A source is not blank if anything but layout stands in it. -/
theorem notBlank_of_layout {source rest : List Char} (layout : Layout source rest)
    (nonempty : rest ≠ []) : notBlank source = .ok () := by
  cases rest with
  | nil =>
      exact absurd rfl nonempty
  | cons c rest =>
      simp only [notBlank, layout.reading]

/-- What a sound and complete reader finds in the whole of a source is what its
rule derives from it. -/
theorem readAll_eq_ok_iff {reader : Reader α} {rule : Rule α} {continuing : List Char}
    {source : List Char} {value : α} (sound : reader.Sound rule)
    (complete : reader.CompleteBelow (source.length + 1) rule (StopsBefore continuing)) :
    readAll reader source = .ok value ↔ Spaced rule source value [] := by
  rw [readAll_eq_ok, Reader.spaced_eq_read]
  constructor
  · rintro ⟨before, after, layoutBefore, reading, layoutAfter⟩
    exact ⟨before, after, layoutBefore, sound reading, layoutAfter⟩
  · rintro ⟨before, after, layoutBefore, derived, layoutAfter⟩
    have shorter := layoutBefore.suffix.length_le
    exact ⟨before, after, layoutBefore, complete (by omega) derived (.of_end layoutAfter),
      layoutAfter⟩

theorem expression_readAll {source : List Char} {tree : Expr} :
    readAll (Reader.expression (Reader.term (depth source))) source = .ok tree ↔
      Spaced Expression source tree [] :=
  readAll_eq_ok_iff (Reader.expression_sound (Reader.term_sound _))
    (Reader.expression_complete (Reader.term_complete source))

theorem condition_readAll {source : List Char} {test : Condition} :
    readAll (Reader.condition (Reader.term (depth source))) source = .ok test ↔
      Spaced Logical source test [] :=
  readAll_eq_ok_iff (Reader.condition_sound (Reader.term_sound _))
    (Reader.condition_complete (Reader.term_complete source))

theorem formula_readAll {source : List Char} {tree : Formula} :
    readAll (Reader.formula (Reader.term (depth source))) source = .ok tree ↔
      Spaced FormulaRule source tree [] := by
  rw [readAll_eq_ok, Reader.spaced_eq_read]
  constructor
  · rintro ⟨before, after, layoutBefore, reading, layoutAfter⟩
    obtain ⟨rest', derived, layout⟩ :=
      Reader.formula_sound (Reader.term_sound _) (Reader.term_consumes _) reading
    exact ⟨before, rest', layoutBefore, derived, layout [] layoutAfter⟩
  · rintro ⟨before, after, layoutBefore, derived, layoutAfter⟩
    have shorter := layoutBefore.suffix.length_le
    obtain ⟨rest', reading, layout⟩ :=
      Reader.formula_complete (Reader.term_complete source) derived (by omega) layoutAfter
    exact ⟨before, rest', layoutBefore, reading, layout⟩

end Source

namespace Grammar

/-- All the characters of the text are in ASCII. -/
def IsAscii (text : String) : Prop :=
  ∀ c ∈ text.toList, Source.isAscii c = true

theorem nonAscii?_eq_none_iff {text : String} :
    Source.nonAscii? text.toList = none ↔ IsAscii text := by
  unfold Source.nonAscii? IsAscii
  split
  next empty =>
    simpa using List.dropWhile_eq_nil_iff.1 empty
  next c rest atFront =>
    simp only [reduceCtorEq, false_iff]
    intro ascii
    rw [List.dropWhile_eq_nil_iff.2 ascii] at atFront
    cases atFront

/-- A text in ASCII is read as its characters are, and other texts are not read. -/
theorem readAscii_eq_ok {read : List Char → Except Fault α} {text : String} {value : α} :
    Source.readAscii read text = .ok value ↔ IsAscii text ∧ read text.toList = .ok value := by
  rw [← nonAscii?_eq_none_iff]
  unfold Source.readAscii
  split
  next location outside =>
    simp [outside]
  next inside =>
    simp only [inside, true_and]
    cases read text.toList <;> simp [Except.mapError]

/-- A text outside ASCII is refused for that, and others for the faults that are found. -/
theorem readAscii_eq_error {read : List Char → Except Fault α} {text : String}
    {error : SourceError} :
    Source.readAscii read text = .error error ↔
      (∃ location, Source.nonAscii? text.toList = some location ∧
          error = ⟨.nonAscii, none, location⟩) ∨
        IsAscii text ∧ ∃ fault, read text.toList = .error fault ∧
          error = .ofFault text.toList fault := by
  rw [← nonAscii?_eq_none_iff]
  unfold Source.readAscii
  split
  next location outside =>
    simp [outside, eq_comm]
  next inside =>
    cases read text.toList <;> simp [inside, Except.mapError, eq_comm]

theorem FormulaRule.nonempty {source rest : List Char} {tree : Formula}
    (derived : FormulaRule source tree rest) : source ≠ [] := by
  rintro rfl
  cases derived with
  | declaration derived =>
      obtain ⟨named, -, -, -, -, -, -, -⟩ := derived
      exact not_variableName_nil named
  | assignments derived =>
      obtain ⟨⟨⟨named, -, -⟩, -⟩, -⟩ := derived
      exact not_variableName_nil named

variable {text : String}

theorem parseExpr_eq_ok_iff {tree : Expr} :
    parseExpr text = .ok tree ↔ IsAscii text ∧ Derives Expression text tree := by
  rw [parseExpr, readAscii_eq_ok, Source.expression_readAll, Derives]

theorem parseCondition_eq_ok_iff {test : Condition} :
    parseCondition text = .ok test ↔ IsAscii text ∧ Derives Logical text test := by
  rw [parseCondition, readAscii_eq_ok, Source.condition_readAll, Derives]

theorem parseFormula_eq_ok_iff {tree : Formula} :
    parseFormula text = .ok tree ↔ IsAscii text ∧ Derives FormulaRule text tree := by
  rw [parseFormula, readAscii_eq_ok, Derives]
  refine and_congr_right fun _ => ?_
  rw [← Source.formula_readAll]
  constructor
  · intro reading
    cases notBlank : Source.notBlank text.toList with
    | error fault =>
        rw [notBlank] at reading
        cases reading
    | ok value =>
        rw [notBlank] at reading
        exact reading
  · intro reading
    obtain ⟨before, after, layout, derived, -⟩ := Source.formula_readAll.1 reading
    rw [Source.notBlank_of_layout layout derived.nonempty]
    exact reading

/-- No text derives two values. -/
def Unambiguous (rule : Rule α) : Prop :=
  ∀ ⦃text : String⦄ ⦃value value' : α⦄,
    Derives rule text value → Derives rule text value' → value = value'

theorem unambiguous_of_read {rule : Rule α} {read : List Char → Except Fault α}
    (reads : ∀ {source value}, read source = .ok value ↔ Spaced rule source value []) :
    Unambiguous rule := by
  intro text value value' first second
  have same := (reads.2 first).symm.trans (reads.2 second)
  exact Except.ok.inj same

/-- The texts that are read are those in ASCII that the grammar derives, and
what is read from them is what they derive. No text has two trees. -/
theorem parse_iff_derives (text : String) :
    (∀ tree, parseFormula text = .ok tree ↔ IsAscii text ∧ Derives FormulaRule text tree) ∧
    (∀ tree, parseExpr text = .ok tree ↔ IsAscii text ∧ Derives Expression text tree) ∧
    (∀ test, parseCondition text = .ok test ↔ IsAscii text ∧ Derives Logical text test) ∧
    Unambiguous FormulaRule ∧ Unambiguous Expression ∧ Unambiguous Logical := by
  exact ⟨fun _ => parseFormula_eq_ok_iff, fun _ => parseExpr_eq_ok_iff,
    fun _ => parseCondition_eq_ok_iff, unambiguous_of_read Source.formula_readAll,
    unambiguous_of_read Source.expression_readAll, unambiguous_of_read Source.condition_readAll⟩

end Grammar

end RewardFormula
