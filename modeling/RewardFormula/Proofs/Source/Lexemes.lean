import RewardFormula.Proofs.Source.Gaps

/-!
# What is derived depends on tokens and layout only

A rule looks at a source through the tokens in front of it and the layout between them.
What it derives from one source, it derives from every source in front of which the same
tokens and layout stand in the same order, whatever comes behind them.
-/

namespace RewardFormula

namespace Grammar

open Reader (isBlank)

theorem isSolid_of_code {c : Char} (large : 47 < c.toNat) : isSolid c = true := by
  refine isSolid_iff.2 ⟨?_, ?_⟩
  · by_contra isBlank
    simp only [Bool.not_eq_false, Reader.isBlank, Bool.or_eq_true, beq_iff_eq] at isBlank
    rcases isBlank with (((rfl | rfl) | rfl) | rfl) | rfl <;> exact absurd large (by decide)
  · rintro rfl
    exact absurd large (by decide)

theorem isSolid_of_isWordPart {c : Char} (part : isWordPart c = true) : isSolid c = true := by
  rcases isWordPart_cases part with code | rfl | rfl | rfl
  · exact isSolid_of_code code.1
  all_goals decide

/-- What is taken from the front of a source as a whole. -/
inductive Lexeme where
  | layout
  /-- Layout and the character behind it. -/
  | marked (c : Char)
  /-- A character that is no blank and opens no comment, whatever follows it. -/
  | sign (c : Char)
  /-- A name or a reserved word. -/
  | word (letters : List Char)
  | literal (value : Float)

/-- The lexeme stands between the source and the rest, and is as long as possible. -/
def Lexeme.Stands : Lexeme → List Char → List Char → Prop
  | layout, source, rest => Layout source rest
  | marked c, source, rest => Layout source (c :: rest)
  | sign c, source, rest => source = c :: rest ∧ isSolid c = true
  | word letters, source, rest =>
    source = letters ++ rest ∧ (∀ c ∈ letters, isSolid c = true) ∧ EndsBefore Name.isPart rest
  | literal value, source, rest => Literal source value rest

/-- The lexemes stand one after the other between the source and the rest. -/
def AllStand : List Lexeme → List Char → List Char → Prop
  | [], source, rest => source = rest
  | first :: others, source, rest =>
    ∃ middle, first.Stands source middle ∧ AllStand others middle rest

theorem allStand_append {lexemes lexemes' : List Lexeme} {source rest : List Char} :
    AllStand (lexemes ++ lexemes') source rest ↔
      ∃ middle, AllStand lexemes source middle ∧ AllStand lexemes' middle rest := by
  induction lexemes generalizing source with
  | nil =>
      simp [AllStand]
  | cons first others inductionHypothesis =>
      simp only [List.cons_append, AllStand, inductionHypothesis]
      constructor
      · rintro ⟨second, stands, middle, others, others'⟩
        exact ⟨middle, ⟨second, stands, others⟩, others'⟩
      · rintro ⟨middle, ⟨second, stands, others⟩, others'⟩
        exact ⟨second, stands, middle, others, others'⟩

/-- Some lexemes stand between the source and the rest, and the step leads from any source
to any rest between which they stand. -/
def Lexical (step : List Char → List Char → Prop) (source rest : List Char) : Prop :=
  ∃ lexemes, AllStand lexemes source rest ∧
    ∀ ⦃source' rest' : List Char⦄, AllStand lexemes source' rest' → step source' rest'

variable {source middle rest : List Char} {step step' : List Char → List Char → Prop}

namespace Lexical

theorem of_lexeme (lexeme : Lexeme) (stands : lexeme.Stands source rest)
    (implies : ∀ ⦃source' rest'⦄, lexeme.Stands source' rest' → step source' rest') :
    Lexical step source rest := by
  refine ⟨[lexeme], ⟨rest, stands, rfl⟩, ?_⟩
  rintro source' _ ⟨rest', stands', rfl⟩
  exact implies stands'

theorem nothing (implies : ∀ source, step source source) : Lexical step rest rest := by
  refine ⟨[], rfl, ?_⟩
  rintro source' _ rfl
  exact implies source'

theorem imp (lexical : Lexical step source rest)
    (implies : ∀ ⦃source' rest'⦄, step source' rest' → step' source' rest') :
    Lexical step' source rest := by
  obtain ⟨lexemes, stand, steps⟩ := lexical
  exact ⟨lexemes, stand, fun _ _ stand' => implies (steps stand')⟩

/-- One step behind the other. -/
theorem comp (first : Lexical step source middle) (second : Lexical step' middle rest) :
    Lexical (fun source' rest' => ∃ middle', step source' middle' ∧ step' middle' rest')
      source rest := by
  obtain ⟨lexemes, stand, steps⟩ := first
  obtain ⟨lexemes', stand', steps'⟩ := second
  refine ⟨lexemes ++ lexemes', allStand_append.2 ⟨middle, stand, stand'⟩, ?_⟩
  intro source' rest' both
  obtain ⟨middle', stand, stand'⟩ := allStand_append.1 both
  exact ⟨middle', steps stand, steps' stand'⟩

end Lexical

/-- The rule derives the value, and does so by the lexemes of the source. -/
def Lexically {α : Type} (rule : Rule α) : Rule α := fun source value rest =>
  Lexical (rule · value ·) source rest

/-- Whatever the first rule derives, the second one derives by the lexemes of the source. -/
def LexicalAs {α : Type} (rule rule' : Rule α) : Prop :=
  ∀ ⦃source rest : List Char⦄ ⦃value : α⦄,
    rule source value rest → Lexically rule' source value rest

/-- Whatever the rule derives, it derives by the lexemes of the source. -/
abbrev IsLexical {α : Type} (rule : Rule α) : Prop :=
  LexicalAs rule rule

theorem lexicalAs_of_lexically {α : Type} (rule : Rule α) : LexicalAs (Lexically rule) rule :=
  fun _ _ _ => id

theorem Layout.lexical (layout : Layout source rest) : Lexical Layout source rest :=
  .of_lexeme .layout layout fun _ _ layout' => layout'

/-- Layout in front of a sign. -/
theorem Layout.marked_lexical {c : Char} (layout : Layout source (c :: rest)) :
    Lexical (fun source' rest' => Layout source' (c :: rest')) source rest :=
  .of_lexeme (.marked c) layout fun _ _ layout' => layout'

theorem solid_lexical {c : Char} (solid : isSolid c = true) :
    Lexical (fun source' rest' => source' = c :: rest') (c :: rest) rest :=
  .of_lexeme (.sign c) ⟨rfl, solid⟩ fun _ _ stands => stands.1

theorem Sign.isLexical {c : Char} (solid : isSolid c = true) : IsLexical (Sign c) := by
  rintro _ rest - rfl
  exact solid_lexical solid

/-- Signs of several characters. -/
theorem solids_lexical {letters : List Char} (solid : letters.all isSolid = true) :
    Lexical (fun source' rest' => source' = letters ++ rest') (letters ++ rest) rest := by
  induction letters with
  | nil =>
      exact .nothing fun _ => rfl
  | cons c letters inductionHypothesis =>
      rw [List.all_cons, Bool.and_eq_true] at solid
      refine ((solid_lexical solid.1).comp (inductionHypothesis solid.2)).imp ?_
      rintro source' rest' ⟨_, rfl, rfl⟩
      rfl

theorem VariableName.isLexical : IsLexical VariableName := by
  rintro source rest name ⟨split, valid, ends⟩
  have solid : ∀ c ∈ name.toList, isSolid c = true := fun c member =>
    isSolid_of_isWordPart (isWordPart_of_isValid valid c member)
  refine .of_lexeme (.word name.toList) ⟨split, solid, ends⟩ ?_
  rintro source' rest' ⟨split', -, ends'⟩
  exact ⟨split', valid, ends'⟩

theorem Keyword.lexical {word : String} (keyword : Keyword word source rest)
    (reserved : word ∈ Name.reserved) : Lexical (Keyword word) source rest := by
  have solid : ∀ word ∈ Name.reserved, word.toList.all isSolid = true := by
    decide
  refine .of_lexeme (.word word.toList)
    ⟨keyword.1, List.all_eq_true.1 (solid word reserved), keyword.2⟩ ?_
  rintro source' rest' ⟨split', -, ends'⟩
  exact ⟨split', ends'⟩

theorem BooleanWord.isLexical : IsLexical BooleanWord := by
  intro source rest value found
  cases found with
  | small keyword =>
      exact (keyword.lexical (by decide)).imp fun _ _ => .small
  | capital keyword =>
      exact (keyword.lexical (by decide)).imp fun _ _ => .capital
  | smallFalse keyword =>
      exact (keyword.lexical (by decide)).imp fun _ _ => .smallFalse
  | capitalFalse keyword =>
      exact (keyword.lexical (by decide)).imp fun _ _ => .capitalFalse

theorem Literal.isLexical : IsLexical Literal :=
  fun _ _ value written => .of_lexeme (.literal value) written fun _ _ written' => written'

theorem ComparisonSign.isLexical : IsLexical ComparisonSign := by
  intro source rest op sign
  obtain rfl := sign
  refine solids_lexical ?_
  cases op <;> decide

theorem LogicalSign.isLexical : IsLexical LogicalSign := by
  intro source rest op sign
  cases sign with
  | symbol =>
      have solid : op.symbol.toList.all isSolid = true := by
        cases op <;> decide
      refine (solids_lexical solid).imp ?_
      rintro _ rest' rfl
      exact .symbol
  | smallAnd keyword =>
      exact (keyword.lexical (by decide)).imp fun _ _ => .smallAnd
  | capitalAnd keyword =>
      exact (keyword.lexical (by decide)).imp fun _ _ => .capitalAnd
  | smallOr keyword =>
      exact (keyword.lexical (by decide)).imp fun _ _ => .smallOr
  | capitalOr keyword =>
      exact (keyword.lexical (by decide)).imp fun _ _ => .capitalOr

section Combinations

variable {α β : Type} {item item' : Rule α} {c : Char}

theorem LexicalAs.spaced (items : LexicalAs item item') :
    LexicalAs (Spaced item) (Spaced item') := by
  rintro source rest value ⟨before, after, layoutBefore, found, layoutAfter⟩
  refine (layoutBefore.lexical.comp <| (items found).comp layoutAfter.lexical).imp ?_
  rintro source' rest' ⟨before', layoutBefore', after', found', layoutAfter'⟩
  exact ⟨before', after', layoutBefore', found', layoutAfter'⟩

/-- One of the signs is a slash, which opens no comment because layout ends in front of it. -/
theorem spacedBinarySign_isLexical : IsLexical (Spaced BinarySign) := by
  rintro source rest op ⟨_, after, layoutBefore, rfl, layoutAfter⟩
  obtain ⟨c, symbol⟩ : ∃ c, op.symbol.toList = [c] := by
    cases op <;> exact ⟨_, rfl⟩
  rw [symbol] at layoutBefore
  refine (layoutBefore.marked_lexical.comp layoutAfter.lexical).imp ?_
  rintro source' rest' ⟨after', layoutBefore', layoutAfter'⟩
  refine ⟨_, after', layoutBefore', ?_, layoutAfter'⟩
  rw [BinarySign, symbol, List.singleton_append]

theorem spacedSign_isLexical (solid : isSolid c = true) : IsLexical (Spaced (Sign c)) :=
  LexicalAs.spaced (Sign.isLexical solid)

theorem LexicalAs.behind {sign : Rule β} (items : LexicalAs item item') (signs : IsLexical sign) :
    LexicalAs (Then sign item) (Then sign item') := by
  rintro source rest ⟨op, value⟩ ⟨sign, found⟩
  refine ((signs sign).comp (items found)).imp ?_
  rintro source' rest' ⟨_, sign', found'⟩
  exact .mk sign' found'

theorem LexicalAs.many (items : LexicalAs item item') : LexicalAs (Many item) (Many item') := by
  intro source rest values derived
  induction derived with
  | none =>
      exact .nothing fun _ => .none
  | more first _ inductionHypothesis =>
      refine ((items first).comp inductionHypothesis).imp ?_
      rintro source' rest' ⟨_, first', others'⟩
      exact .more first' others'

theorem LexicalAs.maybe (items : LexicalAs item item') : LexicalAs (Maybe item) (Maybe item') := by
  intro source rest value? derived
  cases derived with
  | absent =>
      exact .nothing fun _ => .absent
  | present derived =>
      exact (items derived).imp fun _ _ => .present

theorem LexicalAs.after (items : LexicalAs item item') (solid : isSolid c = true) :
    LexicalAs (After (Spaced (Sign c)) item) (After (Spaced (Sign c)) item') := by
  rintro source rest value ⟨mark, derived⟩
  refine ((spacedSign_isLexical solid mark).comp (items derived)).imp ?_
  rintro source' rest' ⟨_, mark', derived'⟩
  exact .mk mark' derived'

theorem LexicalAs.before (items : LexicalAs item item') (solid : isSolid c = true) :
    LexicalAs (Before item (Spaced (Sign c))) (Before item' (Spaced (Sign c))) := by
  rintro source rest value ⟨derived, mark⟩
  refine ((items derived).comp (spacedSign_isLexical solid mark)).imp ?_
  rintro source' rest' ⟨_, derived', mark'⟩
  exact .mk derived' mark'

theorem LexicalAs.separated (items : LexicalAs item item') (solid : isSolid c = true) :
    LexicalAs (Separated (Spaced (Sign c)) item) (Separated (Spaced (Sign c)) item') := by
  rintro source rest values ⟨first, others⟩
  refine ((items first).comp ((items.after solid).many others)).imp ?_
  rintro source' rest' ⟨_, first', others'⟩
  exact .mk first' others'

theorem LexicalAs.separatedOrNone (items : LexicalAs item item') (solid : isSolid c = true) :
    LexicalAs (SeparatedOrNone (Spaced (Sign c)) item)
      (SeparatedOrNone (Spaced (Sign c)) item') := by
  intro source rest values derived
  cases derived with
  | none =>
      exact .nothing fun _ => .none
  | some derived =>
      exact (items.separated solid derived).imp fun _ _ => .some

end Combinations

theorem Reference.isLexical : IsLexical Reference := by
  rintro source rest tree ⟨named, fields⟩
  refine ((VariableName.isLexical named).comp
    ((VariableName.isLexical.after rfl).many fields)).imp ?_
  rintro source' rest' ⟨_, named', fields'⟩
  exact .mk named' fields'

theorem LoopHeader.isLexical : IsLexical LoopHeader := by
  rintro source rest range ⟨opening, named, colon, base, exclusion, closing⟩
  have ofExclusion := (Reference.isLexical.after rfl).maybe exclusion
  have ofRange := (Reference.isLexical base).comp <| ofExclusion.comp closing.marked_lexical
  have ofElement := (VariableName.isLexical named).comp <|
    (spacedSign_isLexical rfl colon).comp ofRange
  refine ((solid_lexical rfl).comp <| opening.lexical.comp ofElement).imp ?_
  rintro source' rest' ⟨_, rfl, _, opening', _, named', _, colon', _, base', _, exclusion',
    closing'⟩
  exact .mk opening' named' colon' base' exclusion' closing'

theorem LastSemicolon.lexical (last : LastSemicolon source rest) :
    Lexical LastSemicolon source rest := by
  cases last with
  | absent =>
      exact .nothing fun _ => .absent
  | present layout =>
      exact layout.marked_lexical.imp fun _ _ => .present

section Expressions

variable {expression expression' : Rule Expr} (expressions : LexicalAs expression expression')

include expressions

theorem LexicalAs.assigned : LexicalAs (Assigned expression) (Assigned expression') := by
  rintro source rest item ⟨named, sign, value⟩
  refine ((VariableName.isLexical named).comp <| (spacedSign_isLexical rfl sign).comp
    (expressions value)).imp ?_
  rintro source' rest' ⟨_, named', _, sign', value'⟩
  exact .mk named' sign' value'

theorem LexicalAs.call : LexicalAs (Call expression) (Call expression') := by
  rintro source rest tree ⟨named, opens, beforeArguments, arguments, closing⟩
  have ofArguments := (expressions.separatedOrNone rfl arguments).comp closing.marked_lexical
  refine ((VariableName.isLexical named).comp <| opens.marked_lexical.comp <|
    beforeArguments.lexical.comp ofArguments).imp ?_
  rintro source' rest' ⟨_, named', _, opens', _, beforeArguments', _, arguments', closing'⟩
  exact .mk named' opens' beforeArguments' arguments' closing'

theorem LexicalAs.loopBody : LexicalAs (LoopBody expression) (LoopBody expression') := by
  rintro source rest body ⟨opening, statements, word, beforeResult, result, last, closing⟩
  have ofStatements := (expressions.assigned.before rfl).many statements
  have ofResult := (VariableName.isLexical result).comp <| last.lexical.comp closing.marked_lexical
  have ofReturn := (word.lexical (by decide)).comp <| beforeResult.lexical.comp ofResult
  refine ((solid_lexical rfl).comp <| opening.lexical.comp <| ofStatements.comp ofReturn).imp ?_
  rintro source' rest' ⟨_, rfl, _, opening', _, statements', _, word', _, beforeResult', _,
    result', _, last', closing'⟩
  exact .mk opening' statements' word' beforeResult' result' last' closing'

theorem LexicalAs.loop : LexicalAs (ForLoop expression) (ForLoop expression') := by
  rintro source rest tree ⟨word, beforeHeader, header, beforeBody, body⟩
  have ofBody := beforeBody.lexical.comp (expressions.loopBody body)
  refine ((word.lexical (by decide)).comp <| beforeHeader.lexical.comp <|
    (LoopHeader.isLexical header).comp ofBody).imp ?_
  rintro source' rest' ⟨_, word', _, beforeHeader', _, header', _, beforeBody', body'⟩
  exact .mk word' beforeHeader' header' beforeBody' body'

end Expressions

/-- Each case takes the parts of a rule in the order of the source. -/
theorem lexical_closed :
    Closed (Lexically Expression) (Lexically Logical) (Lexically LogicalAtom) (Lexically Sum)
      (Lexically Operand) where
  sumAlone derived := derived.imp fun _ _ => .sum
  ternary test question accepted colon rejected := by
    have ofBranches := accepted.comp <| (spacedSign_isLexical rfl colon).comp rejected
    refine (test.comp <| (spacedSign_isLexical rfl question).comp ofBranches).imp ?_
    rintro source' rest' ⟨_, test', _, question', _, accepted', _, colon', rejected'⟩
    exact .ternary test' question' accepted' colon' rejected'
  connections first row := by
    have atoms := (lexicalAs_of_lexically LogicalAtom).behind LogicalSign.isLexical.spaced
    refine (first.comp (atoms.many row)).imp ?_
    rintro source' rest' ⟨_, first', row'⟩
    exact .mk first' row'
  literal word := (BooleanWord.isLexical word).imp fun _ _ => .literal
  comparison left sign right := by
    refine (left.comp <| (ComparisonSign.isLexical.spaced sign).comp right).imp ?_
    rintro source' rest' ⟨_, left', _, sign', right'⟩
    exact .comparison left' sign' right'
  enclosedTest opening inner closing := by
    refine ((solid_lexical rfl).comp <| opening.lexical.comp <| inner.comp <|
      closing.marked_lexical).imp ?_
    rintro source' rest' ⟨_, rfl, _, opening', _, inner', closing'⟩
    exact .enclosed opening' inner' closing'
  operations first row grouped := by
    have operands := (lexicalAs_of_lexically Operand).behind spacedBinarySign_isLexical
    refine (first.comp (operands.many row)).imp ?_
    rintro source' rest' ⟨_, first', row'⟩
    exact .mk first' row' grouped
  number literal := (Literal.isLexical literal).imp fun _ _ => .number
  loop derived := ((lexicalAs_of_lexically Expression).loop derived).imp fun _ _ => .loop
  call derived := ((lexicalAs_of_lexically Expression).call derived).imp fun _ _ => .call
  reference derived := (Reference.isLexical derived).imp fun _ _ => .reference
  enclosed opening inner closing := by
    refine ((solid_lexical rfl).comp <| opening.lexical.comp <| inner.comp <|
      closing.marked_lexical).imp ?_
    rintro source' rest' ⟨_, rfl, _, opening', _, inner', closing'⟩
    exact .enclosed opening' inner' closing'
  negation layout inner := by
    refine ((solid_lexical rfl).comp <| layout.lexical.comp inner).imp ?_
    rintro source' rest' ⟨_, rfl, _, layout', inner'⟩
    exact .negation layout' inner'

theorem Expression.isLexical : IsLexical Expression :=
  fun _ _ _ derived => lexical_closed.ofExpression derived

theorem Logical.isLexical : IsLexical Logical :=
  fun _ _ _ derived => lexical_closed.ofLogical derived

theorem Declaration.isLexical : IsLexical Declaration := by
  rintro source rest tree
    ⟨named, opens, beforeParameters, parameters, closing, sign, body, last⟩
  have ofBody := (spacedSign_isLexical rfl sign).comp <|
    (Expression.isLexical body).comp last.lexical
  have ofParameters := (VariableName.isLexical.separatedOrNone rfl parameters).comp <|
    closing.marked_lexical.comp ofBody
  refine ((VariableName.isLexical named).comp <| opens.marked_lexical.comp <|
    beforeParameters.lexical.comp ofParameters).imp ?_
  rintro source' rest' ⟨_, named', _, opens', _, beforeParameters', _, parameters', _, closing', _,
    sign', _, body', last'⟩
  exact .mk named' opens' beforeParameters' parameters' closing' sign' body' last'

theorem FormulaRule.isLexical : IsLexical FormulaRule := by
  intro source rest tree derived
  cases derived with
  | declaration derived =>
      exact (Declaration.isLexical derived).imp fun _ _ => .declaration
  | assignments derived =>
      obtain ⟨items, last⟩ := derived
      refine ((Expression.isLexical.assigned.separated rfl items).comp last.lexical).imp ?_
      rintro source' rest' ⟨_, items', last'⟩
      exact .assignments (.mk items' last')

end Grammar

end RewardFormula
