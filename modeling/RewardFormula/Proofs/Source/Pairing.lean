import RewardFormula.Proofs.Source.Lexemes

/-!
# Sources with the same tokens

Two sources may differ in their layout, or one may go on where the other ends. If
tokens and layout in front of the one are found in front of the other, then what a
rule derives from the one, it derives from the other, lexeme by lexeme.
-/

namespace RewardFormula

namespace Grammar

open Reader (isBlank)

/-- The characters of numerals: those of words, and the signs of exponents. -/
def isNumeralPart (c : Char) : Bool :=
  isWordPart c || c == '+' || c == '-'

theorem isSolid_of_isNumeralPart {c : Char} (part : isNumeralPart c = true) :
    isSolid c = true := by
  simp only [isNumeralPart, Bool.or_eq_true, beq_iff_eq] at part
  rcases part with (inWord | rfl) | rfl
  · exact isSolid_of_isWordPart inWord
  all_goals decide

theorem isNumeralPart_of_isPart (c : Char) (part : Name.isPart c = true) :
    isNumeralPart c = true := by
  simp [isNumeralPart, isWordPart, part]

theorem isNumeralPart_of_isStart (c : Char) (start : Name.isStart c = true) :
    isNumeralPart c = true := by
  simp [isNumeralPart, isWordPart, start]

theorem isNumeralPart_of_isBlank {c : Char} (blank : isBlank c = true) :
    isNumeralPart c = false := by
  by_contra part
  have solid := isSolid_of_isNumeralPart (Bool.not_eq_false _ ▸ part)
  rw [(isSolid_iff.1 solid).1] at blank
  cases blank

theorem isPart_eq_false {isPart : Char → Bool}
    (parts : ∀ c, isPart c = true → isNumeralPart c = true) {c : Char}
    (outside : isNumeralPart c = false) : isPart c = false := by
  by_contra part
  rw [parts c (Bool.not_eq_false _ ▸ part)] at outside
  cases outside

theorem ExponentPart.isNumeralPart {part : List Char} {exponent : Int}
    (written : ExponentPart part exponent) : ∀ c ∈ part, isNumeralPart c = true := by
  cases written with
  | absent =>
      exact List.forall_mem_nil _
  | @marked mark sign digits negative isMark signed allDigits _ =>
      have ofMark : Grammar.isNumeralPart mark = true := by
        rcases isMark with rfl | rfl <;> rfl
      have ofSign : ∀ c ∈ sign, Grammar.isNumeralPart c = true := by
        cases signed <;> simp [Grammar.isNumeralPart]
      have ofDigits : ∀ c ∈ digits, Grammar.isNumeralPart c = true := fun c member => by
        simp [Grammar.isNumeralPart, allDigits.isWordPart c member]
      exact List.forall_mem_cons.2 ⟨ofMark, List.forall_mem_append.2 ⟨ofSign, ofDigits⟩⟩

theorem Numeral.isNumeralPart {numeral : List Char} {decimal : Decimal}
    (written : Numeral numeral decimal) : ∀ c ∈ numeral, isNumeralPart c = true := by
  obtain ⟨significand, part⟩ := written
  refine List.forall_mem_append.2 ⟨fun c member => ?_, part.isNumeralPart⟩
  simp [Grammar.isNumeralPart, significand.isWordPart c member]

/-- `Moves source source'` pairs sources: the tokens and the layout in front of the
first one are found in front of the second one, and what is left of them is paired
again. -/
structure Pairing where
  Moves : List Char → List Char → Prop
  /-- A character that is no blank and opens no comment stands in front of both. -/
  tail {c : Char} {rest source' : List Char} : isBlank c = false →
    ¬ OpensComment (c :: rest) → Moves (c :: rest) source' →
      ∃ rest', source' = c :: rest' ∧ Moves rest rest'
  /-- A word that ends in front of the first source ends in front of the second one. -/
  endsBefore {isPart : Char → Bool} {rest rest' : List Char} :
    (∀ c, isPart c = true → isNumeralPart c = true) → Moves rest rest' →
      EndsBefore isPart rest → EndsBefore isPart rest'
  /-- The second source makes no room for a longer numeral. -/
  isPrefix {numeral source source' : List Char} : (∀ c ∈ numeral, isNumeralPart c = true) →
    Moves source source' → numeral <+: source' → numeral <+: source
  layout {source source' rest : List Char} : Layout source rest → Moves source source' →
    ∃ rest', Layout source' rest' ∧ Moves rest rest'

variable {pairing : Pairing} {source source' rest : List Char}

/-- A word without blanks and slashes stands in front of both sources. -/
theorem Pairing.Moves.word {word : List Char} (solid : ∀ c ∈ word, isSolid c = true)
    (moved : pairing.Moves (word ++ rest) source') :
    ∃ rest', source' = word ++ rest' ∧ pairing.Moves rest rest' := by
  induction word generalizing source' with
  | nil =>
      exact ⟨source', rfl, moved⟩
  | cons c word inductionHypothesis =>
      obtain ⟨first, others⟩ := List.forall_mem_cons.1 solid
      obtain ⟨notBlank, notSlash⟩ := isSolid_iff.1 first
      obtain ⟨tail', rfl, movedTail⟩ := pairing.tail notBlank (not_opensComment_cons notSlash) moved
      obtain ⟨rest', rfl, movedRest⟩ := inductionHypothesis others movedTail
      exact ⟨rest', rfl, movedRest⟩

theorem Literal.moves {value : Float} (written : Literal source value rest)
    (moved : pairing.Moves source source') :
    ∃ rest', Literal source' value rest' ∧ pairing.Moves rest rest' := by
  obtain ⟨numeral, decimal, rfl, isNumeral, longest, ends, rfl⟩ := written
  have longest' : ∀ longer decimal', Numeral longer decimal' → longer <+: source' →
      longer.length ≤ numeral.length := by
    intro longer decimal' longerNumeral front
    have front' := pairing.isPrefix longerNumeral.isNumeralPart moved front
    exact longest longer decimal' longerNumeral front'
  obtain ⟨rest', rfl, movedRest⟩ :=
    moved.word fun c member => isSolid_of_isNumeralPart (isNumeral.isNumeralPart c member)
  have ends' := pairing.endsBefore isNumeralPart_of_isStart movedRest ends
  exact ⟨rest', ⟨numeral, decimal, rfl, isNumeral, longest', ends', rfl⟩, movedRest⟩

theorem Lexeme.Stands.moves {lexeme : Lexeme} (stands : lexeme.Stands source rest)
    (moved : pairing.Moves source source') :
    ∃ rest', lexeme.Stands source' rest' ∧ pairing.Moves rest rest' := by
  cases lexeme with
  | layout =>
      exact pairing.layout stands moved
  | marked c =>
      obtain ⟨mark', layout', movedMark⟩ := pairing.layout stands moved
      -- Layout ends in front of the character, so it is no blank and opens no comment.
      have token : ¬ BeginsLayout (c :: rest) := Layout.not_beginsLayout stands
      have notBlank : isBlank c = false := by
        by_contra blank
        exact token (.inl ⟨c, rest, rfl, Bool.not_eq_false _ ▸ blank⟩)
      have noComment : ¬ OpensComment (c :: rest) := fun opens => token (.inr opens)
      obtain ⟨rest', rfl, movedRest⟩ := pairing.tail notBlank noComment movedMark
      exact ⟨rest', layout', movedRest⟩
  | sign c =>
      obtain ⟨rfl, solid⟩ := stands
      obtain ⟨notBlank, notSlash⟩ := isSolid_iff.1 solid
      obtain ⟨rest', rfl, movedRest⟩ :=
        pairing.tail notBlank (not_opensComment_cons notSlash) moved
      exact ⟨rest', ⟨rfl, solid⟩, movedRest⟩
  | word letters =>
      obtain ⟨rfl, solid, ends⟩ := stands
      obtain ⟨rest', rfl, movedRest⟩ := moved.word solid
      have ends' := pairing.endsBefore isNumeralPart_of_isPart movedRest ends
      exact ⟨rest', ⟨rfl, solid, ends'⟩, movedRest⟩
  | literal value =>
      exact Literal.moves stands moved

theorem AllStand.moves {lexemes : List Lexeme} (stand : AllStand lexemes source rest)
    (moved : pairing.Moves source source') :
    ∃ rest', AllStand lexemes source' rest' ∧ pairing.Moves rest rest' := by
  induction lexemes generalizing source source' with
  | nil =>
      obtain rfl : source = rest := stand
      exact ⟨source', rfl, moved⟩
  | cons first others inductionHypothesis =>
      obtain ⟨middle, stands, others⟩ := stand
      obtain ⟨middle', stands', movedMiddle⟩ := stands.moves moved
      obtain ⟨rest', others', movedRest⟩ := inductionHypothesis others movedMiddle
      exact ⟨rest', ⟨middle', stands', others'⟩, movedRest⟩

theorem Lexical.moves {step : List Char → List Char → Prop} (lexical : Lexical step source rest)
    (moved : pairing.Moves source source') :
    ∃ rest', step source' rest' ∧ pairing.Moves rest rest' := by
  obtain ⟨lexemes, stand, steps⟩ := lexical
  obtain ⟨rest', stand', movedRest⟩ := stand.moves moved
  exact ⟨rest', steps stand', movedRest⟩

/-- What the rule derives from a source with a rest, it derives from every source paired
with it, and the rests are paired. -/
def Pairing.CarriesAll {α : Type} (pairing : Pairing) (rule : Rule α) : Prop :=
  ∀ {source source' rest value}, rule source value rest → pairing.Moves source source' →
    ∃ rest', rule source' value rest' ∧ pairing.Moves rest rest'

theorem IsLexical.carriesAll {α : Type} {rule : Rule α} (lexical : IsLexical rule) :
    pairing.CarriesAll rule :=
  fun derived moved => (lexical derived).moves moved

theorem Expression.moves : pairing.CarriesAll Expression :=
  Expression.isLexical.carriesAll

theorem Logical.moves : pairing.CarriesAll Logical :=
  Logical.isLexical.carriesAll

theorem FormulaRule.moves : pairing.CarriesAll FormulaRule :=
  FormulaRule.isLexical.carriesAll

/-- The same with layout on both sides. -/
theorem Pairing.CarriesAll.spaced {α : Type} {rule : Rule α} (carries : pairing.CarriesAll rule) :
    pairing.CarriesAll (Spaced rule) := by
  rintro source source' rest value ⟨before, after, layoutBefore, derived, layoutAfter⟩ moved
  obtain ⟨before', layoutBefore', moved⟩ := pairing.layout layoutBefore moved
  obtain ⟨after', derived', moved⟩ := carries derived moved
  obtain ⟨rest', layoutAfter', moved⟩ := pairing.layout layoutAfter moved
  exact ⟨rest', ⟨before', after', layoutBefore', derived', layoutAfter'⟩, moved⟩

end Grammar

end RewardFormula
