import RewardFormula.Proofs.Source.Soundness

/-!
# Where rules may begin and stop

A reader takes as much as it can. So it reads what a rule derives only if the
characters that follow, after layout, do not continue it, and only if the
alternatives that are tried before are refused at its first character.
-/

namespace RewardFormula

theorem isDigit_iff_code {c : Char} : c.isDigit = true ↔ 48 ≤ c.toNat ∧ c.toNat ≤ 57 := by
  change (decide ('0'.val ≤ c.val) && decide (c.val ≤ '9'.val)) = true ↔ _
  rw [Bool.and_eq_true_iff, decide_eq_true_iff, decide_eq_true_iff]
  exact Iff.rfl

theorem isAlpha_iff_code {c : Char} :
    c.isAlpha = true ↔
      65 ≤ c.toNat ∧ c.toNat ≤ 90 ∨ 97 ≤ c.toNat ∧ c.toNat ≤ 122 := by
  change (decide ('A'.val ≤ c.val ∧ c.val ≤ 'Z'.val) ||
    (decide ('a'.val ≤ c.val) && decide (c.val ≤ 'z'.val))) = true ↔ _
  rw [Bool.or_eq_true_iff, Bool.and_eq_true_iff, decide_eq_true_iff, decide_eq_true_iff,
    decide_eq_true_iff]
  exact Iff.rfl

/-- Names do not begin with digits. -/
theorem Name.not_isStart_of_isDigit {c : Char} (isDigit : c.isDigit = true) :
    Name.isStart c = false := by
  rw [isDigit_iff_code] at isDigit
  by_contra isStart
  simp only [Bool.not_eq_false, Name.isStart, Bool.or_eq_true, beq_iff_eq, isAlpha_iff_code]
    at isStart
  rcases isStart with (letter | rfl) | rfl
  · omega
  · exact absurd isDigit (by decide)
  · exact absurd isDigit (by decide)

namespace Grammar

variable {source rest : List Char}

/-- None of the continuing characters stands next, after layout. -/
def StopsBefore (continuing : List Char) (rest : List Char) : Prop :=
  ∃ next, Layout rest next ∧ ∀ c ∈ next.head?, c ∉ continuing

/-- A property mark continues a reference. -/
def afterReference : List Char := ['.']

/-- An opening parenthesis makes a call of a name. -/
def afterOperand : List Char := '(' :: afterReference

def afterSum : List Char := ['+', '-', '*', '/', '^'] ++ afterOperand

def afterComparison : List Char := ['<', '>', '=', '!'] ++ afterSum

def afterLogical : List Char := ['&', '|', 'a', 'A', 'o', 'O'] ++ afterComparison

def afterTerm : List Char := '?' :: afterLogical

theorem afterReference_subset : afterReference ⊆ afterOperand :=
  List.subset_cons_self _ _

theorem afterOperand_subset : afterOperand ⊆ afterSum :=
  List.subset_append_right _ _

theorem afterSum_subset : afterSum ⊆ afterComparison :=
  List.subset_append_right _ _

theorem afterComparison_subset : afterComparison ⊆ afterLogical :=
  List.subset_append_right _ _

theorem afterLogical_subset : afterLogical ⊆ afterTerm :=
  List.subset_cons_self _ _

namespace StopsBefore

variable {continuing continuing' : List Char}

theorem mono (stops : StopsBefore continuing' rest) (subset : continuing ⊆ continuing') :
    StopsBefore continuing rest := by
  obtain ⟨next, layout, excluded⟩ := stops
  exact ⟨next, layout, fun c member inside => excluded c member (subset inside)⟩

theorem of_layout {c : Char} (layout : Layout source (c :: rest)) (excluded : c ∉ continuing) :
    StopsBefore continuing source := by
  refine ⟨c :: rest, layout, ?_⟩
  rintro _ ⟨⟩
  exact excluded

theorem of_end (layout : Layout rest []) : StopsBefore continuing rest :=
  ⟨[], layout, by simp⟩

/-- What was read stops before a token that begins otherwise. -/
theorem of_spaced {α : Type} {token : Rule α} {value : α} (spaced : Spaced token source value rest)
    (begins : ∀ {before after}, token before value after → ∀ c ∈ before.head?, c ∉ continuing) :
    StopsBefore continuing source := by
  obtain ⟨before, after, layout, found, -⟩ := spaced
  exact ⟨before, layout, begins found⟩

theorem of_sign {c : Char} (spaced : Spaced (Sign c) source () rest) (excluded : c ∉ continuing) :
    StopsBefore continuing source := by
  refine of_spaced spaced ?_
  rintro before after rfl _ ⟨⟩
  exact excluded

theorem of_lastSemicolon {next : List Char} (last : LastSemicolon source rest)
    (layout : Layout rest next) (excluded : ';' ∉ continuing)
    (begins : ∀ c ∈ next.head?, c ∉ continuing) : StopsBefore continuing source := by
  cases last with
  | absent =>
      exact ⟨next, layout, begins⟩
  | present found =>
      exact of_layout found excluded

end StopsBefore

/-- The characters with which operands begin. -/
def isOperandStart (c : Char) : Bool :=
  c.isDigit || c == '.' || Name.isStart c || c == '(' || c == '-'

/-- The source goes on with an operand, or with what may stand in its place. -/
def BeginsOperand (source : List Char) : Prop :=
  ∃ c tail, source = c :: tail ∧ isOperandStart c = true

theorem BeginsOperand.not_endsBefore (begins : BeginsOperand source) :
    ¬ EndsBefore isOperandStart source := by
  obtain ⟨c, tail, rfl, isStart⟩ := begins
  intro ends
  rw [ends c rfl] at isStart
  cases isStart

theorem VariableName.begins {name : String} (named : VariableName source name rest) :
    ∃ c tail, source = c :: tail ∧ Name.isStart c = true := by
  cases source with
  | nil =>
      exact absurd named not_variableName_nil
  | cons c tail =>
      exact ⟨c, tail, rfl, (variableName_cons_iff.1 named).1⟩

theorem Keyword.begins {word : String} (keyword : Keyword word source rest)
    (reserved : word ∈ Name.reserved) :
    ∃ c tail, source = c :: tail ∧ Name.isStart c = true := by
  have starts : ∀ word ∈ Name.reserved, word.toList.head?.any Name.isStart = true := by
    decide
  obtain ⟨c, first, isStart⟩ := (Option.any_eq_true _ _).1 (starts word reserved)
  obtain ⟨tail, letters⟩ := List.head?_eq_some_iff.1 first
  exact ⟨c, tail ++ rest, by rw [keyword.1, letters, List.cons_append], isStart⟩

theorem Literal.begins {value : Float} (written : Literal source value rest) :
    ∃ c tail, source = c :: tail ∧ (c.isDigit = true ∨ c = '.') := by
  by_contra other
  have refused : Reader.number.Refuses source := by
    refine Reader.number_refuses fun c member => ?_
    obtain ⟨tail, rfl⟩ := List.head?_eq_some_iff.1 member
    constructor
    · exact Bool.eq_false_iff.2 fun isDigit => other ⟨c, tail, rfl, .inl isDigit⟩
    · exact fun isPoint => other ⟨c, tail, rfl, .inr isPoint⟩
  exact Reader.not_refuses_of_read (Reader.number_eq_read.2 written) refused

theorem beginsOperand_of_isStart {c : Char} {tail : List Char} (isStart : Name.isStart c = true) :
    BeginsOperand (c :: tail) :=
  ⟨c, tail, rfl, by simp [isOperandStart, isStart]⟩

theorem VariableName.beginsOperand {name : String} (named : VariableName source name rest) :
    BeginsOperand source := by
  obtain ⟨c, tail, rfl, isStart⟩ := named.begins
  exact beginsOperand_of_isStart isStart

theorem Keyword.beginsOperand {word : String} (keyword : Keyword word source rest)
    (reserved : word ∈ Name.reserved) : BeginsOperand source := by
  obtain ⟨c, tail, rfl, isStart⟩ := keyword.begins reserved
  exact beginsOperand_of_isStart isStart

theorem BooleanWord.reserved {value : Bool} (found : BooleanWord source value rest) :
    ∃ word ∈ Name.reserved, Keyword word source rest := by
  cases found with
  | small keyword =>
      exact ⟨_, by decide, keyword⟩
  | capital keyword =>
      exact ⟨_, by decide, keyword⟩
  | smallFalse keyword =>
      exact ⟨_, by decide, keyword⟩
  | capitalFalse keyword =>
      exact ⟨_, by decide, keyword⟩

theorem Operand.beginsOperand {tree : Expr} (derived : Operand source tree rest) :
    BeginsOperand source := by
  cases derived with
  | number written =>
      obtain ⟨c, tail, rfl, isDigit | rfl⟩ := written.begins
      · exact ⟨c, tail, rfl, by simp [isOperandStart, isDigit]⟩
      · exact ⟨'.', tail, rfl, rfl⟩
  | loop derived =>
      obtain ⟨word, -, -, -, -⟩ := derived
      exact word.beginsOperand (by decide)
  | call derived =>
      obtain ⟨named, -, -, -, -⟩ := derived
      exact named.beginsOperand
  | reference derived =>
      obtain ⟨named, -⟩ := derived
      exact named.beginsOperand
  | enclosed =>
      exact ⟨'(', _, rfl, rfl⟩
  | negation =>
      exact ⟨'-', _, rfl, rfl⟩

theorem Sum.beginsOperand {tree : Expr} (derived : Sum source tree rest) :
    BeginsOperand source := by
  obtain ⟨first, -, -⟩ := derived
  exact first.beginsOperand

theorem Logical.beginsOperand {test : Condition} (derived : Logical source test rest) :
    BeginsOperand source := by
  obtain ⟨first, -⟩ := derived
  cases first with
  | literal found =>
      obtain ⟨word, reserved, keyword⟩ := found.reserved
      exact keyword.beginsOperand reserved
  | comparison left =>
      exact left.beginsOperand
  | enclosed =>
      exact ⟨'(', _, rfl, rfl⟩

theorem Expression.beginsOperand {tree : Expr} (derived : Expression source tree rest) :
    BeginsOperand source := by
  cases derived with
  | sum derived =>
      exact derived.beginsOperand
  | ternary test =>
      exact test.beginsOperand

/-- Behind a sign and layout an operand follows, so the sign does not go on with
the sign of equality. -/
theorem BeginsOperand.endsBefore_equals {next : List Char} (begins : BeginsOperand next)
    (layout : Layout source next) : EndsBefore (· == '=') source := by
  rintro c member
  obtain ⟨tail, rfl⟩ := List.head?_eq_some_iff.1 member
  by_contra isEquals
  obtain rfl : c = '=' := by simpa using isEquals
  have token : ¬ BeginsLayout ('=' :: tail) := by
    simp [BeginsLayout, Reader.isBlank]
  rw [layout.eq_of_not_beginsLayout token] at begins
  refine begins.not_endsBefore ?_
  rintro _ ⟨⟩
  rfl

end Grammar

namespace Reader

open Grammar

variable {α : Type} {source rest : List Char}

theorem spaced_refuses_of_stops {reader : Reader α} {continuing : List Char}
    (stops : StopsBefore continuing source)
    (refuses : ∀ {next}, (∀ c ∈ next.head?, c ∉ continuing) → reader.Refuses next) :
    (spaced reader).Refuses source := by
  obtain ⟨next, layout, excluded⟩ := stops
  exact spaced_refuses.2 ⟨next, layout, refuses excluded⟩

theorem spacedCharacter_refuses {c : Char} (stops : StopsBefore [c] source) :
    (spaced (character c)).Refuses source := by
  refine spaced_refuses_of_stops stops fun {next} excluded => ?_
  rw [character_refuses]
  intro first
  exact excluded c first List.mem_cons_self

theorem followedBy_refuses {operator : Reader α} {term : Reader Term} {continuing : List Char}
    (stops : StopsBefore continuing source)
    (refuses : ∀ {next}, (∀ c ∈ next.head?, c ∉ continuing) → operator.Refuses next) :
    (followedBy operator term).Refuses source := by
  simp only [followedBy, bind_refuses]
  exact .inl (spaced_refuses_of_stops stops refuses)

theorem name_refuses_of_endsBefore (other : EndsBefore Name.isStart source) :
    name.Refuses source := by
  rw [name_refuses]
  rintro ⟨found, rest, named⟩
  obtain ⟨c, tail, rfl, isStart⟩ := named.begins
  rw [other c rfl] at isStart
  cases isStart

theorem keyword_refuses_of_endsBefore {word : String} (reserved : word ∈ Name.reserved)
    (other : EndsBefore Name.isStart source) : (keyword word).Refuses source := by
  rw [keyword_refuses]
  rintro ⟨rest, found⟩
  obtain ⟨c, tail, rfl, isStart⟩ := found.begins reserved
  rw [other c rfl] at isStart
  cases isStart

theorem keyword_refuses_of_name {word found : String} (reserved : word ∈ Name.reserved)
    (named : VariableName source found rest) : (keyword word).Refuses source := by
  rw [keyword_refuses]
  rintro ⟨rest, keyword⟩
  exact keyword.not_variableName reserved named

theorem name_refuses_of_keyword {word : String} (reserved : word ∈ Name.reserved)
    (keyword : Keyword word source rest) : name.Refuses source := by
  rw [name_refuses]
  rintro ⟨found, rest', named⟩
  exact keyword.not_variableName reserved named

theorem number_refuses_of_isStart
    (begins : ∃ c tail, source = c :: tail ∧ Name.isStart c = true) : number.Refuses source := by
  obtain ⟨c, tail, rfl, isStart⟩ := begins
  refine number_refuses ?_
  rintro _ ⟨⟩
  constructor
  · by_contra isDigit
    rw [Name.not_isStart_of_isDigit (by simpa using isDigit)] at isStart
    cases isStart
  · rintro rfl
    cases isStart

theorem boolean_refuses_of_loop (word : Keyword "for" source rest) : boolean.Refuses source := by
  obtain ⟨rfl, -⟩ := word
  refine boolean_refuses ?_
  simp [Keyword]

theorem boolean_refuses_of_keywords
    (refuses : ∀ word ∈ Name.reserved, (keyword word).Refuses source) :
    boolean.Refuses source := by
  refine boolean_refuses fun word member => keyword_refuses.1 (refuses word ?_)
  revert word member
  decide

section Terms

variable {operand term : Reader Term}

theorem loop_refuses (refuses : (keyword "for").Refuses source) : (loop term).Refuses source := by
  simp only [loop, within_refuses, bind_refuses]
  exact .inl refuses

theorem call_refuses (refuses : name.Refuses source) : (call term).Refuses source := by
  simp only [call, within_refuses, bind_refuses]
  exact .inl refuses

theorem assignment_refuses (refuses : name.Refuses source) : (assignment term).Refuses source := by
  simp only [assignment, within_refuses, bind_refuses]
  exact .inl refuses

theorem reference_refuses (refuses : name.Refuses source) : reference.Refuses source := by
  simp only [reference, bind_refuses]
  exact .inl refuses

theorem enclosed_refuses (other : source.head? ≠ some '(') : (enclosed term).Refuses source := by
  simp only [enclosed, bind_refuses, character_refuses]
  exact .inl other

theorem negation_refuses (other : source.head? ≠ some '-') : (negation operand).Refuses source := by
  simp only [negation, bind_refuses, character_refuses]
  exact .inl other

/-- Where no operand begins, a reader of operands is refused, and does not break
off. -/
theorem operandOver_refuses (other : EndsBefore isOperandStart source) :
    (operandOver operand term).Refuses source := by
  have parts : ∀ c ∈ source.head?, c.isDigit = false ∧ c ≠ '.' ∧ Name.isStart c = false ∧
      c ≠ '(' ∧ c ≠ '-' := by
    intro c member
    simpa [isOperandStart, and_assoc] using other c member
  have noName : EndsBefore Name.isStart source := fun c member => (parts c member).2.2.1
  have noKeyword : ∀ word ∈ Name.reserved, (keyword word).Refuses source :=
    fun word reserved => keyword_refuses_of_endsBefore reserved noName
  have nameRefuses := name_refuses_of_endsBefore noName
  simp only [operandOver, orElse_refuses, map_refuses]
  exact ⟨number_refuses fun c member => ⟨(parts c member).1, (parts c member).2.1⟩,
    boolean_refuses_of_keywords noKeyword, loop_refuses (noKeyword _ (by decide)),
    call_refuses nameRefuses, reference_refuses nameRefuses,
    enclosed_refuses fun first => (parts _ first).2.2.2.1 rfl,
    negation_refuses fun first => (parts _ first).2.2.2.2 rfl⟩

theorem expression_refuses (refuses : term.Refuses source) :
    (expression term).Refuses source := by
  simp only [expression, bind_refuses, within_refuses, spanned_refuses]
  exact .inl refuses

theorem termOver_refuses (refuses : operand.Refuses source) :
    (termOver operand term).Refuses source := by
  simp only [termOver, disjunction, comparisonTerm, sum, bind_refuses, spanned_refuses]
  exact .inl (.inl (.inl (.inl refuses)))

end Terms

theorem operand_refuses (depth : Nat) (other : EndsBefore isOperandStart source) :
    (operand depth).Refuses source := by
  cases depth with
  | zero =>
      rw [operand_zero]
      exact refuse_refuses
  | succ depth =>
      rw [operand_succ]
      exact operandOver_refuses other

theorem term_refuses (depth : Nat) (other : EndsBefore isOperandStart source) :
    (term depth).Refuses source := by
  cases depth with
  | zero =>
      rw [term_zero]
      exact refuse_refuses
  | succ depth =>
      rw [term_succ]
      exact termOver_refuses (operand_refuses depth other)

end Reader

end RewardFormula
