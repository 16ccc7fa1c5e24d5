import RewardFormula.Proofs.Formula.Writable
import RewardFormula.Proofs.Source.Parsing

/-!
# Spelling

A text spells a value by a rule of the grammar if the rule derives the value
from the text in front of anything that does not go on with a word. The texts of
tokens spell the tokens, and texts that are put together, with single blanks
around signs, spell what is put together of their values.
-/

namespace RewardFormula

namespace Grammar

instance (text : String) : Decidable (IsAscii text) :=
  List.decidableBAll (Source.isAscii · = true) text.toList

theorem isAscii_append {text text' : String} :
    IsAscii (text ++ text') ↔ IsAscii text ∧ IsAscii text' := by
  simp only [IsAscii, String.toList_append]
  exact List.forall_mem_append

/-- Letters and digits stand between the slash and the end of ASCII. -/
theorem isWordPart_cases {c : Char} (part : isWordPart c = true) :
    47 < c.toNat ∧ c.toNat < 128 ∨ c = '_' ∨ c = '$' ∨ c = '.' := by
  have alphanumeric : ∀ {c : Char}, c.isAlphanum = true → 47 < c.toNat ∧ c.toNat < 128 := by
    intro c isAlphanum
    rcases Bool.or_eq_true_iff.1 isAlphanum with isAlpha | isDigit
    · rw [isAlpha_iff_code] at isAlpha
      omega
    · rw [isDigit_iff_code] at isDigit
      omega
  simp only [isWordPart, Name.isPart, Name.isStart, Bool.or_eq_true, beq_iff_eq] at part
  rcases part with ((isAlphanum | isLine) | ((isAlpha | isLine) | isDollar)) | isPoint
  · exact .inl (alphanumeric isAlphanum)
  · exact .inr (.inl isLine)
  · exact .inl (alphanumeric (Bool.or_eq_true_iff.2 (.inl isAlpha)))
  · exact .inr (.inl isLine)
  · exact .inr (.inr (.inl isDollar))
  · exact .inr (.inr (.inr isPoint))

theorem isAscii_of_isWordPart {c : Char} (part : isWordPart c = true) :
    Source.isAscii c = true := by
  rcases isWordPart_cases part with code | rfl | rfl | rfl
  · exact decide_eq_true code.2
  all_goals decide

theorem isWordPart_of_isValid {name : String} (valid : Name.isValid name = true) :
    ∀ c ∈ name.toList, isWordPart c = true := by
  unfold Name.isValid at valid
  split at valid
  · contradiction
  next first rest letters =>
    simp only [Bool.and_eq_true, List.all_eq_true] at valid
    rw [letters, List.forall_mem_cons]
    refine ⟨by simp [isWordPart, valid.1.1], fun c inRest => ?_⟩
    simp [isWordPart, valid.1.2 c inRest]

theorem isAscii_of_isValid {name : String} (valid : Name.isValid name = true) : IsAscii name :=
  fun c member => isAscii_of_isWordPart (isWordPart_of_isValid valid c member)

variable {α : Type} {source rest : List Char}

theorem not_beginsLayout_cons {c : Char} (notBlank : Reader.isBlank c = false)
    (notSlash : c ≠ '/') : ¬ BeginsLayout (c :: rest) := by
  simp [BeginsLayout, notBlank, notSlash.symm]

theorem layout_before {c : Char} (notBlank : Reader.isBlank c = false) (notSlash : c ≠ '/') :
    Layout (c :: rest) (c :: rest) :=
  .done (not_beginsLayout_cons notBlank notSlash)

theorem layout_blank (layout : Layout source rest) : Layout (' ' :: source) rest :=
  .more (.blank rfl) layout

theorem BeginsOperand.layout (begins : BeginsOperand rest) : Layout rest rest := by
  obtain ⟨c, tail, rfl, isStart⟩ := begins
  refine layout_before ?_ ?_
  · by_contra isBlank
    simp only [Bool.not_eq_false, Reader.isBlank, Bool.or_eq_true, beq_iff_eq] at isBlank
    rcases isBlank with (((rfl | rfl) | rfl) | rfl) | rfl <;> cases isStart
  · rintro rfl
    cases isStart

theorem Many.append {item : Rule α} {middle : List Char} {values values' : List α}
    (first : Many item source values middle) (second : Many item middle values' rest) :
    Many item source (values ++ values') rest := by
  induction first with
  | none =>
      exact second
  | more derived _ inductionHypothesis =>
      exact .more derived (inductionHypothesis second)

theorem Many.snoc {item : Rule α} {middle : List Char} {values : List α} {value : α}
    (first : Many item source values middle) (last : item middle value rest) :
    Many item source (values ++ [value]) rest :=
  first.append (.more last .none)

/-! ## Spelling -/

theorem separate_nil : Separate [] :=
  endsBefore_nil

theorem separate_cons {c : Char} (notPart : isWordPart c = false) : Separate (c :: rest) := by
  rintro _ ⟨⟩
  exact notPart

theorem Separate.endsName (separate : Separate rest) : EndsBefore Name.isPart rest :=
  separate.mono fun c isPart => by simp [isWordPart, isPart]

/-- The text derives the value in front of anything that does not go on with a
word. -/
structure Spells (rule : Rule α) (text : String) (value : α) : Prop where
  ascii : IsAscii text
  derives : ∀ {rest}, Separate rest → rule (text.toList ++ rest) value rest

namespace Spells

variable {rule : Rule α} {text : String} {value : α}

theorem change {β : Type} {rule' : Rule β} {value' : β} (spelled : Spells rule text value)
    (changes : ∀ {source rest}, rule source value rest → rule' source value' rest) :
    Spells rule' text value' :=
  ⟨spelled.ascii, fun separate => changes (spelled.derives separate)⟩

theorem derivesText (spelled : Spells rule text value)
    (begins : ∀ {source rest}, rule source value rest → BeginsOperand source) :
    Derives rule text value := by
  have derived := spelled.derives separate_nil
  rw [List.append_nil] at derived
  exact ⟨_, _, (begins derived).layout, derived, .done (by simp [BeginsLayout])⟩

end Spells

/-- The text is a token with what layout it has, and may stand behind a word and
in front of an operand. -/
structure Divides (token : Rule α) (text : String) (value : α) : Prop where
  ascii : IsAscii text
  separate : ∀ {rest}, Separate (text.toList ++ rest)
  derives : ∀ {rest}, BeginsOperand rest → Spaced token (text.toList ++ rest) value rest

/-- A sign between two blanks. -/
theorem divides_between {token : Rule α} {value : α} {symbol : String} (plain : IsAscii symbol)
    (noLayout : ∀ {rest}, ¬ BeginsLayout (symbol.toList ++ ' ' :: rest))
    (found : ∀ {rest}, token (symbol.toList ++ rest) value rest) :
    Divides token (" " ++ symbol ++ " ") value := by
  refine ⟨?_, fun {rest} => ?_, fun {rest} begins => ?_⟩
  · rw [isAscii_append, isAscii_append]
    exact ⟨⟨by decide, plain⟩, by decide⟩
  · have behind : Separate (' ' :: (symbol.toList ++ ' ' :: rest)) := separate_cons rfl
    simpa using behind
  · have spaced : Spaced token (' ' :: (symbol.toList ++ ' ' :: rest)) value rest :=
      ⟨_, _, layout_blank (.done noLayout), found, layout_blank begins.layout⟩
    simpa using spaced

section Signs

variable {c : Char} (notBlank : Reader.isBlank c = false) (notSlash : c ≠ '/')

include notBlank notSlash

theorem divides_sign_between {text : String} (plain : IsAscii text)
    (letters : text.toList = [' ', c, ' ']) : Divides (Sign c) text () := by
  refine ⟨plain, fun {rest} => ?_, fun {rest} begins => ?_⟩
  · rw [letters]
    exact separate_cons rfl
  · rw [letters]
    exact ⟨_, _, layout_blank (layout_before notBlank notSlash), rfl, layout_blank begins.layout⟩

theorem divides_sign_behind {text : String} (plain : IsAscii text)
    (letters : text.toList = [c, ' ']) (notPart : isWordPart c = false) :
    Divides (Sign c) text () := by
  refine ⟨plain, fun {rest} => ?_, fun {rest} begins => ?_⟩
  · rw [letters]
    exact separate_cons notPart
  · rw [letters]
    exact ⟨_, _, layout_before notBlank notSlash, rfl, layout_blank begins.layout⟩

end Signs

theorem comma_divides : Divides (Sign ',') ", " () :=
  divides_sign_behind rfl (by decide) (by decide) rfl rfl

theorem semicolon_divides : Divides (Sign ';') "; " () :=
  divides_sign_behind rfl (by decide) (by decide) rfl rfl

theorem equals_divides : Divides (Sign '=') " = " () :=
  divides_sign_between rfl (by decide) (by decide) rfl

theorem colon_divides : Divides (Sign ':') " : " () :=
  divides_sign_between rfl (by decide) (by decide) rfl

/-- Two texts with a sign between them spell what their values are joined to. -/
theorem Spells.divided {β γ δ : Type} {left : Rule α} {token : Rule β} {right : Rule γ}
    {joint : Rule δ} {leftValue : α} {sign : β} {rightValue : γ} {value : δ}
    {leftText signText rightText : String} (leftSpelled : Spells left leftText leftValue)
    (divides : Divides token signText sign) (rightSpelled : Spells right rightText rightValue)
    (rightBegins : ∀ {source rest}, right source rightValue rest → BeginsOperand source)
    (join : ∀ {source afterLeft atRight rest}, left source leftValue afterLeft →
      Spaced token afterLeft sign atRight → right atRight rightValue rest →
        joint source value rest) :
    Spells joint (leftText ++ signText ++ rightText) value := by
  refine ⟨?_, fun {rest} separate => ?_⟩
  · rw [isAscii_append, isAscii_append]
    exact ⟨⟨leftSpelled.ascii, divides.ascii⟩, rightSpelled.ascii⟩
  · have rightDerived := rightSpelled.derives separate
    have signDerived := divides.derives (rightBegins rightDerived)
    have leftDerived :=
      leftSpelled.derives (@Divides.separate _ _ _ _ divides (rightText.toList ++ rest))
    have derived := join leftDerived signDerived rightDerived
    simpa using derived

theorem spells_name {name : String} (valid : Name.isValid name = true) :
    Spells VariableName name name :=
  ⟨isAscii_of_isValid valid, fun separate => ⟨rfl, valid, separate.endsName⟩⟩

theorem spells_boolean (value : Bool) :
    Spells BooleanWord (Condition.text (.literal value)) value := by
  cases value with
  | true =>
      exact ⟨by decide, fun separate => .small ⟨rfl, separate.endsName⟩⟩
  | false =>
      exact ⟨by decide, fun separate => .smallFalse ⟨rfl, separate.endsName⟩⟩

theorem Digits.isWordPart {digits : List Char} (all : Digits digits) :
    ∀ c ∈ digits, isWordPart c = true := by
  intro c member
  simp [Grammar.isWordPart, Name.isPart, Char.isAlphanum, all c member]

theorem Significand.isWordPart {text whole fraction : List Char}
    (significand : Significand text whole fraction) :
    ∀ c ∈ text, isWordPart c = true := by
  cases significand with
  | whole digits =>
      exact digits.isWordPart
  | pointed digits _ fractionDigits =>
      exact List.forall_mem_append.2
        ⟨digits.isWordPart, List.forall_mem_cons.2 ⟨rfl, fractionDigits.isWordPart⟩⟩
  | fraction digits =>
      exact List.forall_mem_cons.2 ⟨rfl, digits.isWordPart⟩

/-- A constant with a sign is spelled as a negation. -/
theorem spells_constant {value : Float} (finite : Binary64.isFinite value = true) :
    Spells Operand (numberText value) (Expr.withExplicitSigns (.const value)) := by
  have unsigned : ∀ {x : Float}, Binary64.isFinite x = true → Binary64.isNegative x = false →
      Spells Operand (numberText x) (.const x) := by
    intro x finite unsigned
    refine ⟨fun c member => ?_, fun separate =>
      .number (literal_numberText finite unsigned separate)⟩
    rw [numberText, String.toList_ofList] at member
    obtain ⟨whole, fraction, significand, -⟩ := NumberText.ofFloat_unsigned finite unsigned
    exact isAscii_of_isWordPart (significand.isWordPart c member)
  rw [Expr.withExplicitSigns]
  cases negative : Binary64.isNegative value with
  | false =>
      exact unsigned finite negative
  | true =>
      have sign : Binary64.isNegative (-value) = false := by
        rw [Binary64.isNegative_neg finite, negative]
        rfl
      have spelled := unsigned (Binary64.isFinite_neg finite) sign
      have text := numberText_negative finite negative
      refine ⟨?_, fun separate => ?_⟩
      · rw [IsAscii, text]
        exact List.forall_mem_cons.2 ⟨rfl, spelled.ascii⟩
      · have derived := spelled.derives separate
        rw [text, List.cons_append]
        exact .negation derived.beginsOperand.layout derived

theorem Reference.deref {middle : List Char} {base : Expr} {field : String}
    (derived : Reference source base middle)
    (property : After (Spaced (Sign '.')) VariableName middle field rest) :
    Reference source (.deref base field) rest := by
  obtain ⟨named, fields⟩ := derived
  have longer := Reference.mk named (fields.snoc property)
  rwa [List.foldl_append] at longer

/-- The text of a reference may be followed by another property. -/
theorem reference_text (tree : Expr) (reference : tree.isReference = true)
    (writable : tree.isWritable = true) :
    IsAscii tree.text ∧
      ∀ {rest}, EndsBefore Name.isPart rest → Reference (tree.text.toList ++ rest) tree rest := by
  match tree with
  | .var name =>
      exact ⟨isAscii_of_isValid writable, fun ends => .mk ⟨rfl, writable, ends⟩ .none⟩
  | .deref base field =>
      simp only [Expr.isWritable, Bool.and_eq_true] at writable
      obtain ⟨⟨reference, baseWritable⟩, valid⟩ := writable
      obtain ⟨ascii, derives⟩ := reference_text base reference baseWritable
      refine ⟨?_, fun {rest} ends => ?_⟩
      · change IsAscii (base.text ++ "." ++ field)
        rw [isAscii_append, isAscii_append]
        exact ⟨⟨ascii, by decide⟩, isAscii_of_isValid valid⟩
      · have named : VariableName (field.toList ++ rest) field rest := ⟨rfl, valid, ends⟩
        have mark : Spaced (Sign '.') ('.' :: (field.toList ++ rest)) () (field.toList ++ rest) :=
          ⟨_, _, layout_before rfl (by decide), rfl, named.beginsOperand.layout⟩
        have pointEnds : EndsBefore Name.isPart ('.' :: (field.toList ++ rest)) := by
          rintro _ ⟨⟩
          rfl
        have derived := (derives pointEnds).deref (.mk mark named)
        change Reference ((base.text ++ "." ++ field).toList ++ rest) _ rest
        simpa using derived
termination_by structural tree

theorem spells_reference {tree : Expr} (reference : tree.isReference = true)
    (writable : tree.isWritable = true) : Spells Reference tree.text tree.withExplicitSigns := by
  obtain ⟨ascii, derives⟩ := reference_text tree reference writable
  rw [tree.withExplicitSigns_of_isReference reference]
  exact ⟨ascii, fun separate => derives separate.endsName⟩

variable {text : String}

theorem Spells.enclosed {tree : Expr} (spelled : Spells Expression text tree) :
    Spells Operand ("(" ++ text ++ ")") tree := by
  refine ⟨?_, fun {rest} _ => ?_⟩
  · rw [isAscii_append, isAscii_append]
    exact ⟨⟨by decide, spelled.ascii⟩, by decide⟩
  · have closes : Separate (')' :: rest) := separate_cons rfl
    have derived := spelled.derives closes
    have enclosed := Operand.enclosed derived.beginsOperand.layout derived
      (layout_before rfl (by decide))
    simpa using enclosed

theorem Spells.enclosedCondition {test : Condition} (spelled : Spells Logical text test) :
    Spells LogicalAtom ("(" ++ text ++ ")") test := by
  refine ⟨?_, fun {rest} _ => ?_⟩
  · rw [isAscii_append, isAscii_append]
    exact ⟨⟨by decide, spelled.ascii⟩, by decide⟩
  · have closes : Separate (')' :: rest) := separate_cons rfl
    have derived := spelled.derives closes
    have enclosed := LogicalAtom.enclosed derived.beginsOperand.layout derived
      (layout_before rfl (by decide))
    simpa using enclosed

/-- Texts with separators between them spell a list. -/
theorem spells_separated {item : Rule α} {mark : Rule Unit} {separator : String}
    (itemBegins : ∀ {source value rest}, item source value rest → BeginsOperand source)
    (divides : Divides mark separator ()) :
    ∀ {texts : List String} {values : List α}, List.Forall₂ (Spells item) texts values →
      texts ≠ [] →
        Spells (Separated (Spaced mark) item) (String.intercalate separator texts) values
  | [_], [_], .cons spelled .nil, _ => by
      rw [String.intercalate_singleton]
      exact spelled.change fun derived => .mk derived .none
  | _ :: _ :: _, _ :: _ :: _, .cons spelled others, _ => by
      have spelledOthers := spells_separated itemBegins divides others (List.cons_ne_nil _ _)
      rw [String.intercalate_cons_cons]
      refine spelled.divided divides spelledOthers ?_ ?_
      · rintro source rest ⟨second, -⟩
        exact itemBegins second
      · rintro source afterLeft atRight rest first behind ⟨second, more⟩
        exact .mk first (.more (.mk behind second) more)

theorem spells_separatedOrNone {item : Rule α}
    (itemBegins : ∀ {source value rest}, item source value rest → BeginsOperand source)
    {texts : List String} {values : List α} (spelled : List.Forall₂ (Spells item) texts values) :
    Spells (SeparatedOrNone (Spaced (Sign ',')) item) (String.intercalate ", " texts) values := by
  cases spelled with
  | nil =>
      exact ⟨by decide, fun _ => .none⟩
  | cons first others =>
      have separated := spells_separated itemBegins comma_divides (.cons first others)
        (List.cons_ne_nil _ _)
      exact separated.change .some

/-- A name with a list in parentheses. -/
def Signature {α : Type} (item : Rule α) : Rule (String × List α) := fun source signature rest =>
  ∃ afterName opened inside closing, VariableName source signature.1 afterName ∧
    Layout afterName ('(' :: opened) ∧ Layout opened inside ∧
    SeparatedOrNone (Spaced (Sign ',')) item inside signature.2 closing ∧
    Layout closing (')' :: rest)

theorem SeparatedOrNone.layout {α : Type} {mark : Rule Unit} {item : Rule α}
    {values : List α} (derived : SeparatedOrNone mark item source values rest)
    (itemBegins : ∀ {source value rest}, item source value rest → BeginsOperand source)
    (layout : Layout rest rest) : Layout source source := by
  cases derived with
  | none =>
      exact layout
  | some separated =>
      obtain ⟨first, -⟩ := separated
      exact (itemBegins first).layout

theorem spells_signature {α : Type} {item : Rule α} {name : String}
    (itemBegins : ∀ {source value rest}, item source value rest → BeginsOperand source)
    (valid : Name.isValid name = true) {texts : List String} {values : List α}
    (spelled : List.Forall₂ (Spells item) texts values) :
    Spells (Signature item) (name ++ "(" ++ String.intercalate ", " texts ++ ")")
      (name, values) := by
  have list := spells_separatedOrNone itemBegins spelled
  refine ⟨?_, fun {rest} _ => ?_⟩
  · rw [isAscii_append, isAscii_append, isAscii_append]
    exact ⟨⟨⟨isAscii_of_isValid valid, by decide⟩, list.ascii⟩, by decide⟩
  · have closes : Layout (')' :: rest) (')' :: rest) := layout_before rfl (by decide)
    have inside := list.derives (separate_cons rfl : Separate (')' :: rest))
    have behind : Separate ('(' :: ((String.intercalate ", " texts).toList ++ ')' :: rest)) :=
      separate_cons rfl
    have named := (spells_name valid).derives behind
    have derived : Signature item _ (name, values) rest :=
      ⟨_, _, _, _, named, layout_before rfl (by decide), inside.layout itemBegins closes, inside,
        closes⟩
    simpa using derived

theorem Signature.call {name : String} {arguments : List Expr}
    (signature : Signature Expression source (name, arguments) rest) :
    Call Expression source (.call name arguments) rest := by
  obtain ⟨afterName, opened, inside, closing, named, opens, begins, list, closes⟩ := signature
  exact .mk named opens begins list closes

theorem Signature.declaration {name : String} {parameters : List String} {body : Expr}
    {afterSignature atBody : List Char}
    (signature : Signature VariableName source (name, parameters) afterSignature)
    (sign : Spaced (Sign '=') afterSignature () atBody) (derived : Expression atBody body rest) :
    Declaration source (.function name parameters body) rest := by
  obtain ⟨afterName, opened, inside, closing, named, opens, begins, list, closes⟩ := signature
  exact .mk named opens begins list closes sign derived .absent

/-- What stands in the parentheses of a loop. -/
def LoopRange : Rule (String × Expr × Option Expr) := fun source range rest =>
  ∃ afterName afterColon afterBase, VariableName source range.1 afterName ∧
    Spaced (Sign ':') afterName () afterColon ∧ Reference afterColon range.2.1 afterBase ∧
    Maybe (After (Spaced (Sign '-')) Reference) afterBase range.2.2 rest

/-- The text derives the assignments of a loop, each with its semicolon, in front
of what may stand in the place of another one. -/
structure SpellsBody (text : String) (body : List Assignment) : Prop where
  ascii : IsAscii text
  derives : ∀ {rest}, BeginsOperand rest →
    Many (Before (Assigned Expression) (Spaced (Sign ';'))) (text.toList ++ rest) body rest

theorem Reference.beginsOperand {tree : Expr} (derived : Reference source tree rest) :
    BeginsOperand source := by
  obtain ⟨named, -⟩ := derived
  exact named.beginsOperand

theorem Assigned.beginsOperand {item : Assignment}
    (derived : Assigned Expression source item rest) : BeginsOperand source := by
  obtain ⟨named, -, -⟩ := derived
  exact named.beginsOperand

theorem statement_mayFollow :
    Reader.MayFollow (Before (Assigned Expression) (Spaced (Sign ';'))) BeginsOperand := by
  rintro source rest item ⟨assigned, -⟩
  exact assigned.beginsOperand

theorem LoopHeader.exists_cons {range : String × Expr × Option Expr}
    (derived : LoopHeader source range rest) : ∃ opened, source = '(' :: opened := by
  obtain ⟨-, -, -, -, -, -⟩ := derived
  exact ⟨_, rfl⟩

theorem LoopBody.exists_cons {body : List Assignment × String}
    (derived : LoopBody Expression source body rest) : ∃ opened, source = '\x7b' :: opened := by
  obtain ⟨-, -, -, -, -, -, -⟩ := derived
  exact ⟨_, rfl⟩

theorem FormulaRule.beginsOperand {tree : Formula} (derived : FormulaRule source tree rest) :
    BeginsOperand source := by
  cases derived with
  | declaration derived =>
      obtain ⟨named, -, -, -, -, -, -, -⟩ := derived
      exact named.beginsOperand
  | assignments derived =>
      obtain ⟨⟨first, -⟩, -⟩ := derived
      exact first.beginsOperand

/-- Another assignment in front of a body. -/
theorem SpellsBody.cons {text bodyText : String} {item : Assignment} {body : List Assignment}
    (others : SpellsBody bodyText body) (spelled : Spells (Assigned Expression) text item) :
    SpellsBody (text ++ "; " ++ bodyText) (item :: body) := by
  refine ⟨?_, fun {rest} begins => ?_⟩
  · rw [isAscii_append, isAscii_append]
    exact ⟨⟨spelled.ascii, by decide⟩, others.ascii⟩
  · have many := others.derives begins
    have nextBegins := Reader.follow_of_many statement_mayFollow many begins
    have mark := semicolon_divides.derives nextBegins
    have first := spelled.derives
      (@Divides.separate _ _ _ _ semicolon_divides (bodyText.toList ++ rest))
    have derived := Many.more (.mk first mark) many
    simpa using derived

namespace Spells

variable {element baseText rangeText result : String} {base : Expr} {exclusion : Option Expr}

theorem range (valid : Name.isValid element = true) (baseSpelled : Spells Reference baseText base) :
    Spells LoopRange (element ++ " : " ++ baseText) (element, base, none) :=
  (spells_name valid).divided colon_divides baseSpelled Reference.beginsOperand
    fun named colon reference => ⟨_, _, _, named, colon, reference, .absent⟩

theorem excluding {exclusionText : String} {excluded : Expr}
    (rangeSpelled : Spells LoopRange rangeText (element, base, none))
    (exclusionSpelled : Spells Reference exclusionText excluded) :
    Spells LoopRange (rangeText ++ " - " ++ exclusionText) (element, base, some excluded) := by
  refine rangeSpelled.divided (divides_sign_between rfl (by decide) (by decide) rfl)
    exclusionSpelled Reference.beginsOperand ?_
  rintro source afterLeft atRight rest ⟨afterName, afterColon, afterBase, named, colon, reference,
    ⟨⟩⟩ sign excluded
  exact ⟨_, _, _, named, colon, reference, .present (.mk sign excluded)⟩

theorem header (rangeSpelled : Spells LoopRange rangeText (element, base, exclusion)) :
    Spells LoopHeader ("(" ++ rangeText ++ ")") (element, base, exclusion) := by
  refine ⟨?_, fun {rest} _ => ?_⟩
  · rw [isAscii_append, isAscii_append]
    exact ⟨⟨by decide, rangeSpelled.ascii⟩, by decide⟩
  · have closes : Layout (')' :: rest) (')' :: rest) := layout_before rfl (by decide)
    obtain ⟨afterName, afterColon, afterBase, named, colon, reference, excluded⟩ :=
      rangeSpelled.derives (separate_cons rfl : Separate (')' :: rest))
    have derived := LoopHeader.mk named.beginsOperand.layout named colon reference excluded closes
    simpa using derived

theorem body {text : String} {statements : List Assignment} (spelled : SpellsBody text statements)
    (valid : Name.isValid result = true) :
    Spells (LoopBody Expression) ("\x7b " ++ text ++ "return " ++ result ++ " \x7d")
      (statements, result) := by
  refine ⟨?_, fun {rest} _ => ?_⟩
  · rw [isAscii_append, isAscii_append, isAscii_append, isAscii_append]
    exact ⟨⟨⟨⟨by decide, spelled.ascii⟩, by decide⟩, isAscii_of_isValid valid⟩, by decide⟩
  · have closes : Layout (' ' :: '\x7d' :: rest) ('\x7d' :: rest) :=
      layout_blank (layout_before rfl (by decide))
    have named := (spells_name valid).derives (separate_cons rfl : Separate (' ' :: '\x7d' :: rest))
    have word : Keyword "return"
        ("return".toList ++ ' ' :: (result.toList ++ ' ' :: '\x7d' :: rest))
        (' ' :: (result.toList ++ ' ' :: '\x7d' :: rest)) :=
      ⟨rfl, by rintro _ ⟨⟩; rfl⟩
    have many := spelled.derives (word.beginsOperand (by decide))
    have begins := Reader.follow_of_many statement_mayFollow many (word.beginsOperand (by decide))
    have derived := LoopBody.mk (layout_blank begins.layout) many word
      (layout_blank named.beginsOperand.layout) named .absent closes
    simpa using derived

theorem headerAndBody {headerText bodyText : String} {statements : List Assignment}
    (headerSpelled : Spells LoopHeader headerText (element, base, exclusion))
    (bodySpelled : Spells (LoopBody Expression) bodyText (statements, result)) :
    Spells (ForLoop Expression) ("for" ++ headerText ++ " " ++ bodyText)
      (.loop element base exclusion statements result) := by
  refine ⟨?_, fun {rest} separate => ?_⟩
  · rw [isAscii_append, isAscii_append, isAscii_append]
    exact ⟨⟨⟨by decide, headerSpelled.ascii⟩, by decide⟩, bodySpelled.ascii⟩
  · have body := bodySpelled.derives separate
    have header := headerSpelled.derives
      (separate_cons rfl : Separate (' ' :: (bodyText.toList ++ rest)))
    obtain ⟨atHeader, opensHeader⟩ := header.exists_cons
    obtain ⟨atBody, opensBody⟩ := body.exists_cons
    have word : Keyword "for" ("for".toList ++ '(' :: atHeader) ('(' :: atHeader) :=
      ⟨rfl, by rintro _ ⟨⟩; rfl⟩
    rw [opensBody] at header body opensHeader
    rw [opensHeader] at header
    have derived := ForLoop.mk word (layout_before rfl (by decide)) header
      (layout_blank (layout_before rfl (by decide))) body
    rw [← opensHeader, ← opensBody] at derived
    simpa using derived

theorem loop {bodyText : String} {statements : List Assignment}
    (rangeSpelled : Spells LoopRange rangeText (element, base, exclusion))
    (bodySpelled : SpellsBody bodyText statements) (valid : Name.isValid result = true) :
    Spells (ForLoop Expression)
      ("for(" ++ rangeText ++ ") \x7b " ++ bodyText ++ "return " ++ result ++ " \x7d")
      (.loop element base exclusion statements result) := by
  have spelled := rangeSpelled.header.headerAndBody (Spells.body bodySpelled valid)
  have text : "for" ++ ("(" ++ rangeText ++ ")") ++ " " ++
        ("\x7b " ++ bodyText ++ "return " ++ result ++ " \x7d") =
      "for(" ++ rangeText ++ ") \x7b " ++ bodyText ++ "return " ++ result ++ " \x7d" := by
    rw [← String.toList_inj]
    simp
  rwa [text] at spelled

end Spells

end Grammar

end RewardFormula
