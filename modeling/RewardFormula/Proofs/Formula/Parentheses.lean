import RewardFormula.Proofs.Formula.RoundTrip
import RewardFormula.Proofs.Formula.WellFormed

/-!
# As few parentheses as possible

The canonical text of a tree has no parentheses that it could do without: no text that
derives the tree has fewer. So if a pair of them is left out, the text that remains is
not read, or read as another tree.
-/

namespace RewardFormula

open Grammar

mutual

/-- The number of pairs of parentheses in the canonical text of an expression. -/
def Expr.parentheses : Expr → Nat
  | .const _ => 0
  | .var _ => 0
  | .deref base _ => base.parentheses
  | .unary op inner => inner.parentheses + (decide (inner.priority < op.priority)).toNat
  | .binary op left right =>
    left.parentheses + (op.enclosesLeft left.priority).toNat +
      (right.parentheses + (op.enclosesRight right.priority).toNat)
  | .call _ arguments => Expr.allParentheses arguments + 1
  | .ternary condition accepted rejected =>
    condition.parentheses + accepted.parentheses + rejected.parentheses
  | .loop _ base none body _ => base.parentheses + Assignment.allParentheses body + 1
  | .loop _ base (some exclusion) body _ =>
    base.parentheses + exclusion.parentheses + Assignment.allParentheses body + 1
termination_by structural expr => expr

def Expr.allParentheses : List Expr → Nat
  | [] => 0
  | first :: rest => first.parentheses + Expr.allParentheses rest
termination_by structural exprs => exprs

def Condition.parentheses : Condition → Nat
  | .literal _ => 0
  | .compare _ left right =>
    left.parentheses + (left.priority == .ternary).toNat +
      (right.parentheses + (right.priority == .ternary).toNat)
  | .logical _ left right =>
    left.parentheses + (right.parentheses + right.isLogical.toNat)
termination_by structural condition => condition

def Assignment.parentheses : Assignment → Nat
  | .assign _ value => value.parentheses
termination_by structural assignment => assignment

def Assignment.allParentheses : List Assignment → Nat
  | [] => 0
  | first :: rest => first.parentheses + Assignment.allParentheses rest
termination_by structural assignments => assignments

end

def Formula.parentheses : Formula → Nat
  | .assignments items => Assignment.allParentheses items
  | .function _ _ body => body.parentheses + 1

theorem Expr.allParentheses_eq_sum (trees : List Expr) :
    Expr.allParentheses trees = (trees.map Expr.parentheses).sum := by
  induction trees with
  | nil =>
      rfl
  | cons first rest inductionHypothesis =>
      rw [Expr.allParentheses, inductionHypothesis, List.map_cons, List.sum_cons]

theorem Assignment.allParentheses_eq_sum (items : List Assignment) :
    Assignment.allParentheses items = (items.map Assignment.parentheses).sum := by
  induction items with
  | nil =>
      rfl
  | cons first rest inductionHypothesis =>
      rw [Assignment.allParentheses, inductionHypothesis, List.map_cons, List.sum_cons]

/-- The number of opening parentheses in a text. -/
def openings (text : List Char) : Nat :=
  text.count '('

theorem openings_append (text text' : List Char) :
    openings (text ++ text') = openings text + openings text' :=
  List.count_append

theorem openings_le_of_suffix {source rest : List Char} (ending : rest <:+ source) :
    openings rest ≤ openings source :=
  ending.sublist.count_le '('

theorem openings_opening (text : List Char) : openings ('(' :: text) = openings text + 1 :=
  List.count_cons_self

theorem openings_cons {c : Char} (other : c ≠ '(') (text : List Char) :
    openings (c :: text) = openings text :=
  List.count_cons_of_ne other

/-! ## Parentheses of canonical texts -/

theorem openings_of_isWordPart {text : List Char} (word : ∀ c ∈ text, isWordPart c = true) :
    openings text = 0 := by
  refine List.count_eq_zero_of_not_mem fun member => ?_
  have part := word _ member
  revert part
  decide

theorem openings_name {name : String} (valid : Name.isValid name = true) :
    openings name.toList = 0 :=
  openings_of_isWordPart (isWordPart_of_isValid valid)

theorem openings_numberText {value : Float} (finite : Binary64.isFinite value = true) :
    openings (numberText value).toList = 0 := by
  have unsigned : ∀ {x : Float}, Binary64.isFinite x = true → Binary64.isNegative x = false →
      openings (numberText x).toList = 0 := by
    intro x finite unsigned
    obtain ⟨whole, fraction, significand, -⟩ := NumberText.ofFloat_unsigned finite unsigned
    rw [numberText, String.toList_ofList]
    exact openings_of_isWordPart significand.isWordPart
  cases negative : Binary64.isNegative value with
  | false =>
      exact unsigned finite negative
  | true =>
      have sign : Binary64.isNegative (-value) = false := by
        rw [Binary64.isNegative_neg finite, negative]
        rfl
      rw [numberText_negative finite negative, openings_cons (by decide)]
      exact unsigned (Binary64.isFinite_neg finite) sign

theorem openings_parenthesizedIf (encloses : Bool) (text : String) :
    openings (parenthesizedIf encloses text).toList = openings text.toList + encloses.toNat := by
  cases encloses with
  | false =>
      rfl
  | true =>
      simp only [parenthesizedIf, if_true, String.toList_append, openings_append]
      simp [openings]
      omega

theorem UnaryOp.openings_symbol (op : UnaryOp) : openings op.symbol.toList = 0 := by
  cases op
  rfl

theorem BinaryOp.openings_symbol (op : BinaryOp) : openings op.symbol.toList = 0 := by
  cases op <;> rfl

theorem Comparison.openings_symbol (op : Comparison) : openings op.symbol.toList = 0 := by
  cases op <;> rfl

theorem LogicalOp.openings_symbol (op : LogicalOp) : openings op.symbol.toList = 0 := by
  cases op <;> rfl

theorem openings_intercalate {separator : String} (plain : openings separator.toList = 0)
    (texts : List String) :
    openings (String.intercalate separator texts).toList =
      (texts.map fun text => openings text.toList).sum := by
  induction texts with
  | nil =>
      rfl
  | cons first rest inductionHypothesis =>
      cases rest with
      | nil =>
          simp
      | cons second rest =>
          simp only [String.intercalate_cons_cons, String.toList_append, openings_append, plain,
            inductionHypothesis, List.map_cons, List.sum_cons]
          omega

mutual

theorem Expr.openings_text (tree : Expr) (writable : tree.isWritable = true) :
    openings tree.text.toList = tree.parentheses := by
  match tree with
  | .const value =>
      exact openings_numberText writable
  | .var name =>
      exact openings_name writable
  | .deref base field =>
      simp only [Expr.isWritable, Bool.and_eq_true] at writable
      obtain ⟨⟨-, baseWritable⟩, valid⟩ := writable
      unfold Expr.text
      simp only [Expr.parentheses, String.toList_append, openings_append,
        base.openings_text baseWritable, openings_name valid]
      rfl
  | .unary op inner =>
      unfold Expr.text
      simp only [Expr.parentheses, String.toList_append, openings_append,
        op.openings_symbol, openings_parenthesizedIf, inner.openings_text writable, Nat.zero_add]
  | .binary op left right =>
      obtain ⟨leftWritable, rightWritable⟩ := Bool.and_eq_true_iff.1 writable
      unfold Expr.text
      simp only [Expr.parentheses, String.toList_append, openings_append,
        op.openings_symbol, openings_parenthesizedIf, left.openings_text leftWritable,
        right.openings_text rightWritable]
      rfl
  | .call name arguments =>
      obtain ⟨valid, argumentsWritable⟩ := Bool.and_eq_true_iff.1 writable
      have comma : openings ", ".toList = 0 := rfl
      have inside := openings_intercalate comma (Expr.texts arguments)
      rw [Expr.openings_texts arguments argumentsWritable] at inside
      unfold Expr.text
      simp only [Expr.parentheses, String.toList_append, openings_append,
        openings_name valid, inside]
      have marks : openings "(".toList = 1 ∧ openings ")".toList = 0 := by decide
      omega
  | .ternary condition accepted rejected =>
      obtain ⟨writable, rejectedWritable⟩ := Bool.and_eq_true_iff.1 writable
      obtain ⟨conditionWritable, acceptedWritable⟩ := Bool.and_eq_true_iff.1 writable
      unfold Expr.text
      simp only [Expr.parentheses, String.toList_append, openings_append,
        condition.openings_text conditionWritable, accepted.openings_text acceptedWritable,
        rejected.openings_text rejectedWritable]
      rfl
  | .loop element base none body result =>
      simp only [Expr.isWritable, Bool.and_eq_true] at writable
      obtain ⟨⟨⟨⟨elementValid, -⟩, baseWritable⟩, bodyWritable⟩, resultValid⟩ := writable
      unfold Expr.text
      simp only [Expr.parentheses, String.toList_append, openings_append,
        openings_name elementValid, openings_name resultValid, base.openings_text baseWritable,
        Assignment.openings_statements body bodyWritable]
      have marks : openings "for(".toList = 1 ∧ openings " : ".toList = 0 ∧
          openings ") \x7b ".toList = 0 ∧ openings "return ".toList = 0 ∧
          openings " \x7d".toList = 0 := by
        decide
      omega
  | .loop element base (some exclusion) body result =>
      simp only [Expr.isWritable, Bool.and_eq_true] at writable
      obtain ⟨⟨⟨⟨⟨⟨elementValid, -⟩, baseWritable⟩, -⟩, exclusionWritable⟩, bodyWritable⟩,
        resultValid⟩ := writable
      unfold Expr.text
      simp only [Expr.parentheses, String.toList_append, openings_append,
        openings_name elementValid, openings_name resultValid, base.openings_text baseWritable,
        exclusion.openings_text exclusionWritable,
        Assignment.openings_statements body bodyWritable]
      have marks : openings "for(".toList = 1 ∧ openings " : ".toList = 0 ∧
          openings " - ".toList = 0 ∧ openings ") \x7b ".toList = 0 ∧
          openings "return ".toList = 0 ∧ openings " \x7d".toList = 0 := by
        decide
      omega
termination_by structural tree

theorem Expr.openings_texts (trees : List Expr) (writable : Expr.areWritable trees = true) :
    ((Expr.texts trees).map fun text => openings text.toList).sum = Expr.allParentheses trees := by
  match trees with
  | [] =>
      rfl
  | first :: rest =>
      obtain ⟨firstWritable, restWritable⟩ := Bool.and_eq_true_iff.1 writable
      simp only [Expr.texts, Expr.allParentheses, List.map_cons, List.sum_cons,
        first.openings_text firstWritable, Expr.openings_texts rest restWritable]
termination_by structural trees

theorem Condition.openings_text (test : Condition) (writable : test.isWritable = true) :
    openings test.text.toList = test.parentheses := by
  match test with
  | .literal true =>
      rfl
  | .literal false =>
      rfl
  | .compare op left right =>
      obtain ⟨leftWritable, rightWritable⟩ := Bool.and_eq_true_iff.1 writable
      simp only [Condition.text, Condition.parentheses, String.toList_append, openings_append,
        op.openings_symbol, openings_parenthesizedIf, left.openings_text leftWritable,
        right.openings_text rightWritable]
      rfl
  | .logical op left right =>
      obtain ⟨leftWritable, rightWritable⟩ := Bool.and_eq_true_iff.1 writable
      simp only [Condition.text, Condition.parentheses, String.toList_append, openings_append,
        op.openings_symbol, openings_parenthesizedIf, left.openings_text leftWritable,
        right.openings_text rightWritable]
      rfl
termination_by structural test

theorem Assignment.openings_text (item : Assignment) (writable : item.isWritable = true) :
    openings item.text.toList = item.parentheses := by
  match item with
  | .assign name value =>
      obtain ⟨valid, valueWritable⟩ := Bool.and_eq_true_iff.1 writable
      simp only [Assignment.text, Assignment.parentheses, String.toList_append, openings_append,
        openings_name valid, value.openings_text valueWritable]
      exact Nat.zero_add _
termination_by structural item

theorem Assignment.openings_statements (items : List Assignment)
    (writable : Assignment.areWritable items = true) :
    openings (Assignment.statements items).toList = Assignment.allParentheses items := by
  match items with
  | [] =>
      rfl
  | first :: rest =>
      obtain ⟨firstWritable, restWritable⟩ := Bool.and_eq_true_iff.1 writable
      simp only [Assignment.statements, Assignment.allParentheses, String.toList_append,
        openings_append, first.openings_text firstWritable,
        Assignment.openings_statements rest restWritable]
      rfl
termination_by structural items

end

theorem Formula.openings_text (tree : Formula) (writable : tree.isWritable = true) :
    openings tree.text.toList = tree.parentheses := by
  cases tree with
  | assignments items =>
      obtain ⟨-, itemsWritable⟩ := Bool.and_eq_true_iff.1 writable
      clear writable
      rw [Formula.text, openings_intercalate rfl, Formula.parentheses, List.map_map]
      induction items with
      | nil =>
          rfl
      | cons first rest inductionHypothesis =>
          obtain ⟨firstWritable, restWritable⟩ := Bool.and_eq_true_iff.1 itemsWritable
          rw [List.map_cons, List.sum_cons, inductionHypothesis restWritable,
            Assignment.allParentheses, Function.comp, first.openings_text firstWritable]
  | function name parameters body =>
      simp only [Formula.isWritable, Bool.and_eq_true, List.all_eq_true] at writable
      obtain ⟨⟨nameValid, parametersValid⟩, bodyWritable⟩ := writable
      have inside : openings (String.intercalate ", " parameters).toList = 0 := by
        rw [openings_intercalate rfl, List.sum_eq_zero_iff]
        intro count member
        obtain ⟨parameter, parameterMember, rfl⟩ := List.mem_map.1 member
        exact openings_name (parametersValid parameter parameterMember)
      simp only [Formula.text, Formula.parentheses, String.toList_append, openings_append,
        openings_name nameValid, inside, body.openings_text bodyWritable]
      have marks : openings "(".toList = 1 ∧ openings ") = ".toList = 0 := by decide
      omega

/-! ## Parentheses that a derivation needs -/

/-- The pairs of parentheses that an expression needs where an operand is expected. -/
def Expr.operandParentheses (tree : Expr) : Nat :=
  tree.parentheses + (decide (tree.priority < .negation)).toNat

theorem Expr.operandParentheses_of_primary {tree : Expr} (primary : tree.priority = .primary) :
    tree.operandParentheses = tree.parentheses := by
  rw [Expr.operandParentheses, primary]
  rfl

theorem Expr.priority_of_isReference {tree : Expr} (reference : tree.isReference = true) :
    tree.priority = .primary := by
  cases tree <;> first | rfl | cases reference

theorem Expr.parentheses_of_isReference (tree : Expr) (reference : tree.isReference = true) :
    tree.parentheses = 0 := by
  match tree with
  | .var name =>
      rfl
  | .deref base field =>
      exact base.parentheses_of_isReference reference
termination_by structural tree

/-- Parentheses around the tree of a row are needed only where its root may not stand. The
operands of the row bring their own. -/
theorem Grouped.parentheses_le {first tree : Expr} {row : List (BinaryOp × Expr)}
    {edge : List BinaryOp} (grouped : Grouped first row tree edge) (encloses : Priority → Bool)
    (loose : ∀ priority, encloses priority = true → priority < .negation)
    (admits : ∀ root ∈ edge.head?, encloses root.priority = false) :
    tree.parentheses + (encloses tree.priority).toNat ≤
      first.operandParentheses + (row.map fun item => item.2.operandParentheses).sum := by
  induction grouped generalizing encloses with
  | operand first =>
      have less : (encloses first.priority).toNat ≤
          (decide (first.priority < .negation)).toNat := by
        cases enclosed : encloses first.priority with
        | false =>
            exact Nat.zero_le _
        | true =>
            rw [decide_eq_true (loose _ enclosed)]
      simp only [Expr.operandParentheses, List.map_nil, List.sum_nil]
      omega
  | @operation first middle left right op before after leftEdge rightEdge _ _ admitsLeft
      admitsRight leftHypothesis rightHypothesis =>
      have ofLeft := leftHypothesis op.enclosesLeft
        (by intro priority; cases op <;> cases priority <;> decide) admitsLeft
      have ofRight := rightHypothesis op.enclosesRight
        (by intro priority; cases op <;> cases priority <;> decide) admitsRight
      have atRoot : encloses (Expr.binary op left right).priority = false := admits op rfl
      simp only [atRoot, Expr.parentheses, List.map_append, List.map_cons, List.sum_append,
        List.sum_cons, Bool.toNat_false]
      omega

theorem Condition.parentheses_connections (first : Condition) (row : List (LogicalOp × Condition)) :
    (row.foldl (fun left item => .logical item.1 left item.2) first).parentheses =
      first.parentheses +
        (row.map fun item => item.2.parentheses + item.2.isLogical.toNat).sum := by
  induction row generalizing first with
  | nil =>
      rfl
  | cons item row inductionHypothesis =>
      rw [List.foldl_cons, inductionHypothesis, Condition.parentheses, List.map_cons,
        List.sum_cons]
      omega

namespace Grammar

variable {source rest : List Char}

theorem Layout.openings_le (layout : Layout source rest) : openings rest ≤ openings source :=
  openings_le_of_suffix layout.suffix

theorem VariableName.openings_le {name : String} (named : VariableName source name rest) :
    openings rest ≤ openings source := by
  obtain ⟨rfl, -, -⟩ := named
  exact openings_le_of_suffix (List.suffix_append _ _)

theorem Keyword.openings_le {word : String} (keyword : Keyword word source rest) :
    openings rest ≤ openings source := by
  obtain ⟨rfl, -⟩ := keyword
  exact openings_le_of_suffix (List.suffix_append _ _)

theorem Literal.openings_le {value : Float} (literal : Literal source value rest) :
    openings rest ≤ openings source := by
  obtain ⟨numeral, decimal, rfl, -⟩ := literal
  exact openings_le_of_suffix (List.suffix_append _ _)

theorem LogicalSign.openings_le {op : LogicalOp} (sign : LogicalSign source op rest) :
    openings rest ≤ openings source := by
  cases sign with
  | symbol =>
      exact openings_le_of_suffix (List.suffix_append _ _)
  | smallAnd keyword | capitalAnd keyword | smallOr keyword | capitalOr keyword =>
      exact keyword.openings_le

theorem Spaced.openings_le {α : Type} {token : Rule α} {value : α}
    (spaced : Spaced token source value rest)
    (passes : ∀ {source rest}, token source value rest → openings rest ≤ openings source) :
    openings rest ≤ openings source := by
  obtain ⟨before, after, layoutBefore, found, layoutAfter⟩ := spaced
  exact layoutAfter.openings_le.trans ((passes found).trans layoutBefore.openings_le)

theorem Spaced.sign_openings_le {c : Char} (spaced : Spaced (Sign c) source () rest) :
    openings rest ≤ openings source := by
  refine spaced.openings_le ?_
  rintro source rest rfl
  exact openings_le_of_suffix (List.suffix_cons _ _)

theorem Spaced.symbol_openings_le {α : Type} {token : Rule α} {value : α} {symbol : String}
    (spaced : Spaced token source value rest)
    (written : ∀ {source rest}, token source value rest → source = symbol.toList ++ rest) :
    openings rest ≤ openings source :=
  spaced.openings_le fun found => openings_le_of_suffix ⟨_, (written found).symm⟩

theorem Many.openings_le {α : Type} {item : Rule α} {values : List α}
    (derived : Many item source values rest)
    (passes : ∀ {source rest value}, item source value rest → openings rest ≤ openings source) :
    openings rest ≤ openings source := by
  induction derived with
  | none =>
      exact Nat.le_refl _
  | more first _ inductionHypothesis =>
      exact inductionHypothesis.trans (passes first)

theorem Maybe.openings_le {α : Type} {item : Rule α} {value? : Option α}
    (derived : Maybe item source value? rest)
    (passes : ∀ {source rest value}, item source value rest → openings rest ≤ openings source) :
    openings rest ≤ openings source := by
  cases derived with
  | absent =>
      exact Nat.le_refl _
  | present derived =>
      exact passes derived

theorem Reference.openings_le {tree : Expr} (derived : Reference source tree rest) :
    openings rest ≤ openings source := by
  obtain ⟨named, fields⟩ := derived
  refine (fields.openings_le ?_).trans named.openings_le
  rintro source rest value ⟨mark, named⟩
  exact named.openings_le.trans mark.sign_openings_le

theorem LastSemicolon.openings_le (last : LastSemicolon source rest) :
    openings rest ≤ openings source := by
  cases last with
  | absent =>
      exact Nat.le_refl _
  | present layout =>
      exact (openings_le_of_suffix (List.suffix_cons _ _)).trans layout.openings_le

/-- The parentheses of the header are those of the loop. -/
theorem LoopHeader.openings_lt {range : String × Expr × Option Expr}
    (derived : LoopHeader source range rest) : openings rest < openings source := by
  obtain ⟨opening, named, colon, base, exclusion, closing⟩ := derived
  have ofExclusion := exclusion.openings_le fun ⟨mark, reference⟩ =>
    reference.openings_le.trans mark.sign_openings_le
  have ofOpening := opening.openings_le
  have ofName := named.openings_le
  have ofColon := colon.sign_openings_le
  have ofBase := base.openings_le
  have ofClosing := closing.openings_le
  rw [openings_cons (by decide)] at ofClosing
  rw [openings_opening]
  omega

/-- The references of a loop have no parentheses of their own. -/
theorem LoopHeader.parentheses_loop {element : String} {base : Expr} {exclusion : Option Expr}
    (derived : LoopHeader source (element, base, exclusion) rest) (body : List Assignment)
    (result : String) :
    (Expr.loop element base exclusion body result).parentheses =
      Assignment.allParentheses body + 1 := by
  obtain ⟨-, ⟨baseReference, -⟩, exclusionReference⟩ := derived.wellFormed
  cases exclusion with
  | none =>
      rw [Expr.parentheses, base.parentheses_of_isReference baseReference, Nat.zero_add]
  | some excluded =>
      have excludedReference := (exclusionReference excluded rfl).1
      rw [Expr.parentheses, base.parentheses_of_isReference baseReference,
        excluded.parentheses_of_isReference excludedReference, Nat.zero_add]

/-- Whatever the rule derives, the source opens as many parentheses in front of the rest as
the value needs. -/
def OpensFor {α : Type} (rule : Rule α) (needed : α → Nat) : Prop :=
  ∀ ⦃source rest : List Char⦄ ⦃value : α⦄, rule source value rest →
    needed value + openings rest ≤ openings source

namespace OpensFor

variable {α β : Type} {rule : Rule α} {needed : α → Nat} {c : Char}

theorem self (needed : α → Nat) :
    OpensFor (fun source value rest => needed value + openings rest ≤ openings source) needed :=
  fun _ _ _ => id

theorem many (each : OpensFor rule needed) {values : List α}
    (derived : Many rule source values rest) :
    (values.map needed).sum + openings rest ≤ openings source := by
  induction derived with
  | none =>
      exact Nat.le_of_eq (Nat.zero_add _)
  | more first _ inductionHypothesis =>
      have ofFirst := each first
      simp only [List.map_cons, List.sum_cons]
      omega

theorem behind {sign : Rule β} (each : OpensFor rule needed)
    (passes : ∀ {source rest value}, sign source value rest → openings rest ≤ openings source) :
    OpensFor (Then sign rule) fun pair => needed pair.2 := by
  rintro source rest pair ⟨sign, derived⟩
  exact (each derived).trans (passes sign)

theorem after (each : OpensFor rule needed) : OpensFor (After (Spaced (Sign c)) rule) needed := by
  rintro source rest value ⟨mark, derived⟩
  exact (each derived).trans mark.sign_openings_le

theorem before (each : OpensFor rule needed) : OpensFor (Before rule (Spaced (Sign c))) needed := by
  rintro source rest value ⟨derived, mark⟩
  exact (Nat.add_le_add_left mark.sign_openings_le _).trans (each derived)

theorem separated (each : OpensFor rule needed) {values : List α}
    (derived : Separated (Spaced (Sign c)) rule source values rest) :
    (values.map needed).sum + openings rest ≤ openings source := by
  obtain ⟨first, others⟩ := derived
  have ofFirst := each first
  have ofOthers := each.after.many others
  simp only [List.map_cons, List.sum_cons]
  omega

theorem separatedOrNone (each : OpensFor rule needed) {values : List α}
    (derived : SeparatedOrNone (Spaced (Sign c)) rule source values rest) :
    (values.map needed).sum + openings rest ≤ openings source := by
  cases derived with
  | none =>
      exact Nat.le_of_eq (Nat.zero_add _)
  | some derived =>
      exact each.separated derived

variable {expression : Rule Expr} (each : OpensFor expression Expr.parentheses)

include each

theorem assigned : OpensFor (Assigned expression) Assignment.parentheses := by
  rintro source rest item ⟨named, sign, value⟩
  have ofName := named.openings_le
  have ofSign := sign.sign_openings_le
  have ofValue := each value
  rw [Assignment.parentheses]
  omega

theorem loopBody {body : List Assignment} {result : String}
    (derived : LoopBody expression source (body, result) rest) :
    Assignment.allParentheses body + openings rest ≤ openings source := by
  obtain ⟨opening, statements, word, beforeResult, result, last, closing⟩ := derived
  have ofOpening := opening.openings_le
  have ofStatements := each.assigned.before.many statements
  have ofWord := word.openings_le
  have ofBeforeResult := beforeResult.openings_le
  have ofResult := result.openings_le
  have ofLast := last.openings_le
  have ofClosing := closing.openings_le
  rw [openings_cons (by decide)] at ofClosing
  rw [openings_cons (by decide), Assignment.allParentheses_eq_sum]
  omega

theorem loop : OpensFor (ForLoop expression) Expr.operandParentheses := by
  rintro source rest tree ⟨word, beforeHeader, header, beforeBody, body⟩
  have ofWord := word.openings_le
  have ofBeforeHeader := beforeHeader.openings_le
  have ofHeader := header.openings_lt
  have ofBeforeBody := beforeBody.openings_le
  have ofBody := each.loopBody body
  rw [Expr.operandParentheses_of_primary rfl, header.parentheses_loop]
  omega

theorem call : OpensFor (Call expression) Expr.operandParentheses := by
  rintro source rest tree ⟨named, opens, beforeArguments, arguments, closing⟩
  have ofName := named.openings_le
  have ofOpening := opens.openings_le
  have ofLayout := beforeArguments.openings_le
  have ofArguments := each.separatedOrNone arguments
  have ofClosing := closing.openings_le
  rw [openings_opening] at ofOpening
  rw [openings_cons (by decide)] at ofClosing
  rw [Expr.operandParentheses_of_primary rfl, Expr.parentheses, Expr.allParentheses_eq_sum]
  omega

end OpensFor

/-- Each case adds up the parentheses that the parts of a rule need, in the order of the
source. -/
theorem openings_closed :
    Closed (fun source tree rest => tree.parentheses + openings rest ≤ openings source)
      (fun source test rest => test.parentheses + openings rest ≤ openings source)
      (fun source test rest =>
        test.parentheses + test.isLogical.toNat + openings rest ≤ openings source)
      (fun source tree rest =>
        tree.parentheses + (tree.priority == .ternary).toNat + openings rest ≤ openings source)
      fun source tree rest => tree.operandParentheses + openings rest ≤ openings source where
  sumAlone ofSum := by
    omega
  ternary ofTest question ofAccepted colon ofRejected := by
    have ofQuestion := question.sign_openings_le
    have ofColon := colon.sign_openings_le
    rw [Expr.parentheses]
    omega
  connections ofFirst row := by
    have atoms := OpensFor.self fun test : Condition => test.parentheses + test.isLogical.toNat
    have ofRow := (atoms.behind fun sign => sign.openings_le LogicalSign.openings_le).many row
    rw [Condition.parentheses_connections]
    omega
  literal found := by
    obtain ⟨word, -, keyword⟩ := found.reserved
    have ofWord := keyword.openings_le
    simp only [Condition.parentheses, Condition.isLogical, Bool.toNat_false]
    omega
  comparison ofLeft sign ofRight := by
    have ofSign := sign.symbol_openings_le id
    simp only [Condition.parentheses, Condition.isLogical, Bool.toNat_false]
    omega
  enclosedTest {_ _ _ _ test} opening ofInner closing := by
    have ofOpening := opening.openings_le
    have ofClosing := closing.openings_le
    have single := Bool.toNat_le test.isLogical
    rw [openings_cons (by decide)] at ofClosing
    rw [openings_opening]
    omega
  operations ofFirst row grouped := by
    have operands := OpensFor.self Expr.operandParentheses
    have ofRow := (operands.behind fun sign => sign.symbol_openings_le id).many row
    have ofTree := grouped.parentheses_le (· == .ternary)
      (by intro priority; cases priority <;> decide)
      (by intro root _; cases root <;> rfl)
    omega
  number literal := by
    have ofLiteral := literal.openings_le
    rw [Expr.operandParentheses_of_primary rfl, Expr.parentheses]
    omega
  loop derived := (OpensFor.self Expr.parentheses).loop derived
  call derived := (OpensFor.self Expr.parentheses).call derived
  reference {_ _ tree} derived := by
    have ofReference := derived.openings_le
    have isReference := derived.wellFormed.1
    rw [Expr.operandParentheses_of_primary (Expr.priority_of_isReference isReference),
      tree.parentheses_of_isReference isReference]
    omega
  enclosed {_ _ _ _ tree} opening ofInner closing := by
    have ofOpening := opening.openings_le
    have ofClosing := closing.openings_le
    have single := Bool.toNat_le (decide (tree.priority < .negation))
    rw [openings_cons (by decide)] at ofClosing
    rw [openings_opening, Expr.operandParentheses]
    omega
  negation layout ofInner := by
    have ofLayout := layout.openings_le
    rw [openings_cons (by decide)]
    exact ofInner.trans ofLayout

theorem Expression.parentheses_le {tree : Expr} (derived : Expression source tree rest) :
    tree.parentheses + openings rest ≤ openings source :=
  openings_closed.ofExpression derived

theorem Logical.parentheses_le {test : Condition} (derived : Logical source test rest) :
    test.parentheses + openings rest ≤ openings source :=
  openings_closed.ofLogical derived

theorem SeparatedOrNone.openings_le {names : List String}
    (derived : SeparatedOrNone (Spaced (Sign ',')) VariableName source names rest) :
    openings rest ≤ openings source := by
  cases derived with
  | none =>
      exact Nat.le_refl _
  | some separated =>
      obtain ⟨first, others⟩ := separated
      have ofOthers := others.openings_le fun ⟨comma, named⟩ =>
        named.openings_le.trans comma.sign_openings_le
      exact ofOthers.trans first.openings_le

theorem FormulaRule.parentheses_le {tree : Formula} (derived : FormulaRule source tree rest) :
    tree.parentheses + openings rest ≤ openings source := by
  cases derived with
  | declaration derived =>
      obtain ⟨named, opens, beforeParameters, parameters, closing, sign, body, last⟩ := derived
      have ofName := named.openings_le
      have ofOpening := opens.openings_le
      have ofLayout := beforeParameters.openings_le
      have ofParameters := parameters.openings_le
      have ofClosing := closing.openings_le
      have ofSign := sign.sign_openings_le
      have ofBody := body.parentheses_le
      have ofLast := last.openings_le
      rw [openings_opening] at ofOpening
      rw [openings_cons (by decide)] at ofClosing
      rw [Formula.parentheses]
      omega
  | assignments derived =>
      obtain ⟨items, last⟩ := derived
      have expressions : OpensFor Expression Expr.parentheses :=
        fun _ _ _ => Expression.parentheses_le
      have ofItems := expressions.assigned.separated items
      have ofLast := last.openings_le
      rw [Formula.parentheses, Assignment.allParentheses_eq_sum]
      omega

/-- A whole text has at least as many opening parentheses as the canonical text of what it
derives. -/
theorem Derives.parentheses_le {α : Type} {rule : Rule α} {text : String} {value : α} {needed : Nat}
    (derived : Derives rule text value)
    (needs : ∀ {source rest}, rule source value rest → needed + openings rest ≤ openings source) :
    needed ≤ openings text.toList := by
  obtain ⟨before, after, layout, derived, -⟩ := derived
  have ofLayout := layout.openings_le
  have ofValue := needs derived
  omega

end Grammar

/-! ## Texts with a pair left out -/

theorem Expr.priority_of_beq {tree tree' : Expr} (same : tree.beq tree' = true) :
    tree.priority = tree'.priority := by
  cases tree <;> cases tree' <;> first
    | rfl
    | simp only [Expr.beq, Bool.false_eq_true] at same
      done
    | simp only [Expr.beq, Bool.and_eq_true, beq_iff_eq] at same
      simp only [Expr.priority, same]

theorem Condition.isLogical_of_beq {test test' : Condition} (same : test.beq test' = true) :
    test.isLogical = test'.isLogical := by
  cases test <;> cases test' <;> first
    | rfl
    | simp only [Condition.beq, Bool.false_eq_true] at same

mutual

/-- Equal trees are written with as many parentheses. -/
theorem Expr.parentheses_of_beq (tree tree' : Expr) (same : tree.beq tree' = true) :
    tree.parentheses = tree'.parentheses := by
  match tree with
  | .const value =>
      cases tree' <;> simp only [Expr.beq, Bool.false_eq_true] at same
      rfl
  | .var name =>
      cases tree' <;> simp only [Expr.beq, Bool.false_eq_true] at same
      rfl
  | .deref base field =>
      cases tree' <;> simp only [Expr.beq, Bool.and_eq_true, Bool.false_eq_true] at same
      rw [Expr.parentheses, Expr.parentheses, base.parentheses_of_beq _ same.2]
  | .unary op inner =>
      cases op
      cases tree' with
      | unary op' inner' =>
          cases op'
          simp only [Expr.beq, Bool.and_eq_true] at same
          simp only [Expr.parentheses, inner.parentheses_of_beq _ same.2,
            Expr.priority_of_beq same.2]
      | _ =>
          simp only [Expr.beq, Bool.false_eq_true] at same
  | .binary op left right =>
      cases tree' <;>
        simp only [Expr.beq, Bool.and_eq_true, beq_iff_eq, Bool.false_eq_true] at same
      obtain ⟨⟨rfl, sameLeft⟩, sameRight⟩ := same
      simp only [Expr.parentheses, left.parentheses_of_beq _ sameLeft,
        right.parentheses_of_beq _ sameRight, Expr.priority_of_beq sameLeft,
        Expr.priority_of_beq sameRight]
  | .call name arguments =>
      cases tree' <;> simp only [Expr.beq, Bool.and_eq_true, Bool.false_eq_true] at same
      simp only [Expr.parentheses, Expr.allParentheses_of_beq arguments _ same.2]
  | .ternary condition accepted rejected =>
      cases tree' <;> simp only [Expr.beq, Bool.and_eq_true, Bool.false_eq_true] at same
      obtain ⟨⟨sameCondition, sameAccepted⟩, sameRejected⟩ := same
      simp only [Expr.parentheses, condition.parentheses_of_beq _ sameCondition,
        accepted.parentheses_of_beq _ sameAccepted, rejected.parentheses_of_beq _ sameRejected]
  | .loop element base none body result =>
      cases tree' with
      | loop element' base' exclusion' body' result' =>
          cases exclusion' <;>
            simp only [Expr.beq, Bool.and_eq_true, Bool.false_eq_true] at same
          obtain ⟨⟨-, sameBase⟩, sameBody⟩ := same
          simp only [Expr.parentheses, base.parentheses_of_beq _ sameBase,
            Assignment.allParentheses_of_beq body _ sameBody]
      | _ =>
          simp only [Expr.beq, Bool.false_eq_true] at same
  | .loop element base (some exclusion) body result =>
      cases tree' with
      | loop element' base' exclusion' body' result' =>
          cases exclusion' <;>
            simp only [Expr.beq, Bool.and_eq_true, Bool.false_eq_true] at same
          obtain ⟨⟨⟨-, sameBase⟩, sameExclusion⟩, sameBody⟩ := same
          simp only [Expr.parentheses, base.parentheses_of_beq _ sameBase,
            exclusion.parentheses_of_beq _ sameExclusion,
            Assignment.allParentheses_of_beq body _ sameBody]
      | _ =>
          simp only [Expr.beq, Bool.false_eq_true] at same
termination_by structural tree

theorem Expr.allParentheses_of_beq (trees trees' : List Expr)
    (same : Expr.beqList trees trees' = true) :
    Expr.allParentheses trees = Expr.allParentheses trees' := by
  match trees with
  | [] =>
      cases trees' <;> simp only [Expr.beqList, Bool.false_eq_true] at same
      rfl
  | first :: rest =>
      cases trees' <;> simp only [Expr.beqList, Bool.and_eq_true, Bool.false_eq_true] at same
      simp only [Expr.allParentheses, first.parentheses_of_beq _ same.1,
        Expr.allParentheses_of_beq rest _ same.2]
termination_by structural trees

theorem Condition.parentheses_of_beq (test test' : Condition) (same : test.beq test' = true) :
    test.parentheses = test'.parentheses := by
  match test with
  | .literal value =>
      cases test' <;> simp only [Condition.beq, Bool.false_eq_true] at same
      rfl
  | .compare op left right =>
      cases test' <;> simp only [Condition.beq, Bool.and_eq_true, Bool.false_eq_true] at same
      obtain ⟨⟨-, sameLeft⟩, sameRight⟩ := same
      simp only [Condition.parentheses, left.parentheses_of_beq _ sameLeft,
        right.parentheses_of_beq _ sameRight, Expr.priority_of_beq sameLeft,
        Expr.priority_of_beq sameRight]
  | .logical op left right =>
      cases test' <;> simp only [Condition.beq, Bool.and_eq_true, Bool.false_eq_true] at same
      obtain ⟨⟨-, sameLeft⟩, sameRight⟩ := same
      simp only [Condition.parentheses, left.parentheses_of_beq _ sameLeft,
        right.parentheses_of_beq _ sameRight, Condition.isLogical_of_beq sameRight]
termination_by structural test

theorem Assignment.parentheses_of_beq (item item' : Assignment) (same : item.beq item' = true) :
    item.parentheses = item'.parentheses := by
  match item with
  | .assign name value =>
      cases item'
      simp only [Assignment.beq, Bool.and_eq_true] at same
      exact value.parentheses_of_beq _ same.2
termination_by structural item

theorem Assignment.allParentheses_of_beq (items items' : List Assignment)
    (same : Assignment.beqList items items' = true) :
    Assignment.allParentheses items = Assignment.allParentheses items' := by
  match items with
  | [] =>
      cases items' <;> simp only [Assignment.beqList, Bool.false_eq_true] at same
      rfl
  | first :: rest =>
      cases items' <;> simp only [Assignment.beqList, Bool.and_eq_true, Bool.false_eq_true] at same
      simp only [Assignment.allParentheses, first.parentheses_of_beq _ same.1,
        Assignment.allParentheses_of_beq rest _ same.2]
termination_by structural items

end

theorem Formula.parentheses_of_beq (tree tree' : Formula) (same : tree.beq tree' = true) :
    tree.parentheses = tree'.parentheses := by
  cases tree <;> cases tree' <;>
    simp only [Formula.beq, Bool.and_eq_true, Bool.false_eq_true] at same
  · exact Assignment.allParentheses_of_beq _ _ same
  · simp only [Formula.parentheses, Expr.parentheses_of_beq _ _ same.2]

theorem openings_without_pair {text before inside after : String}
    (split : text = before ++ "(" ++ inside ++ ")" ++ after) :
    openings (before ++ inside ++ after).toList < openings text.toList := by
  have marks : openings "(".toList = 1 ∧ openings ")".toList = 0 := by decide
  simp only [split, String.toList_append, openings_append]
  omega

/-- Trees that are written with a different number of parentheses are neither the same nor
equal. -/
theorem differs_of_parentheses_lt {α : Type} [BEq α] {parentheses : α → Nat}
    (congruent : ∀ tree tree' : α, (tree == tree') = true → parentheses tree = parentheses tree')
    {other tree : α} (fewer : parentheses other < parentheses tree) :
    other ≠ tree ∧ (other == tree) = false := by
  refine ⟨fun same => ?_, Bool.eq_false_iff.2 fun same => ?_⟩
  · exact Nat.lt_irrefl _ (same ▸ fewer)
  · exact Nat.ne_of_lt fewer (congruent other tree same)

/-- If any pair of parentheses is left out of a canonical text, the text that remains is not
read as the tree, nor as one that equals it. -/
theorem parse_text_without_pair (before inside after : String) :
    (∀ tree other : Expr, tree.isWritable = true →
      tree.text = before ++ "(" ++ inside ++ ")" ++ after →
      parseExpr (before ++ inside ++ after) = .ok other →
        other ≠ tree ∧ (other == tree) = false) ∧
    (∀ test other : Condition, test.isWritable = true →
      test.text = before ++ "(" ++ inside ++ ")" ++ after →
      parseCondition (before ++ inside ++ after) = .ok other →
        other ≠ test ∧ (other == test) = false) ∧
    (∀ tree other : Formula, tree.isWritable = true →
      tree.text = before ++ "(" ++ inside ++ ")" ++ after →
      parseFormula (before ++ inside ++ after) = .ok other →
        other ≠ tree ∧ (other == tree) = false) := by
  refine ⟨?expressions, ?conditions, ?formulas⟩
  case expressions =>
    intro tree other writable split parsed
    have less := openings_without_pair split
    have needed := (parseExpr_eq_ok_iff.1 parsed).2.parentheses_le Expression.parentheses_le
    rw [tree.openings_text writable] at less
    exact differs_of_parentheses_lt Expr.parentheses_of_beq (Nat.lt_of_le_of_lt needed less)
  case conditions =>
    intro test other writable split parsed
    have less := openings_without_pair split
    have needed := (parseCondition_eq_ok_iff.1 parsed).2.parentheses_le Logical.parentheses_le
    rw [test.openings_text writable] at less
    exact differs_of_parentheses_lt Condition.parentheses_of_beq (Nat.lt_of_le_of_lt needed less)
  case formulas =>
    intro tree other writable split parsed
    have less := openings_without_pair split
    have needed := (parseFormula_eq_ok_iff.1 parsed).2.parentheses_le FormulaRule.parentheses_le
    rw [tree.openings_text writable] at less
    exact differs_of_parentheses_lt Formula.parentheses_of_beq (Nat.lt_of_le_of_lt needed less)

/-- Without its parentheses a difference groups to the left, a negation takes the first
operand only, and connectives group to the left. -/
theorem parse_text_without_pair_regrouped :
    let difference : Expr := .binary .sub (.var "a") (.binary .sub (.var "b") (.var "c"))
    let regrouped : Expr := .binary .sub (.binary .sub (.var "a") (.var "b")) (.var "c")
    let test : Condition :=
      .logical .or (.literal true) (.logical .and (.literal false) (.literal true))
    let retested : Condition :=
      .logical .and (.logical .or (.literal true) (.literal false)) (.literal true)
    let opposite : Formula := .single "x" (.unary .neg (.binary .add (.var "y") (.var "z")))
    let shortened : Formula := .single "x" (.binary .add (.unary .neg (.var "y")) (.var "z"))
    (difference.isWritable = true ∧ difference.text = "a - " ++ "(" ++ "b - c" ++ ")" ++ "" ∧
      parseExpr ("a - " ++ "b - c" ++ "") = .ok regrouped ∧
      regrouped ≠ difference ∧ (regrouped == difference) = false) ∧
    (test.isWritable = true ∧ test.text = "true || " ++ "(" ++ "false && true" ++ ")" ++ "" ∧
      parseCondition ("true || " ++ "false && true" ++ "") = .ok retested ∧
      retested ≠ test ∧ (retested == test) = false) ∧
    (opposite.isWritable = true ∧ opposite.text = "x = -" ++ "(" ++ "y + z" ++ ")" ++ "" ∧
      parseFormula ("x = -" ++ "y + z" ++ "") = .ok shortened ∧
      shortened ≠ opposite ∧ (shortened == opposite) = false) := by
  intro difference regrouped test retested opposite shortened
  have ofDifference : difference.isWritable = true := by decide
  have differenceText : difference.text = "a - " ++ "(" ++ "b - c" ++ ")" ++ "" := by decide
  have readDifference : parseExpr ("a - " ++ "b - c" ++ "") = .ok regrouped := by cbv
  have ofTest : test.isWritable = true := by decide
  have testText : test.text = "true || " ++ "(" ++ "false && true" ++ ")" ++ "" := by decide
  have readTest : parseCondition ("true || " ++ "false && true" ++ "") = .ok retested := by cbv
  have ofOpposite : opposite.isWritable = true := by decide
  have oppositeText : opposite.text = "x = -" ++ "(" ++ "y + z" ++ ")" ++ "" := by decide
  have readOpposite : parseFormula ("x = -" ++ "y + z" ++ "") = .ok shortened := by cbv
  exact ⟨⟨ofDifference, differenceText, readDifference,
      (parse_text_without_pair _ _ _).1 _ _ ofDifference differenceText readDifference⟩,
    ⟨ofTest, testText, readTest,
      (parse_text_without_pair _ _ _).2.1 _ _ ofTest testText readTest⟩,
    ⟨ofOpposite, oppositeText, readOpposite,
      (parse_text_without_pair _ _ _).2.2 _ _ ofOpposite oppositeText readOpposite⟩⟩

end RewardFormula
