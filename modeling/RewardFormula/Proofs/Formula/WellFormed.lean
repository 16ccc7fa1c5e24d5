import RewardFormula.Proofs.Evaluation.Faults
import RewardFormula.Proofs.Formula.NamedInfinities
import RewardFormula.Proofs.Source.Parsing

/-!
# Trees that sources derive

The types of trees allow more than sources can say. In a tree that is derived from
a source all names are valid, properties and loops are of references, and constants
are numbers without a sign. A formula has an assignment, or declares a function.
-/

namespace RewardFormula

open Binary64 Grammar

mutual

inductive Expr.WellFormed : Expr → Prop
  | const {value : Float} : value.isNaN = false → isNegative value = false →
      Expr.WellFormed (.const value)
  | var {name : String} : Name.isValid name = true → Expr.WellFormed (.var name)
  | deref {base : Expr} {field : String} : base.isReference = true → base.WellFormed →
      Name.isValid field = true → Expr.WellFormed (.deref base field)
  | unary (op : UnaryOp) {inner : Expr} : inner.WellFormed → Expr.WellFormed (.unary op inner)
  | binary (op : BinaryOp) {left right : Expr} : left.WellFormed → right.WellFormed →
      Expr.WellFormed (.binary op left right)
  | call {name : String} {arguments : List Expr} : Name.isValid name = true →
      (∀ argument ∈ arguments, argument.WellFormed) → Expr.WellFormed (.call name arguments)
  | ternary {test : Condition} {accepted rejected : Expr} :
      test.WellFormed → accepted.WellFormed → rejected.WellFormed →
      Expr.WellFormed (.ternary test accepted rejected)
  | loop {element result : String} {base : Expr} {exclusion : Option Expr}
      {body : List Assignment} : Name.isValid element = true → base.isReference = true →
      base.WellFormed → (∀ tree ∈ exclusion, tree.isReference = true) →
      (∀ tree ∈ exclusion, tree.WellFormed) → (∀ item ∈ body, item.WellFormed) →
      Name.isValid result = true → Expr.WellFormed (.loop element base exclusion body result)

inductive Condition.WellFormed : Condition → Prop
  | literal (value : Bool) : Condition.WellFormed (.literal value)
  | compare (op : Comparison) {left right : Expr} : left.WellFormed → right.WellFormed →
      Condition.WellFormed (.compare op left right)
  | logical (op : LogicalOp) {left right : Condition} : left.WellFormed → right.WellFormed →
      Condition.WellFormed (.logical op left right)

inductive Assignment.WellFormed : Assignment → Prop
  | assign {name : String} {value : Expr} : Name.isValid name = true → value.WellFormed →
      Assignment.WellFormed (.assign name value)

end

inductive Formula.WellFormed : Formula → Prop
  | assignments {items : List Assignment} :
      items ≠ [] → (∀ item ∈ items, item.WellFormed) → Formula.WellFormed (.assignments items)
  | function {name : String} {parameters : List String} {body : Expr} :
      Name.isValid name = true → (∀ parameter ∈ parameters, Name.isValid parameter = true) →
      body.WellFormed → Formula.WellFormed (.function name parameters body)

/-- Only declarations have no last name. -/
theorem Formula.WellFormed.lastName?_eq_none_iff {tree : Formula} (wellFormed : tree.WellFormed) :
    tree.lastName? = none ↔ ∃ name parameters body, tree = .function name parameters body := by
  cases wellFormed with
  | assignments nonempty _ =>
      simp [Formula.lastName?, Formula.items, nonempty]
  | function _ _ _ =>
      simp [Formula.lastName?, Formula.items]

/-- An evaluation never finds nothing to evaluate. -/
theorem Formula.WellFormed.not_failed_as_empty {tree : Formula} (wellFormed : tree.WellFormed)
    {G : Game} (registry : Registry G) (state : G.State) (retention : Retention)
    (table : Variables G) :
    (evaluateWith registry state retention tree table).result ≠ .error .emptyFormula := by
  intro failed
  obtain ⟨rfl, -⟩ | ⟨name, parameters, body, -, other⟩ :=
    eq_of_failed_as_whole registry state retention tree table failed rfl
  · cases wellFormed with
    | assignments nonempty _ =>
        exact nonempty rfl
  · cases other

section Derivations

variable {source rest : List Char}

theorem Grammar.VariableName.isValid {name : String} (named : VariableName source name rest) :
    Name.isValid name = true :=
  named.2.1

/-- Numerals have no sign, and every one of them is nearest to a number. -/
theorem Grammar.Literal.wellFormed {value : Float} (derived : Literal source value rest) :
    (Expr.const value).WellFormed := by
  obtain ⟨numeral, decimal, -, -, -, -, rfl⟩ := derived
  exact .const (isNaN_toFloat decimal) (isNegative_toFloat decimal)

theorem wellFormed_of_fields {base : Expr} {fields : List String}
    (derived : Many (After (Spaced (Sign '.')) VariableName) source fields rest)
    (reference : base.isReference = true) (wellFormed : base.WellFormed) :
    (fields.foldl .deref base).isReference = true ∧ (fields.foldl .deref base).WellFormed := by
  induction derived generalizing base with
  | none =>
      exact ⟨reference, wellFormed⟩
  | more field _ inductionHypothesis =>
      obtain ⟨-, named⟩ := field
      exact inductionHypothesis reference (.deref reference wellFormed named.isValid)

theorem Grammar.Reference.wellFormed {tree : Expr} (derived : Reference source tree rest) :
    tree.isReference = true ∧ tree.WellFormed := by
  obtain ⟨named, fields⟩ := derived
  exact wellFormed_of_fields fields rfl (.var named.isValid)

theorem Grammar.LoopHeader.wellFormed {element : String} {base : Expr} {exclusion : Option Expr}
    (derived : LoopHeader source (element, base, exclusion) rest) :
    Name.isValid element = true ∧ (base.isReference = true ∧ base.WellFormed) ∧
      ∀ tree ∈ exclusion, tree.isReference = true ∧ tree.WellFormed := by
  cases derived with
  | mk _ named _ base exclusion _ =>
      refine ⟨named.isValid, base.wellFormed, ?_⟩
      intro tree member
      cases exclusion with
      | absent =>
          cases member
      | present derived =>
          cases member
          obtain ⟨mark, reference⟩ := derived
          exact reference.wellFormed

theorem Grouped.wellFormed {first tree : Expr} {row : List (BinaryOp × Expr)}
    {edge : List BinaryOp} (grouped : Grouped first row tree edge)
    (firstWellFormed : first.WellFormed) (rowWellFormed : ∀ item ∈ row, item.2.WellFormed) :
    tree.WellFormed := by
  induction grouped with
  | operand first =>
      exact firstWellFormed
  | @operation first middle left right op before after _ _ _ _ _ _ ofLeft ofRight =>
      have ⟨ofBefore, ofBehind⟩ := List.forall_mem_append.1 rowWellFormed
      have ⟨ofMiddle, ofAfter⟩ := List.forall_mem_cons.1 ofBehind
      exact .binary op (ofLeft firstWellFormed ofBefore) (ofRight ofMiddle ofAfter)

theorem Condition.WellFormed.connections {first : Condition} {row : List (LogicalOp × Condition)}
    (firstWellFormed : first.WellFormed) (rowWellFormed : ∀ item ∈ row, item.2.WellFormed) :
    (row.foldl (fun left item => .logical item.1 left item.2) first).WellFormed := by
  induction row generalizing first with
  | nil =>
      exact firstWellFormed
  | cons item row inductionHypothesis =>
      have ⟨ofItem, ofOthers⟩ := List.forall_mem_cons.1 rowWellFormed
      exact inductionHypothesis (.logical item.1 firstWellFormed ofItem) ofOthers

/-- All values that the rule derives have the property. -/
def Grammar.Yields {α : Type} (rule : Rule α) (holds : α → Prop) : Prop :=
  ∀ ⦃source rest : List Char⦄ ⦃value : α⦄, rule source value rest → holds value

namespace Grammar.Yields

variable {α β : Type} {rule : Rule α} {holds : α → Prop}

theorem self (holds : α → Prop) : Yields (fun _ value _ => holds value) holds :=
  fun _ _ _ => id

theorem many (each : Yields rule holds) :
    Yields (Many rule) fun values => ∀ value ∈ values, holds value := by
  intro source rest values derived
  induction derived with
  | none =>
      exact List.forall_mem_nil _
  | more first _ inductionHypothesis =>
      exact List.forall_mem_cons.2 ⟨each first, inductionHypothesis⟩

theorem behind {first : Rule β} (each : Yields rule holds) :
    Yields (Then first rule) fun pair => holds pair.2 :=
  fun _ _ _ (.mk _ derived) => each derived

theorem after {mark : Rule Unit} (each : Yields rule holds) : Yields (After mark rule) holds :=
  fun _ _ _ (.mk _ derived) => each derived

theorem before {mark : Rule Unit} (each : Yields rule holds) : Yields (Before rule mark) holds :=
  fun _ _ _ (.mk derived _) => each derived

theorem separated {separator : Rule Unit} (each : Yields rule holds) :
    Yields (Separated separator rule) fun values => ∀ value ∈ values, holds value :=
  fun _ _ _ (.mk first others) => List.forall_mem_cons.2 ⟨each first, each.after.many others⟩

theorem separatedOrNone {separator : Rule Unit} (each : Yields rule holds) :
    Yields (SeparatedOrNone separator rule) fun values => ∀ value ∈ values, holds value := by
  intro source rest values derived
  cases derived with
  | none =>
      exact List.forall_mem_nil _
  | some derived =>
      exact each.separated derived

variable {expression : Rule Expr} (each : Yields expression Expr.WellFormed)

include each

theorem assigned : Yields (Assigned expression) Assignment.WellFormed :=
  fun _ _ _ (.mk named _ value) => .assign named.isValid (each value)

theorem loop : Yields (ForLoop expression) Expr.WellFormed := by
  rintro source rest tree ⟨-, -, header, -, ⟨-, statements, -, -, resultNamed, -, -⟩⟩
  have ⟨elementValid, ⟨reference, ofBase⟩, ofExclusion⟩ := header.wellFormed
  exact .loop elementValid reference ofBase (fun tree member => (ofExclusion tree member).1)
    (fun tree member => (ofExclusion tree member).2) (each.assigned.before.many statements)
    resultNamed.isValid

theorem call : Yields (Call expression) Expr.WellFormed :=
  fun _ _ _ (.mk named _ _ arguments _) => .call named.isValid (each.separatedOrNone arguments)

end Grammar.Yields

/-- Trees are put together from well-formed parts to well-formed trees, wherever the parts
stand. -/
theorem wellFormed_closed :
    Closed (fun _ tree _ => tree.WellFormed) (fun _ test _ => test.WellFormed)
      (fun _ test _ => test.WellFormed) (fun _ tree _ => tree.WellFormed)
      fun _ tree _ => tree.WellFormed where
  sumAlone ofSum := ofSum
  ternary ofTest _ ofAccepted _ ofRejected := .ternary ofTest ofAccepted ofRejected
  connections ofFirst row :=
    ofFirst.connections ((Yields.self Condition.WellFormed).behind.many row)
  literal _ := .literal _
  comparison ofLeft _ ofRight := .compare _ ofLeft ofRight
  enclosedTest _ ofTest _ := ofTest
  operations ofFirst row grouped :=
    grouped.wellFormed ofFirst ((Yields.self Expr.WellFormed).behind.many row)
  number literal := literal.wellFormed
  loop derived := (Yields.self Expr.WellFormed).loop derived
  call derived := (Yields.self Expr.WellFormed).call derived
  reference derived := derived.wellFormed.2
  enclosed _ ofTree _ := ofTree
  negation _ ofInner := .unary .neg ofInner

theorem Grammar.Expression.wellFormed {tree : Expr} (derived : Expression source tree rest) :
    tree.WellFormed :=
  wellFormed_closed.ofExpression derived

theorem Grammar.Logical.wellFormed {test : Condition} (derived : Logical source test rest) :
    test.WellFormed :=
  wellFormed_closed.ofLogical derived

theorem Grammar.FormulaRule.wellFormed {tree : Formula} (derived : FormulaRule source tree rest) :
    tree.WellFormed := by
  cases derived with
  | declaration derived =>
      obtain ⟨named, -, -, parameters, -, -, body, -⟩ := derived
      have named' : Yields VariableName fun name => Name.isValid name = true :=
        fun _ _ _ named => named.isValid
      exact .function named.isValid (named'.separatedOrNone parameters) body.wellFormed
  | assignments derived =>
      obtain ⟨items, -⟩ := derived
      have ofExpressions : Yields Expression Expr.WellFormed := fun _ _ _ => Expression.wellFormed
      refine .assignments ?_ (ofExpressions.assigned.separated items)
      obtain ⟨first, others⟩ := items
      exact List.cons_ne_nil _ _

end Derivations

/-- All that is read is well formed. A formula that is read has a last name unless
it declares a function, and no evaluation of it fails because it is empty. -/
theorem parse_wellFormed (source : String) :
    (∀ tree, parseExpr source = .ok tree → tree.WellFormed) ∧
    (∀ test, parseCondition source = .ok test → test.WellFormed) ∧
    ∀ tree, parseFormula source = .ok tree →
      tree.WellFormed ∧
      (tree.lastName? = none ↔ ∃ name parameters body, tree = .function name parameters body) ∧
      ∀ (G : Game) (registry : Registry G) (state : G.State) (table : Variables G),
        (evaluate registry state tree table).result ≠ .error .emptyFormula ∧
        (evaluateRetaining registry state tree table).result ≠ .error .emptyFormula ∧
        ∀ default, (evaluateInt registry state tree table default).result ≠
          .error .emptyFormula := by
  refine ⟨?expressions, ?conditions, ?formulas⟩
  case expressions =>
    intro tree parsed
    obtain ⟨-, before, after, -, derived, -⟩ := parseExpr_eq_ok_iff.1 parsed
    exact derived.wellFormed
  case conditions =>
    intro test parsed
    obtain ⟨-, before, after, -, derived, -⟩ := parseCondition_eq_ok_iff.1 parsed
    exact derived.wellFormed
  case formulas =>
    intro tree parsed
    obtain ⟨-, before, after, -, derived, -⟩ := parseFormula_eq_ok_iff.1 parsed
    have wellFormed := derived.wellFormed
    refine ⟨wellFormed, wellFormed.lastName?_eq_none_iff, ?_⟩
    intro G registry state table
    have removing := wellFormed.not_failed_as_empty registry state .removeCreated table
    have retaining := wellFormed.not_failed_as_empty registry state .retainCreated table
    simp only [evaluateInt, evaluate, evaluateRetaining, ne_eq, Outcome.map_failed_iff]
    exact ⟨removing, retaining, fun _ => removing⟩

end RewardFormula
