import RewardFormula.Proofs.Formula.Grouping
import RewardFormula.Source.Token

/-!
# The grammar as a relation

What the texts of formulas are and which trees they stand for, said without a
reader: nothing is tried in an order, nothing is committed to, and a repetition
may end anywhere. Only tokens look at what follows them, because a name, a
numeral and a stretch of layout are as long as possible.

A rule relates a source to a value and to the characters that are left. The
value is derived from the characters before those. An induction on derivations of
expressions and conditions is an instance of one principle, at the end.
-/

namespace RewardFormula

/-- `rule source value rest`: the front of the source, up to the rest, derives
the value. -/
abbrev Rule (α : Type) : Type := List Char → α → List Char → Prop

namespace Grammar

/-- The next character, if there is one, is not of a class. -/
def EndsBefore (isPart : Char → Bool) (rest : List Char) : Prop :=
  ∀ next ∈ rest.head?, isPart next = false

/-- A blank, a comment up to the end of its line, or a closed comment. -/
inductive LayoutUnit : List Char → List Char → Prop
  | blank {c : Char} {rest : List Char} : Reader.isBlank c = true → LayoutUnit (c :: rest) rest
  | line {comment rest : List Char} : '\n' ∉ comment → EndsBefore (· != '\n') rest →
      LayoutUnit ('/' :: '/' :: (comment ++ rest)) rest
  | block {comment rest : List Char} : ¬ ['*', '/'] <:+: comment →
      LayoutUnit ('/' :: '*' :: (comment ++ '*' :: '/' :: rest)) rest

/-- A blank or one of the two marks of comments stands in front. A mark opens a
comment, whether it is closed or not. -/
def BeginsLayout (source : List Char) : Prop :=
  (∃ c rest, source = c :: rest ∧ Reader.isBlank c = true) ∨
    ['/', '/'] <+: source ∨ ['/', '*'] <+: source

/-- `Layout source rest`: the longest layout in front of a token or of the end,
which may be empty. No token is found behind a comment that is not closed. -/
inductive Layout : List Char → List Char → Prop
  | done {rest : List Char} : ¬ BeginsLayout rest → Layout rest rest
  | more {source middle rest : List Char} :
      LayoutUnit source middle → Layout middle rest → Layout source rest

section Combinations

variable {α β : Type}

inductive Then (first : Rule α) (second : Rule β) : Rule (α × β)
  | mk {source middle rest : List Char} {a : α} {b : β} :
      first source a middle → second middle b rest → Then first second source (a, b) rest

inductive After (mark : Rule Unit) (item : Rule α) : Rule α
  | mk {source middle rest : List Char} {a : α} :
      mark source () middle → item middle a rest → After mark item source a rest

inductive Before (item : Rule α) (mark : Rule Unit) : Rule α
  | mk {source middle rest : List Char} {a : α} :
      item source a middle → mark middle () rest → Before item mark source a rest

inductive Maybe (item : Rule α) : Rule (Option α)
  | absent {rest : List Char} : Maybe item rest none rest
  | present {source rest : List Char} {a : α} :
      item source a rest → Maybe item source (some a) rest

inductive Many (item : Rule α) : Rule (List α)
  | none {rest : List Char} : Many item rest [] rest
  | more {source middle rest : List Char} {a : α} {as : List α} :
      item source a middle → Many item middle as rest → Many item source (a :: as) rest

/-- One item or more, with separators between them. -/
inductive Separated (separator : Rule Unit) (item : Rule α) : Rule (List α)
  | mk {source middle rest : List Char} {a : α} {as : List α} :
      item source a middle → Many (After separator item) middle as rest →
        Separated separator item source (a :: as) rest

/-- Any number of items, with separators between them. -/
inductive SeparatedOrNone (separator : Rule Unit) (item : Rule α) : Rule (List α)
  | none {rest : List Char} : SeparatedOrNone separator item rest [] rest
  | some {source rest : List Char} {as : List α} :
      Separated separator item source as rest → SeparatedOrNone separator item source as rest

/-- A token with layout on both sides. -/
def Spaced (token : Rule α) : Rule α := fun source a rest =>
  ∃ before after, Layout source before ∧ token before a after ∧ Layout after rest

end Combinations

/-- A given character. -/
def Sign (c : Char) : Rule Unit := fun source _ rest =>
  source = c :: rest

/-- The longest run of characters of a name, which is not a reserved word. -/
def VariableName : Rule String := fun source name rest =>
  source = name.toList ++ rest ∧ Name.isValid name = true ∧ EndsBefore Name.isPart rest

/-- A reserved word that does not go on as a longer name. -/
def Keyword (word : String) (source rest : List Char) : Prop :=
  source = word.toList ++ rest ∧ EndsBefore Name.isPart rest

inductive BooleanWord : Rule Bool
  | small {source rest : List Char} : Keyword "true" source rest → BooleanWord source true rest
  | capital {source rest : List Char} : Keyword "TRUE" source rest → BooleanWord source true rest
  | smallFalse {source rest : List Char} :
      Keyword "false" source rest → BooleanWord source false rest
  | capitalFalse {source rest : List Char} :
      Keyword "FALSE" source rest → BooleanWord source false rest

def BinarySign : Rule BinaryOp := fun source op rest =>
  source = op.symbol.toList ++ rest

def ComparisonSign : Rule Comparison := fun source op rest =>
  source = op.symbol.toList ++ rest

inductive LogicalSign : Rule LogicalOp
  | symbol {op : LogicalOp} {rest : List Char} : LogicalSign (op.symbol.toList ++ rest) op rest
  | smallAnd {source rest : List Char} : Keyword "and" source rest → LogicalSign source .and rest
  | capitalAnd {source rest : List Char} : Keyword "AND" source rest → LogicalSign source .and rest
  | smallOr {source rest : List Char} : Keyword "or" source rest → LogicalSign source .or rest
  | capitalOr {source rest : List Char} : Keyword "OR" source rest → LogicalSign source .or rest

def Digits (digits : List Char) : Prop :=
  ∀ digit ∈ digits, digit.isDigit = true

/-- `Significand text whole fraction`: digits around an optional point. -/
inductive Significand : List Char → List Char → List Char → Prop
  | whole {whole : List Char} : Digits whole → whole ≠ [] → Significand whole whole []
  | pointed {whole fraction : List Char} : Digits whole → whole ≠ [] → Digits fraction →
      Significand (whole ++ '.' :: fraction) whole fraction
  | fraction {fraction : List Char} : Digits fraction → fraction ≠ [] →
      Significand ('.' :: fraction) [] fraction

inductive ExponentSign : List Char → Bool → Prop
  | absent : ExponentSign [] false
  | plus : ExponentSign ['+'] false
  | minus : ExponentSign ['-'] true

/-- An optional exponent. Digits have to follow its mark. -/
inductive ExponentPart : List Char → Int → Prop
  | absent : ExponentPart [] 0
  | marked {mark : Char} {sign digits : List Char} {negative : Bool} :
      mark = 'e' ∨ mark = 'E' → ExponentSign sign negative → Digits digits → digits ≠ [] →
        ExponentPart (mark :: (sign ++ digits))
          (if negative then -(Decimal.ofDigitChars digits : Int) else Decimal.ofDigitChars digits)

inductive Numeral : List Char → Decimal → Prop
  | mk {significand whole fraction part : List Char} {exponent : Int} :
      Significand significand whole fraction → ExponentPart part exponent →
        Numeral (significand ++ part)
          ⟨Decimal.ofDigitChars (whole ++ fraction), exponent - fraction.length⟩

/-- The longest numeral, which does not run into a name, stands for the double
nearest to it. -/
def Literal : Rule Float := fun source value rest =>
  ∃ numeral decimal,
    source = numeral ++ rest ∧ Numeral numeral decimal ∧
      (∀ longer decimal', Numeral longer decimal' → longer <+: source →
        longer.length ≤ numeral.length) ∧
      EndsBefore Name.isStart rest ∧ value = decimal.toFloat false

/-- A variable with the properties that are taken from it one after the other. -/
inductive Reference : Rule Expr
  | mk {source middle rest : List Char} {base : String} {fields : List String} :
      VariableName source base middle →
      Many (After (Spaced (Sign '.')) VariableName) middle fields rest →
        Reference source (fields.foldl .deref (.var base)) rest

section Expressions

variable (expression : Rule Expr)

inductive Assigned : Rule Assignment
  | mk {source afterName afterSign rest : List Char} {name : String} {value : Expr} :
      VariableName source name afterName → Spaced (Sign '=') afterName () afterSign →
      expression afterSign value rest → Assigned source (.assign name value) rest

inductive Call : Rule Expr
  | mk {source afterName opened inside closing rest : List Char} {name : String}
      {arguments : List Expr} :
      VariableName source name afterName → Layout afterName ('(' :: opened) →
      Layout opened inside →
      SeparatedOrNone (Spaced (Sign ',')) expression inside arguments closing →
      Layout closing (')' :: rest) → Call source (.call name arguments) rest

/-- What a loop goes over, in parentheses: the name for its elements, the list,
and the element that is left out. -/
inductive LoopHeader : Rule (String × Expr × Option Expr)
  | mk {opened inside afterName afterColon afterBase closing rest : List Char} {element : String}
      {base : Expr} {exclusion : Option Expr} :
      Layout opened inside → VariableName inside element afterName →
      Spaced (Sign ':') afterName () afterColon → Reference afterColon base afterBase →
      Maybe (After (Spaced (Sign '-')) Reference) afterBase exclusion closing →
      Layout closing (')' :: rest) → LoopHeader ('(' :: opened) (element, base, exclusion) rest

/-- The semicolon after the last assignment, which may be left out. -/
inductive LastSemicolon : List Char → List Char → Prop
  | absent {rest : List Char} : LastSemicolon rest rest
  | present {source rest : List Char} : Layout source (';' :: rest) → LastSemicolon source rest

/-- The assignments of a loop, each with its semicolon, and the name of its
result, in braces. -/
inductive LoopBody : Rule (List Assignment × String)
  | mk {opened inside afterBody afterReturn atResult afterResult closing rest : List Char}
      {body : List Assignment} {result : String} :
      Layout opened inside →
      Many (Before (Assigned expression) (Spaced (Sign ';'))) inside body afterBody →
      Keyword "return" afterBody afterReturn → Layout afterReturn atResult →
      VariableName atResult result afterResult → LastSemicolon afterResult closing →
      Layout closing ('\x7d' :: rest) → LoopBody ('\x7b' :: opened) (body, result) rest

inductive ForLoop : Rule Expr
  | mk {source afterWord atHeader afterHeader atBody rest : List Char} {element result : String}
      {base : Expr} {exclusion : Option Expr} {body : List Assignment} :
      Keyword "for" source afterWord → Layout afterWord atHeader →
      LoopHeader atHeader (element, base, exclusion) afterHeader → Layout afterHeader atBody →
      LoopBody expression atBody (body, result) rest →
        ForLoop source (.loop element base exclusion body result) rest

end Expressions

/-! ## Expressions and conditions -/

mutual

/-- A sum, or a condition that selects one of two expressions. -/
inductive Expression : Rule Expr
  | sum {source rest : List Char} {tree : Expr} : Sum source tree rest → Expression source tree rest
  | ternary {source afterTest atAccepted afterAccepted atRejected rest : List Char}
      {test : Condition} {accepted rejected : Expr} :
      Logical source test afterTest → Spaced (Sign '?') afterTest () atAccepted →
      Expression atAccepted accepted afterAccepted →
      Spaced (Sign ':') afterAccepted () atRejected → Expression atRejected rejected rest →
        Expression source (.ternary test accepted rejected) rest

/-- Conditions joined by connectives of one level, which group to the left. -/
inductive Logical : Rule Condition
  | mk {source middle rest : List Char} {first : Condition}
      {row : List (LogicalOp × Condition)} :
      LogicalAtom source first middle →
      Many (Then (Spaced LogicalSign) LogicalAtom) middle row rest →
        Logical source (row.foldl (fun left item => .logical item.1 left item.2) first) rest

inductive LogicalAtom : Rule Condition
  | literal {source rest : List Char} {value : Bool} :
      BooleanWord source value rest → LogicalAtom source (.literal value) rest
  | comparison {source afterLeft atRight rest : List Char} {op : Comparison} {left right : Expr} :
      Sum source left afterLeft → Spaced ComparisonSign afterLeft op atRight →
      Sum atRight right rest → LogicalAtom source (.compare op left right) rest
  | enclosed {opened inside closing rest : List Char} {test : Condition} :
      Layout opened inside → Logical inside test closing → Layout closing (')' :: rest) →
        LogicalAtom ('(' :: opened) test rest

/-- Operands with operators between them, grouped by priority. -/
inductive Sum : Rule Expr
  | mk {source middle rest : List Char} {first tree : Expr} {row : List (BinaryOp × Expr)}
      {edge : List BinaryOp} :
      Operand source first middle → Many (Then (Spaced BinarySign) Operand) middle row rest →
      Grouped first row tree edge → Sum source tree rest

inductive Operand : Rule Expr
  | number {source rest : List Char} {value : Float} :
      Literal source value rest → Operand source (.const value) rest
  | loop {source rest : List Char} {tree : Expr} :
      ForLoop Expression source tree rest → Operand source tree rest
  | call {source rest : List Char} {tree : Expr} :
      Call Expression source tree rest → Operand source tree rest
  | reference {source rest : List Char} {tree : Expr} :
      Reference source tree rest → Operand source tree rest
  | enclosed {opened inside closing rest : List Char} {tree : Expr} :
      Layout opened inside → Expression inside tree closing → Layout closing (')' :: rest) →
        Operand ('(' :: opened) tree rest
  | negation {afterSign atInner rest : List Char} {inner : Expr} :
      Layout afterSign atInner → Operand atInner inner rest →
        Operand ('-' :: afterSign) (.unary .neg inner) rest

end

inductive Declaration : Rule Formula
  | mk {source afterName opened inside closing afterClosing atBody afterBody rest : List Char}
      {name : String} {parameters : List String} {body : Expr} :
      VariableName source name afterName → Layout afterName ('(' :: opened) →
      Layout opened inside →
      SeparatedOrNone (Spaced (Sign ',')) VariableName inside parameters closing →
      Layout closing (')' :: afterClosing) → Spaced (Sign '=') afterClosing () atBody →
      Expression atBody body afterBody → LastSemicolon afterBody rest →
        Declaration source (.function name parameters body) rest

inductive Assignments : Rule Formula
  | mk {source afterItems rest : List Char} {items : List Assignment} :
      Separated (Spaced (Sign ';')) (Assigned Expression) source items afterItems →
      LastSemicolon afterItems rest → Assignments source (.assignments items) rest

inductive FormulaRule : Rule Formula
  | declaration {source rest : List Char} {formula : Formula} :
      Declaration source formula rest → FormulaRule source formula rest
  | assignments {source rest : List Char} {formula : Formula} :
      Assignments source formula rest → FormulaRule source formula rest

/-- The whole of a text derives a value, with layout on both sides. -/
def Derives (rule : Rule α) (text : String) (value : α) : Prop :=
  Spaced rule text.toList value []

/-! ## Induction on derivations -/

/-- Rules under which the rules for expressions and conditions are closed: what these put
together from parts, the rules derive if they derive the parts. -/
structure Closed (expression : Rule Expr) (logical atom : Rule Condition)
    (sum operand : Rule Expr) : Prop where
  sumAlone {source rest : List Char} {tree : Expr} :
    sum source tree rest → expression source tree rest
  ternary {source afterTest atAccepted afterAccepted atRejected rest : List Char}
    {test : Condition} {accepted rejected : Expr} :
    logical source test afterTest → Spaced (Sign '?') afterTest () atAccepted →
    expression atAccepted accepted afterAccepted →
    Spaced (Sign ':') afterAccepted () atRejected → expression atRejected rejected rest →
      expression source (.ternary test accepted rejected) rest
  connections {source middle rest : List Char} {first : Condition}
    {row : List (LogicalOp × Condition)} :
    atom source first middle → Many (Then (Spaced LogicalSign) atom) middle row rest →
      logical source (row.foldl (fun left item => .logical item.1 left item.2) first) rest
  literal {source rest : List Char} {value : Bool} :
    BooleanWord source value rest → atom source (.literal value) rest
  comparison {source afterLeft atRight rest : List Char} {op : Comparison} {left right : Expr} :
    sum source left afterLeft → Spaced ComparisonSign afterLeft op atRight →
    sum atRight right rest → atom source (.compare op left right) rest
  enclosedTest {opened inside closing rest : List Char} {test : Condition} :
    Layout opened inside → logical inside test closing → Layout closing (')' :: rest) →
      atom ('(' :: opened) test rest
  operations {source middle rest : List Char} {first tree : Expr} {row : List (BinaryOp × Expr)}
    {edge : List BinaryOp} :
    operand source first middle → Many (Then (Spaced BinarySign) operand) middle row rest →
    Grouped first row tree edge → sum source tree rest
  number {source rest : List Char} {value : Float} :
    Literal source value rest → operand source (.const value) rest
  loop {source rest : List Char} {tree : Expr} :
    ForLoop expression source tree rest → operand source tree rest
  call {source rest : List Char} {tree : Expr} :
    Call expression source tree rest → operand source tree rest
  reference {source rest : List Char} {tree : Expr} :
    Reference source tree rest → operand source tree rest
  enclosed {opened inside closing rest : List Char} {tree : Expr} :
    Layout opened inside → expression inside tree closing → Layout closing (')' :: rest) →
      operand ('(' :: opened) tree rest
  negation {afterSign atInner rest : List Char} {inner : Expr} :
    Layout afterSign atInner → operand atInner inner rest →
      operand ('-' :: afterSign) (.unary .neg inner) rest

namespace Closed

variable {expression sum operand : Rule Expr} {logical atom : Rule Condition}

-- Expressions are derived below rows, arguments and bodies of loops. The induction
-- goes through these too, as they are no rules of their own.
mutual

/-- The rules for expressions and conditions are the least ones under which they are
closed: what they derive, any such rules derive. -/
theorem ofExpression (closed : Closed expression logical atom sum operand)
    {source rest : List Char} {tree : Expr} (derived : Expression source tree rest) :
    expression source tree rest := by
  match derived with
  | .sum derived =>
      exact closed.sumAlone (closed.ofSum derived)
  | .ternary test question accepted colon rejected =>
      exact closed.ternary (closed.ofLogical test) question (closed.ofExpression accepted) colon
        (closed.ofExpression rejected)
termination_by structural derived

theorem ofLogical (closed : Closed expression logical atom sum operand)
    {source rest : List Char} {test : Condition} (derived : Logical source test rest) :
    logical source test rest := by
  match derived with
  | .mk first row =>
      exact closed.connections (closed.ofAtom first) (closed.ofConnections row)
termination_by structural derived

theorem ofConnections (closed : Closed expression logical atom sum operand)
    {source rest : List Char} {row : List (LogicalOp × Condition)}
    (derived : Many (Then (Spaced LogicalSign) LogicalAtom) source row rest) :
    Many (Then (Spaced LogicalSign) atom) source row rest := by
  match derived with
  | .none =>
      exact .none
  | .more (.mk sign first) others =>
      exact .more (.mk sign (closed.ofAtom first)) (closed.ofConnections others)
termination_by structural derived

theorem ofAtom (closed : Closed expression logical atom sum operand)
    {source rest : List Char} {test : Condition} (derived : LogicalAtom source test rest) :
    atom source test rest := by
  match derived with
  | .literal word =>
      exact closed.literal word
  | .comparison left sign right =>
      exact closed.comparison (closed.ofSum left) sign (closed.ofSum right)
  | .enclosed opening inner closing =>
      exact closed.enclosedTest opening (closed.ofLogical inner) closing
termination_by structural derived

theorem ofSum (closed : Closed expression logical atom sum operand)
    {source rest : List Char} {tree : Expr} (derived : Sum source tree rest) :
    sum source tree rest := by
  match derived with
  | .mk first row grouped =>
      exact closed.operations (closed.ofOperand first) (closed.ofOperations row) grouped
termination_by structural derived

theorem ofOperations (closed : Closed expression logical atom sum operand)
    {source rest : List Char} {row : List (BinaryOp × Expr)}
    (derived : Many (Then (Spaced BinarySign) Operand) source row rest) :
    Many (Then (Spaced BinarySign) operand) source row rest := by
  match derived with
  | .none =>
      exact .none
  | .more (.mk sign first) others =>
      exact .more (.mk sign (closed.ofOperand first)) (closed.ofOperations others)
termination_by structural derived

theorem ofOperand (closed : Closed expression logical atom sum operand)
    {source rest : List Char} {tree : Expr} (derived : Operand source tree rest) :
    operand source tree rest := by
  match derived with
  | .number literal =>
      exact closed.number literal
  | .loop derived =>
      exact closed.loop (closed.ofLoop derived)
  | .call derived =>
      exact closed.call (closed.ofCall derived)
  | .reference derived =>
      exact closed.reference derived
  | .enclosed opening inner closing =>
      exact closed.enclosed opening (closed.ofExpression inner) closing
  | .negation layout inner =>
      exact closed.negation layout (closed.ofOperand inner)
termination_by structural derived

theorem ofLoop (closed : Closed expression logical atom sum operand)
    {source rest : List Char} {tree : Expr} (derived : ForLoop Expression source tree rest) :
    ForLoop expression source tree rest := by
  match derived with
  | .mk word beforeHeader header beforeBody body =>
      exact .mk word beforeHeader header beforeBody (closed.ofLoopBody body)
termination_by structural derived

theorem ofLoopBody (closed : Closed expression logical atom sum operand)
    {source rest : List Char} {body : List Assignment × String}
    (derived : LoopBody Expression source body rest) : LoopBody expression source body rest := by
  match derived with
  | .mk opening statements word beforeResult result last closing =>
      exact .mk opening (closed.ofStatements statements) word beforeResult result last closing
termination_by structural derived

theorem ofStatements (closed : Closed expression logical atom sum operand)
    {source rest : List Char} {items : List Assignment}
    (derived : Many (Before (Assigned Expression) (Spaced (Sign ';'))) source items rest) :
    Many (Before (Assigned expression) (Spaced (Sign ';'))) source items rest := by
  match derived with
  | .none =>
      exact .none
  | .more (.mk (.mk named sign value) semicolon) others =>
      exact .more (.mk (.mk named sign (closed.ofExpression value)) semicolon)
        (closed.ofStatements others)
termination_by structural derived

theorem ofCall (closed : Closed expression logical atom sum operand)
    {source rest : List Char} {tree : Expr} (derived : Call Expression source tree rest) :
    Call expression source tree rest := by
  match derived with
  | .mk named opens beforeArguments arguments closing =>
      exact .mk named opens beforeArguments (closed.ofArguments arguments) closing
termination_by structural derived

theorem ofArguments (closed : Closed expression logical atom sum operand)
    {source rest : List Char} {trees : List Expr}
    (derived : SeparatedOrNone (Spaced (Sign ',')) Expression source trees rest) :
    SeparatedOrNone (Spaced (Sign ',')) expression source trees rest := by
  match derived with
  | .none =>
      exact .none
  | .some (.mk first others) =>
      exact .some (.mk (closed.ofExpression first) (closed.ofOtherArguments others))
termination_by structural derived

theorem ofOtherArguments (closed : Closed expression logical atom sum operand)
    {source rest : List Char} {trees : List Expr}
    (derived : Many (After (Spaced (Sign ',')) Expression) source trees rest) :
    Many (After (Spaced (Sign ',')) expression) source trees rest := by
  match derived with
  | .none =>
      exact .none
  | .more (.mk comma first) others =>
      exact .more (.mk comma (closed.ofExpression first)) (closed.ofOtherArguments others)
termination_by structural derived

end

end Closed

end Grammar

end RewardFormula
