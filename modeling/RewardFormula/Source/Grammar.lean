import RewardFormula.Formula.Grouping
import RewardFormula.Source.Token

/-!
# Grammar

The rules by which formulas are read. Parentheses may enclose an arithmetic
expression or a condition, so both are read as terms and told apart by what
their place demands. Each level of the grammar is a rule over the rules for
operands and terms below it; the levels are tied together by the depth of
nesting, which the length of the source bounds.
-/

namespace RewardFormula

/-- What was read before it is known which kind its place demands. -/
inductive Term where
  | arithmetic (expr : Expr)
  | condition (condition : Condition)

namespace Term

def demandExpr (term : Spanned Term) : Except Fault Expr :=
  match term.value with
  | .arithmetic expr => .ok expr
  | .condition _ => .error (term.fault .expectedArithmetic)

def demandCondition (term : Spanned Term) : Except Fault Condition :=
  match term.value with
  | .condition test => .ok test
  | .arithmetic _ => .error (term.fault .expectedCondition)

end Term

namespace Reader

/-- A property mark and the name of the property. -/
def field : Reader String := do
  spaced (character '.')
  committed name

/-- A variable and the chain of properties taken from it. -/
def reference : Reader Expr := do
  let base ← name
  let fields ← many field
  return fields.foldl .deref (.var base)

section Terms

variable (term : Reader Term)

/-- A term that has to be arithmetic. -/
def expression : Reader Expr := do
  let term ← within .expression (spanned term)
  demand (Term.demandExpr term)

/-- A term that has to be a condition. -/
def condition : Reader Condition := do
  let term ← spanned term
  demand (Term.demandCondition term)

def assignment : Reader Assignment :=
  within .assignment do
    let name ← name
    spaced assignSign
    let value ← committed (expression term)
    return .assign name value

/-- After the opening parenthesis nothing but a call is possible. -/
def call : Reader Expr :=
  within .function do
    let name ← name
    layout
    character '('
    layout
    let arguments ← committed do
      let arguments ← separatedOrNone comma (expression term)
      layout
      character ')'
      return arguments
    return .call name arguments

/-- What a loop goes over: the name for its elements, the list, and the element
that is left out. -/
def loopHeader : Reader (String × Expr × Option Expr) := do
  character '('
  layout
  let element ← name
  spaced (character ':')
  let base ← reference
  let exclusion ← optional do
    spaced (character '-')
    reference
  layout
  character ')'
  return (element, base, exclusion)

/-- The assignments of a loop and the name of its result. -/
def loopBody : Reader (List Assignment × String) := do
  character '\x7b'
  layout
  let body ← many do
    let assignment ← assignment term
    semicolon
    return assignment
  keyword "return"
  layout
  let result ← name
  let _ ← optional semicolon
  layout
  character '\x7d'
  return (body, result)

/-- After the keyword nothing but a loop is possible. -/
def loop : Reader Expr :=
  within .loop do
    keyword "for"
    layout
    committed do
      let (element, base, exclusion) ← loopHeader
      layout
      let (body, result) ← loopBody term
      return .loop element base exclusion body result

/-- After the opening parenthesis a term has to follow. -/
def enclosed : Reader Term := do
  character '('
  layout
  committed do
    let term ← term
    layout
    character ')'
    return term

end Terms

/-- The sign binds to the next operand only. -/
def negation (operand : Reader Term) : Reader Term := do
  character '-'
  layout
  let inner ← committed (spanned operand)
  let inner ← demand (Term.demandExpr inner)
  return .arithmetic (.unary .neg inner)

/-- The simplest terms. -/
def operandOver (operand term : Reader Term) : Reader Term :=
  (Term.arithmetic ∘ Expr.const) <$> number <|>
    (Term.condition ∘ Condition.literal) <$> boolean <|>
    Term.arithmetic <$> loop term <|>
    Term.arithmetic <$> call term <|>
    Term.arithmetic <$> reference <|>
    enclosed term <|>
    negation operand

/-- An operator and the term after it, which has to follow. -/
def followedBy (operator : Reader α) (term : Reader Term) : Reader (α × Spanned Term) := do
  let op ← spaced operator
  let term ← committed (spanned term)
  return (op, term)

def demandExprs : List (BinaryOp × Spanned Term) → Except Fault (List (BinaryOp × Expr))
  | [] => .ok []
  | (op, term) :: rest =>
    match Term.demandExpr term, demandExprs rest with
    | .ok expr, .ok rest => .ok ((op, expr) :: rest)
    | .error fault, _ => .error fault
    | _, .error fault => .error fault

/-- The condition that a row of connected conditions makes, grouped to the
left. -/
def demandConditions (left : Condition) :
    List (LogicalOp × Spanned Term) → Except Fault Condition
  | [] => .ok left
  | (op, term) :: rest =>
    match Term.demandCondition term with
    | .ok right => demandConditions (.logical op left right) rest
    | .error fault => .error fault

/-- A tree of operations for the operands of a row. -/
def grouped (first : Expr) (rest : List (BinaryOp × Expr)) : Reader Expr :=
  match Expr.group? first [] rest with
  | some expr => pure expr
  | none => refuse (.defect .edgeLost)

section Operands

variable (operand : Reader Term)

/-- Operands with arithmetic operators between them. A single operand may still
be a condition. -/
def sum : Reader Term := do
  let first ← spanned operand
  let rest ← many (followedBy binaryOp operand)
  if rest.isEmpty then return first.value
  else
    let first ← demand (Term.demandExpr first)
    let rest ← demand (demandExprs rest)
    Term.arithmetic <$> grouped first rest

/-- Breaks off at the sign of a second comparison. -/
def notCompared : Reader Unit := fun source =>
  match (do layout; spanned comparison : Reader (Spanned Comparison)) source with
  | .read sign _ => .broken (sign.fault .chainedComparison)
  | _ => .read () source

/-- Two sums that are compared, or a sum alone. -/
def comparisonTerm : Reader Term := do
  let left ← spanned (sum operand)
  match ← optional (followedBy comparison (sum operand)) with
  | none => return left.value
  | some (op, right) =>
    let left ← demand (Term.demandExpr left)
    let right ← demand (Term.demandExpr right)
    notCompared
    return .condition (.compare op left right)

/-- Conditions joined by connectives, or a comparison alone. -/
def disjunction : Reader Term := do
  let first ← spanned (comparisonTerm operand)
  let rest ← many (followedBy logicalOp (comparisonTerm operand))
  if rest.isEmpty then return first.value
  else
    let first ← demand (Term.demandCondition first)
    Term.condition <$> demand (demandConditions first rest)

end Operands

/-- The two values of a ternary expression. -/
def branches (term : Reader Term) : Reader (Expr × Expr) := do
  spaced (character '?')
  committed do
    let accepted ← expression term
    spaced (character ':')
    let rejected ← expression term
    return (accepted, rejected)

/-- A term with its ternary branches, if it has any. -/
def termOver (operand term : Reader Term) : Reader Term := do
  let first ← spanned (disjunction operand)
  match ← optional (branches term) with
  | none => return first.value
  | some (accepted, rejected) =>
    let condition ← demand (Term.demandCondition first)
    return .arithmetic (.ternary condition accepted rejected)

mutual

/-- Operands in which rules are nested to a depth. -/
def operand : Nat → Reader Term
  | 0, source => refuse (.defect .tooDeep) source
  | depth + 1, source => operandOver (operand depth) (term depth) source

/-- Terms in which rules are nested to a depth. -/
def term : Nat → Reader Term
  | 0, source => refuse (.defect .tooDeep) source
  | depth + 1, source => termOver (operand depth) (term depth) source

end

section Formulas

variable (term : Reader Term)

def functionDeclaration : Reader Formula :=
  within .function do
    let functionName ← name
    layout
    character '('
    layout
    let parameters ← separatedOrNone comma name
    layout
    character ')'
    spaced assignSign
    let body ← committed (expression term)
    return .function functionName parameters body

/-- A declaration, or assignments with semicolons between them. A last
semicolon may follow. -/
def formula : Reader Formula :=
  (do
    let declaration ← functionDeclaration term
    let _ ← optional semicolon
    return declaration) <|>
  (do
    let items ← separated semicolon (assignment term)
    let _ ← optional semicolon
    return .assignments items)

end Formulas

end Reader

end RewardFormula
