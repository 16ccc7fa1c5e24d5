import RewardFormula.Evaluation.Error
import RewardFormula.Formula
import RewardFormula.Function
import RewardFormula.Game.Registry

/-!
# Evaluation

A formula is evaluated on the variables of a caller and the state of a game. An
error does not stop it: the expression that failed counts as zero, the rest is
evaluated all the same, and the first error is reported in the end. Operands and
arguments are evaluated from left to right, both sides of a connective always,
and of the branches of a ternary expression only the one that is selected.
-/

namespace RewardFormula

/-- How far an evaluation has come. -/
structure Progress (G : Game) where
  table : Variables G
  /-- The names that assignments added to the variables, the newest first. -/
  created : List String
  /-- The first error. -/
  error? : Option EvalError

namespace Progress

def start (table : Variables G) : Progress G := ⟨table, [], none⟩

/-- Reports an error, unless one was reported before. -/
def report (progress : Progress G) (error : EvalError) : Progress G :=
  match progress.error? with
  | none => { progress with error? := some error }
  | some _ => progress

/-- Binds a name while a loop runs. -/
def bind (progress : Progress G) (name : String) (value : Value G) : Progress G :=
  { progress with table := progress.table.insert name value }

/-- Ends the binding of a name and gives it the value back that it had before. -/
def restore (progress : Progress G) (name : String) (previous : Option (Value G)) : Progress G :=
  { progress with
    table :=
      match previous with
      | some value => (progress.table.erase name).insert name value
      | none => progress.table.erase name }

def assign (progress : Progress G) (name : String) (value : Float) : Progress G :=
  { progress with
    table := progress.table.insert name (.number value)
    created :=
      if progress.table.contains name then progress.created else name :: progress.created }

/-- The value of a variable. -/
def lookup (progress : Progress G) (name : String) : Option (Value G) × Progress G :=
  match progress.table.get? name with
  | some value => (some value, progress)
  | none => (none, progress.report (.undefinedVariable name))

/-- The number that a value is. What failed before counts as zero. -/
def number : Option (Value G) × Progress G → Float × Progress G
  | (some (.number value), progress) => (value, progress)
  | (some value, progress) => (0, progress.report (.notANumber value.type))
  | (none, progress) => (0, progress)

/-- The elements of the list that a value is, and the type of the list. -/
def list : Option (Value G) × Progress G → Option (ValueType × List (Value G)) × Progress G
  | (some value, progress) =>
    match value.elements? with
    | some elements => (some (value.type, elements), progress)
    | none => (none, progress.report (.notAList value.type))
  | (none, progress) => (none, progress)

/-- The value that is left out of a list. It has to have the type of the
elements. -/
def exclusion (listType : ValueType) :
    Option (Value G) × Progress G → Option (Value G) × Progress G
  | (some value, progress) =>
    if listType.element? = some value.type then (some value, progress)
    else (none, progress.report (.exclusionMismatch listType value.type))
  | (none, progress) => (none, progress)

/-- Runs the body of a loop for every element that is not excluded. -/
def iterate (element : String) (isExcluded : Value G → Bool) (body : Progress G → Progress G)
    (elements : List (Value G)) (progress : Progress G) : Progress G :=
  elements.foldl
    (fun progress item => if isExcluded item then progress else body (progress.bind element item))
    progress

/-- Runs a loop. Its variable hides one of the same name while the loop runs,
and the value of the loop is that of the variable `result` afterwards. -/
def runLoop (element : String) (isExcluded : Value G → Bool) (body : Progress G → Progress G)
    (result : String) (elements : List (Value G)) (progress : Progress G) : Float × Progress G :=
  let hidden := progress.table.get? element
  let bare := { progress with table := progress.table.erase element }
  let final := iterate element isExcluded body elements bare
  number ((final.restore element hidden).lookup result)

end Progress

section Rules

variable {G : Game} (registry : Registry G) (state : G.State)

/-- A property of a value that was found. -/
def property (field : String) : Option (Value G) × Progress G → Option (Value G) × Progress G
  | (some base, progress) =>
    match registry.dereference? state base field with
    | some value => (some value, progress)
    | none => (none, progress.report (.cannotDereference base.type field))
  | (none, progress) => (none, progress)

/-- The value of a call. -/
def callFunction (name : String) (arity : Nat) : List Float × Progress G → Float × Progress G
  | (arguments, progress) =>
    match Function.call? name arguments with
    | some value => (value, progress)
    | none => (0, progress.report (.unknownFunction name arity))

/-- Passes on that an expression other than a reference is a number. -/
def asValue : Float × Progress G → Option (Value G) × Progress G
  | (value, progress) => (some (.number value), progress)

mutual

/-- The value of an expression, if it is found. -/
def evalValue : Expr → Progress G → Option (Value G) × Progress G
  | .const value, progress => (some (.number value), progress)
  | .var name, progress => progress.lookup name
  | .deref base field, progress => property registry state field (evalValue base progress)
  | .unary op inner, progress =>
    let operand := Progress.number (evalValue inner progress)
    asValue (op.apply operand.1, operand.2)
  | .binary op left right, progress =>
    let first := Progress.number (evalValue left progress)
    let second := Progress.number (evalValue right first.2)
    asValue (op.apply first.1 second.1, second.2)
  | .call name arguments, progress =>
    asValue (callFunction name arguments.length (evalNumbers arguments progress))
  | .ternary condition accepted rejected, progress =>
    let test := evalCondition condition progress
    if test.1 then asValue (Progress.number (evalValue accepted test.2))
    else asValue (Progress.number (evalValue rejected test.2))
  | .loop element base none body result, progress =>
    let list := Progress.list (evalValue base progress)
    match list.1 with
    | none => asValue (0, list.2)
    | some (_, elements) =>
      asValue (list.2.runLoop element (fun _ => false) (fun progress => runBody body progress)
        result elements)
  | .loop element base (some exclusion) body result, progress =>
    let list := Progress.list (evalValue base progress)
    match list.1 with
    | none => asValue (0, list.2)
    | some (listType, elements) =>
      let excluded := Progress.exclusion listType (evalValue exclusion list.2)
      match excluded.1 with
      | none => asValue (0, excluded.2)
      | some value =>
        asValue (excluded.2.runLoop element (value == ·) (fun progress => runBody body progress)
          result elements)
termination_by structural expr => expr

/-- The values of arguments in order. -/
def evalNumbers : List Expr → Progress G → List Float × Progress G
  | [], progress => ([], progress)
  | first :: rest, progress =>
    let head := Progress.number (evalValue first progress)
    let tail := evalNumbers rest head.2
    (head.1 :: tail.1, tail.2)
termination_by structural exprs => exprs

def evalCondition : Condition → Progress G → Bool × Progress G
  | .literal value, progress => (value, progress)
  | .compare op left right, progress =>
    let first := Progress.number (evalValue left progress)
    let second := Progress.number (evalValue right first.2)
    (op.holds first.1 second.1, second.2)
  | .logical op left right, progress =>
    let first := evalCondition left progress
    let second := evalCondition right first.2
    (op.apply first.1 second.1, second.2)
termination_by structural condition => condition

/-- Assigns the value of an expression, and gives it. -/
def evalAssignment : Assignment → Progress G → Float × Progress G
  | .assign name value, progress =>
    let result := Progress.number (evalValue value progress)
    (result.1, result.2.assign name result.1)
termination_by structural assignment => assignment

/-- Runs the assignments of a loop once. -/
def runBody : List Assignment → Progress G → Progress G
  | [], progress => progress
  | first :: rest, progress => runBody rest (evalAssignment first progress).2
termination_by structural assignments => assignments

end

/-- The value of the last assignment and its name. -/
structure Evaluation where
  value : Float
  name : String

/-- The value as an integer; see `roundToInt`. -/
def Evaluation.toInt (evaluation : Evaluation) (default : Int32) : Int32 :=
  roundToInt evaluation.value default

/-- What an evaluation gives, and the variables that it leaves. -/
structure Outcome (G : Game) (α : Type) where
  result : Except EvalError α
  table : Variables G

def Outcome.map (f : α → β) (outcome : Outcome G α) : Outcome G β :=
  ⟨outcome.result.map f, outcome.table⟩

/-- Whether the variables that a formula creates stay or are removed. -/
inductive Retention where
  | removeCreated
  | retainCreated
  deriving DecidableEq, Repr

/-- The variables that remain when an evaluation is finished. -/
def Progress.remaining (progress : Progress G) : Retention → Variables G
  | .removeCreated => progress.table.eraseAll progress.created
  | .retainCreated => progress.table

/-- Evaluates assignments in order. The value is that of the last one. -/
def evalAssignments (assignments : List Assignment) (progress : Progress G) : Float × Progress G :=
  assignments.foldl (fun last assignment => evalAssignment registry state assignment last.2)
    (0, progress)

/-- Evaluates a formula. A declaration and an empty list have no value and leave
the variables alone. -/
def evaluateWith (retention : Retention) (formula : Formula) (table : Variables G) :
    Outcome G Evaluation :=
  match formula with
  | .function name _ _ => ⟨.error (.functionFormula name), table⟩
  | .assignments items =>
    match items.getLast? with
    | none => ⟨.error .emptyFormula, table⟩
    | some last =>
      let (value, progress) := evalAssignments registry state items (.start table)
      let result :=
        match progress.error? with
        | some error => .error error
        | none => .ok ⟨value, last.name⟩
      ⟨result, progress.remaining retention⟩

/-- The value of a formula. Variables that were there keep what is assigned to
them; those that the formula creates are removed. -/
def evaluate (formula : Formula) (table : Variables G) : Outcome G Float :=
  (evaluateWith registry state .removeCreated formula table).map Evaluation.value

/-- The value of a formula and the name that was assigned last. All variables
stay. -/
def evaluateRetaining (formula : Formula) (table : Variables G) : Outcome G Evaluation :=
  evaluateWith registry state .retainCreated formula table

/-- The value of a formula as an integer. -/
def evaluateInt (formula : Formula) (table : Variables G) (default : Int32) :
    Outcome G Int32 :=
  (evaluate registry state formula table).map (roundToInt · default)

end Rules

end RewardFormula
