import RewardFormula.Evaluation

/-!
# Evaluation up to the first error

A strict evaluation goes through a formula in the same order and ends at the
first error. The evaluation that goes on after errors reports the error at which
the strict one ends. Without an error both have the same value and variables.
-/

namespace RewardFormula

/-- A computation on variables that the first error ends. -/
abbrev Strict (G : Game) (α : Type) : Type :=
  StateT (Variables G) (Except EvalError) α

namespace Strict

variable {G : Game}

/-- A value that has to be there. -/
def required (value? : Option α) (error : EvalError) : Strict G α :=
  match value? with
  | some value => return value
  | none => throw error

def lookup (name : String) : Strict G (Value G) := do
  required ((← get).get? name) (.undefinedVariable name)

def number (found : Strict G (Value G)) : Strict G Float := do
  match ← found with
  | .number value => return value
  | value => throw (.notANumber value.type)

def list (found : Strict G (Value G)) : Strict G (ValueType × List (Value G)) := do
  let value ← found
  match value.elements? with
  | some elements => return (value.type, elements)
  | none => throw (.notAList value.type)

def exclusion (listType : ValueType) (found : Strict G (Value G)) : Strict G (Value G) := do
  let value ← found
  if listType.element? = some value.type then return value
  else throw (.exclusionMismatch listType value.type)

def insert (name : String) (value : Value G) : Strict G Unit :=
  modify (·.insert name value)

def erase (name : String) : Strict G Unit :=
  modify (·.erase name)

def restore (name : String) (previous : Option (Value G)) : Strict G Unit :=
  modify fun table =>
    match previous with
    | some value => (table.erase name).insert name value
    | none => table.erase name

def iterate (element : String) (isExcluded : Value G → Bool) (body : Strict G Unit) :
    List (Value G) → Strict G Unit
  | [] => return ()
  | item :: rest => do
    unless isExcluded item do
      insert element item
      body
    iterate element isExcluded body rest

/-- The variable of a loop hides one of the same name until the loop has run. -/
def runLoop (element : String) (isExcluded : Value G → Bool) (body : Strict G Unit)
    (result : String) (elements : List (Value G)) : Strict G Float := do
  let hidden := (← get).get? element
  erase element
  iterate element isExcluded body elements
  restore element hidden
  number (lookup result)

section Rules

variable (registry : Registry G) (state : G.State)

def property (field : String) (found : Strict G (Value G)) : Strict G (Value G) := do
  let base ← found
  required (registry.dereference? state base field) (.cannotDereference base.type field)

def asValue (found : Strict G Float) : Strict G (Value G) := do
  return .number (← found)

def callFunction (name : String) (arity : Nat) (found : Strict G (List Float)) :
    Strict G Float := do
  required (Function.call? name (← found)) (.unknownFunction name arity)

mutual

def evalValue : Expr → Strict G (Value G)
  | .const value => return .number value
  | .var name => lookup name
  | .deref base field => property registry state field (evalValue base)
  | .unary op inner => asValue do
    let operand ← number (evalValue inner)
    return op.apply operand
  | .binary op left right => asValue do
    let first ← number (evalValue left)
    let second ← number (evalValue right)
    return op.apply first second
  | .call name arguments =>
    asValue (callFunction name arguments.length (evalNumbers arguments))
  | .ternary condition accepted rejected => do
    let test ← evalCondition condition
    if test then asValue (number (evalValue accepted))
    else asValue (number (evalValue rejected))
  | .loop element base none body result => do
    let (_, elements) ← list (evalValue base)
    asValue (runLoop element (fun _ => false) (runBody body) result elements)
  | .loop element base (some exclusion) body result => do
    let (listType, elements) ← list (evalValue base)
    let excluded ← Strict.exclusion listType (evalValue exclusion)
    asValue (runLoop element (excluded == ·) (runBody body) result elements)
termination_by structural expr => expr

def evalNumbers : List Expr → Strict G (List Float)
  | [] => return []
  | first :: rest => do
    let head ← number (evalValue first)
    let tail ← evalNumbers rest
    return head :: tail
termination_by structural exprs => exprs

def evalCondition : Condition → Strict G Bool
  | .literal value => return value
  | .compare op left right => do
    let first ← number (evalValue left)
    let second ← number (evalValue right)
    return op.holds first second
  | .logical op left right => do
    let first ← evalCondition left
    let second ← evalCondition right
    return op.apply first second
termination_by structural condition => condition

def evalAssignment : Assignment → Strict G Float
  | .assign name value => do
    let result ← number (evalValue value)
    insert name (.number result)
    return result
termination_by structural assignment => assignment

def runBody : List Assignment → Strict G Unit
  | [] => return ()
  | first :: rest => do
    let _ ← evalAssignment first
    runBody rest
termination_by structural assignments => assignments

end

/-- The value of the last assignment, or the one given if there is none. -/
def evalAssignments (last : Float) : List Assignment → Strict G Float
  | [] => return last
  | first :: rest => do
    let value ← evalAssignment registry state first
    evalAssignments value rest

def evaluate : Formula → Strict G Evaluation
  | .function name _ _ => throw (.functionFormula name)
  | .assignments items => do
    match items.getLast? with
    | none => throw .emptyFormula
    | some last =>
      let value ← evalAssignments registry state 0 items
      return ⟨value, last.name⟩

end Rules

end Strict

end RewardFormula
