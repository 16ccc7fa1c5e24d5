import RewardFormula.Game.Value

/-!
# Errors of evaluation

Why a formula has no value, and what may help.
-/

namespace RewardFormula

inductive EvalError where
  /-- A function was declared where assignments are evaluated. -/
  | functionFormula (name : String)
  | emptyFormula
  | undefinedVariable (name : String)
  /-- No property of this name is registered for values of this type. -/
  | cannotDereference (type : ValueType) (field : String)
  /-- A value that is not a number was used as one. -/
  | notANumber (actual : ValueType)
  | notAList (actual : ValueType)
  /-- The value left out of a list has not the type of its elements. -/
  | exclusionMismatch (list exclusion : ValueType)
  | unknownFunction (name : String) (arity : Nat)
  deriving DecidableEq, Repr

namespace EvalError

def message : EvalError → String
  | functionFormula name => "cannot evaluate declaration of function `" ++ name ++ "`"
  | emptyFormula => "formula contains no assignments"
  | undefinedVariable name => "unknown variable `" ++ name ++ "`"
  | cannotDereference type field =>
    "cannot dereference " ++ type.name ++ " with '" ++ field ++ "'"
  | notANumber actual => "expected " ++ ValueType.number.name ++ ", got " ++ actual.name
  | notAList actual => "cannot iterate over " ++ actual.name
  | exclusionMismatch list exclusion =>
    "cannot exclude " ++ exclusion.name ++ " from " ++ list.name
  | unknownFunction name arity =>
    "unknown function `" ++ name ++ "` with " ++ toString arity ++
      (if arity = 1 then " argument" else " arguments")

/-- Whether values of a type may have properties. -/
def hasProperties : ValueType → Bool
  | .arena => true
  | .freq => true
  | .player => true
  | _ => false

def help? : EvalError → Option String
  | functionFormula _ => some "Function declarations are parsed, but cannot be evaluated"
  | emptyFormula => none
  | undefinedVariable _ =>
    some ("Variables are defined by assignments, e.g. `x = 1`, " ++
      "or supplied by the caller as context")
  | cannotDereference type _ =>
    if hasProperties type then
      some ("Only registered " ++ type.name ++ " properties can be dereferenced")
    else some ("Values of type " ++ type.name ++ " have no properties")
  | notANumber _ =>
    some ("Arithmetic is performed on numbers only; use a numeric property, " ++
      "e.g. `killer.bounty` instead of `killer`")
  | notAList _ =>
    some "Loops iterate over freq or player lists, e.g. `arena.players` or `arena.freqs`"
  | exclusionMismatch list _ =>
    list.element?.map fun element =>
      "Only a " ++ element.name ++ " can be excluded from a " ++ list.name
  | unknownFunction _ _ => some "Supported functions are listed by `:help` in the REPL"

end EvalError

end RewardFormula
