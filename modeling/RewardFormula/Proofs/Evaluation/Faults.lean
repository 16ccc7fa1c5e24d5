import RewardFormula.Proofs.Evaluation.FirstError

/-!
# What errors are about

Some errors are about a formula as a whole. An evaluation that has begun to
evaluate assignments has no such error: it fails in one of their parts, if at all.
-/

namespace RewardFormula

/-- The error is that there is nothing to evaluate. -/
def EvalError.isOfWhole : EvalError → Bool
  | functionFormula _ => true
  | emptyFormula => true
  | _ => false

namespace Strict

variable {G : Game}

/-- No error of the computation is about a formula as a whole. -/
def FailsInParts (computation : Strict G α) : Prop :=
  ∀ table error, computation table = .error error → error.isOfWhole = false

namespace FailsInParts

theorem pure (value : α) : FailsInParts (Pure.pure value : Strict G α) := by
  intro table error failed
  cases failed

theorem throw {error : EvalError} (ofPart : error.isOfWhole = false) :
    FailsInParts (throw error : Strict G α) := by
  intro table error' failed
  cases failed
  exact ofPart

theorem get : FailsInParts (get : Strict G (Variables G)) := by
  intro table error failed
  cases failed

theorem modify (change : Variables G → Variables G) :
    FailsInParts (modify change : Strict G Unit) := by
  intro table error failed
  cases failed

theorem bind {first : Strict G α} {next : α → Strict G β} (ofFirst : FailsInParts first)
    (ofNext : ∀ value, FailsInParts (next value)) : FailsInParts (first >>= next) := by
  intro table error failed
  rw [Follows.bind_eq] at failed
  cases ended : first table with
  | error error' =>
      rw [ended] at failed
      cases failed
      exact ofFirst table error ended
  | ok result =>
      rw [ended] at failed
      exact ofNext result.1 result.2 error failed

theorem ite {accepted rejected : Strict G α} (test : Bool) (ofAccepted : FailsInParts accepted)
    (ofRejected : FailsInParts rejected) :
    FailsInParts (if test then accepted else rejected) := by
  cases test with
  | true =>
      exact ofAccepted
  | false =>
      exact ofRejected

theorem required {error : EvalError} (ofPart : error.isOfWhole = false) (value? : Option α) :
    FailsInParts (required value? error : Strict G α) := by
  cases value? with
  | some value =>
      exact pure value
  | none =>
      exact throw ofPart

section Demands

variable {found : Strict G (Value G)} (ofFound : FailsInParts found)

theorem lookup (name : String) : FailsInParts (lookup name : Strict G (Value G)) :=
  get.bind fun table => required rfl (table.get? name)

include ofFound

theorem number : FailsInParts (number found) := by
  refine ofFound.bind fun value => ?_
  cases value with
  | number value =>
      exact pure value
  | _ =>
      exact throw rfl

theorem list : FailsInParts (list found) := by
  refine ofFound.bind fun value => ?_
  cases value.elements? with
  | some elements =>
      exact pure (value.type, elements)
  | none =>
      exact throw rfl

theorem exclusion (listType : ValueType) : FailsInParts (exclusion listType found) := by
  refine ofFound.bind fun value => ?_
  split
  · exact pure value
  · exact throw rfl

theorem property (registry : Registry G) (state : G.State) (field : String) :
    FailsInParts (property registry state field found) :=
  ofFound.bind fun base => required rfl (registry.dereference? state base field)

omit ofFound

theorem asValue {found : Strict G Float} (ofFound : FailsInParts found) :
    FailsInParts (asValue found) :=
  ofFound.bind fun value => pure (Value.number value)

theorem callFunction {found : Strict G (List Float)} (ofFound : FailsInParts found)
    (name : String) (arity : Nat) : FailsInParts (callFunction name arity found) :=
  ofFound.bind fun arguments => required rfl (Function.call? name arguments)

end Demands

section Loops

variable {body : Strict G Unit} (ofBody : FailsInParts body) (element : String)
    (isExcluded : Value G → Bool) (elements : List (Value G))

include ofBody

theorem iterate : FailsInParts (iterate element isExcluded body elements) := by
  induction elements with
  | nil =>
      exact pure ()
  | cons item rest inductionHypothesis =>
      simp only [Strict.iterate]
      split
      · exact inductionHypothesis
      · exact ((modify _).bind fun _ => ofBody).bind fun _ => inductionHypothesis

theorem runLoop (result : String) :
    FailsInParts (runLoop element isExcluded body result elements) :=
  get.bind fun _ => (modify _).bind fun _ =>
    (ofBody.iterate element isExcluded elements).bind fun _ =>
      (modify _).bind fun _ => (lookup result).number

end Loops

section Rules

variable (registry : Registry G) (state : G.State)

mutual

theorem evalValue (expr : Expr) : FailsInParts (evalValue registry state expr) := by
  match expr with
  | .const value =>
      exact pure (Value.number value)
  | .var name =>
      exact lookup name
  | .deref base field =>
      exact (evalValue base).property registry state field
  | .unary op inner =>
      exact asValue ((evalValue inner).number.bind fun operand => pure (op.apply operand))
  | .binary op left right =>
      exact asValue ((evalValue left).number.bind fun first =>
        (evalValue right).number.bind fun second => pure (op.apply first second))
  | .call name arguments =>
      exact asValue ((evalNumbers arguments).callFunction name arguments.length)
  | .ternary condition accepted rejected =>
      exact (evalCondition condition).bind fun test =>
        ite test (evalValue accepted).number.asValue (evalValue rejected).number.asValue
  | .loop element base none body result =>
      exact (evalValue base).list.bind fun found =>
        ((runBody body).runLoop element _ found.2 result).asValue
  | .loop element base (some exclusion) body result =>
      exact (evalValue base).list.bind fun found =>
        ((evalValue exclusion).exclusion found.1).bind fun excluded =>
          ((runBody body).runLoop element (excluded == ·) found.2 result).asValue
termination_by structural expr

theorem evalNumbers (exprs : List Expr) : FailsInParts (evalNumbers registry state exprs) := by
  match exprs with
  | [] =>
      exact pure []
  | first :: rest =>
      exact (evalValue first).number.bind fun head =>
        (evalNumbers rest).bind fun tail => pure (head :: tail)
termination_by structural exprs

theorem evalCondition (condition : Condition) :
    FailsInParts (evalCondition registry state condition) := by
  match condition with
  | .literal value =>
      exact pure value
  | .compare op left right =>
      exact (evalValue left).number.bind fun first =>
        (evalValue right).number.bind fun second => pure (op.holds first second)
  | .logical op left right =>
      exact (evalCondition left).bind fun first =>
        (evalCondition right).bind fun second => pure (op.apply first second)
termination_by structural condition

theorem evalAssignment (assignment : Assignment) :
    FailsInParts (evalAssignment registry state assignment) := by
  match assignment with
  | .assign name value =>
      exact (evalValue value).number.bind fun result =>
        (modify _).bind fun _ => pure result
termination_by structural assignment

theorem runBody (assignments : List Assignment) :
    FailsInParts (runBody registry state assignments) := by
  match assignments with
  | [] =>
      exact pure ()
  | first :: rest =>
      exact (evalAssignment first).bind fun _ => runBody rest
termination_by structural assignments

end

theorem evalAssignments (last : Float) (items : List Assignment) :
    FailsInParts (evalAssignments registry state last items) := by
  induction items generalizing last with
  | nil =>
      exact pure last
  | cons first rest inductionHypothesis =>
      exact (evalAssignment registry state first).bind fun value => inductionHypothesis value

theorem evaluate {items : List Assignment} (nonempty : items ≠ []) :
    FailsInParts (evaluate registry state (.assignments items)) := by
  simp only [Strict.evaluate, List.getLast?_eq_some_getLast nonempty]
  exact (evalAssignments registry state 0 items).bind fun value => pure _

end Rules

end FailsInParts

end Strict

theorem Outcome.map_failed_iff {G : Game} {outcome : Outcome G α} {f : α → β}
    {error : EvalError} :
    (outcome.map f).result = .error error ↔ outcome.result = .error error := by
  simp only [Outcome.map]
  cases outcome.result <;> simp [Except.map]

/-- Only an empty formula fails because it is empty, and only a declaration because
it is one. -/
theorem eq_of_failed_as_whole {G : Game} (registry : Registry G) (state : G.State)
    (retention : Retention) (formula : Formula) (table : Variables G) {error : EvalError}
    (failed : (evaluateWith registry state retention formula table).result = .error error)
    (ofWhole : error.isOfWhole = true) :
    formula = .assignments [] ∧ error = .emptyFormula ∨
      ∃ name parameters body,
        formula = .function name parameters body ∧ error = .functionFormula name := by
  rw [(evaluateWith_eq_strict registry state retention formula table).1] at failed
  cases ended : Strict.evaluate registry state formula table with
  | ok result =>
      rw [ended] at failed
      cases failed
  | error found =>
      rw [ended] at failed
      cases failed
      cases formula with
      | function name parameters body =>
          cases ended
          exact .inr ⟨name, parameters, body, rfl, rfl⟩
      | assignments items =>
          by_cases empty : items = []
          · subst empty
            cases ended
            exact .inl ⟨rfl, rfl⟩
          · have ofPart := Strict.FailsInParts.evaluate registry state empty table error ended
            rw [ofPart] at ofWhole
            cases ofWhole

end RewardFormula
