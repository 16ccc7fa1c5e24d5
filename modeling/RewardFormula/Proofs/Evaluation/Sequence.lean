import RewardFormula.Proofs.Evaluation.Agreement

/-!
# One formula after the other

Assignments that follow others are evaluated on the variables that those leave, as if
they were a formula of their own. This is so after an error, too: it hides the errors
that follow it, but it stops nothing.
-/

namespace RewardFormula

namespace Progress

variable {G : Game}

theorem table_report (progress : Progress G) (error : EvalError) :
    (progress.report error).table = progress.table := by
  unfold report
  split <;> rfl

theorem created_report (progress : Progress G) (error : EvalError) :
    (progress.report error).created = progress.created := by
  unfold report
  split <;> rfl

theorem error_report (progress : Progress G) (error : EvalError) :
    (progress.report error).error? = progress.error?.or (some error) := by
  unfold report
  split
  next none =>
    rw [none]
    rfl
  next earlier some =>
    rw [some]
    rfl

/-- The first stage is that of an evaluation that goes on after others, the second that of
the same evaluation on its own. An error of the others hides its errors. -/
structure Onward (earlier? : Option EvalError) (first second : Progress G) : Prop where
  table : first.table = second.table
  error : first.error? = earlier?.or second.error?

namespace Onward

variable {earlier? : Option EvalError} {first second : Progress G}

theorem report (error : EvalError) (onward : Onward earlier? first second) :
    Onward earlier? (first.report error) (second.report error) where
  table := by rw [table_report, table_report, onward.table]
  error := by rw [error_report, error_report, onward.error, Option.or_assoc]

/-- The variables are changed in the same way, and no error is reported. -/
theorem change {first' second' : Progress G} (onward : Onward earlier? first second)
    (tables : first'.table = second'.table) (sameError : first'.error? = first.error?)
    (sameError' : second'.error? = second.error?) : Onward earlier? first' second' where
  table := tables
  error := by rw [sameError, sameError', onward.error]

theorem assign (name : String) (value : Float) (onward : Onward earlier? first second) :
    Onward earlier? (first.assign name value) (second.assign name value) :=
  onward.change (congrArg (·.insert name (.number value)) onward.table) rfl rfl

theorem bind (name : String) (value : Value G) (onward : Onward earlier? first second) :
    Onward earlier? (first.bind name value) (second.bind name value) :=
  onward.change (congrArg (·.insert name value) onward.table) rfl rfl

theorem erase (name : String) (onward : Onward earlier? first second) :
    Onward earlier? { first with table := first.table.erase name }
      { second with table := second.table.erase name } :=
  onward.change (congrArg (·.erase name) onward.table) rfl rfl

theorem restore (name : String) (previous : Option (Value G))
    (onward : Onward earlier? first second) :
    Onward earlier? (first.restore name previous) (second.restore name previous) := by
  refine onward.change ?_ rfl rfl
  simp only [Progress.restore, onward.table]

end Onward

end Progress

namespace Coupling

variable {G : Game}

/-- The coupling of an evaluation that goes on after others with the same evaluation on its
own. -/
def onward (G : Game) (earlier? : Option EvalError) : Coupling G where
  relates := Progress.Onward earlier?
  report error related := related.report error

theorem onward_handles (earlier? : Option EvalError) (name : String) :
    (onward G earlier?).Handles name where
  lookup first second related := .lookup related (congrArg (·.get? name) related.table)
  assign value related := related.assign name value
  afterLoop {body first second} runs isExcluded elements related := by
    have hidden : first.table.get? name = second.table.get? name :=
      congrArg (·.get? name) related.table
    have iterated : (onward G earlier?).relates
        (Progress.iterate name isExcluded body elements
          { first with table := first.table.erase name })
        (Progress.iterate name isExcluded body elements
          { second with table := second.table.erase name }) :=
      relates_iterate (fun item _ _ related => runs _ _ (related.bind name item)) elements
        (related.erase name)
    unfold Progress.afterLoop
    rw [hidden]
    exact iterated.restore name _

end Coupling

section Formulas

variable {G : Game} (registry : Registry G) (state : G.State)

/-- What the assignments of the second list do after those of the first, they do by
themselves on the variables that those leave. -/
theorem evalAssignments_append (firsts : List Assignment) {seconds : List Assignment}
    (nonempty : seconds ≠ []) (progress : Progress G) :
    (Coupling.onward G (evalAssignments registry state firsts progress).2.error?).Alike
      (evalAssignments registry state (firsts ++ seconds) progress)
      (evalAssignments registry state seconds
        (.start (evalAssignments registry state firsts progress).2.table)) := by
  obtain ⟨item, others, rfl⟩ := List.exists_cons_of_ne_nil nonempty
  -- The value before the first of some assignments has no part in the value of the last.
  have resumed : evalAssignments registry state (firsts ++ item :: others) progress =
      evalAssignments registry state (item :: others)
        (evalAssignments registry state firsts progress).2 := by
    simp only [evalAssignments, List.foldl_append, List.foldl_cons]
  rw [resumed]
  apply Coupling.Couples.assignments
  · exact Coupling.couples_members fun name _ => Coupling.onward_handles _ name
  · exact ⟨rfl, (Option.or_none).symm⟩

/-- Two lists of assignments in a row leave the variables that the second list leaves
after the first one, and give its value and name. The first error of the two is that of
the whole. -/
theorem evaluateRetaining_append {firsts seconds : List Assignment} (firstNonempty : firsts ≠ [])
    (secondNonempty : seconds ≠ []) (table : Variables G) :
    evaluateRetaining registry state (.assignments (firsts ++ seconds)) table =
      let first := evaluateRetaining registry state (.assignments firsts) table
      let second := evaluateRetaining registry state (.assignments seconds) first.table
      ⟨first.result.bind fun _ => second.result, second.table⟩ := by
  have alike := evalAssignments_append registry state firsts secondNonempty (.start table)
  have firstLast := List.getLast?_eq_some_getLast firstNonempty
  have secondLast := List.getLast?_eq_some_getLast secondNonempty
  have last : (firsts ++ seconds).getLast? = seconds.getLast? :=
    List.getLast?_append_of_ne_nil firsts secondNonempty
  simp only [evaluateRetaining, evaluateWith, last, firstLast, secondLast, Progress.remaining]
  refine congrArg₂ Outcome.mk ?_ alike.stages.table
  rw [alike.stages.error, alike.value]
  cases (evalAssignments registry state firsts (.start table)).2.error? with
  | some error =>
      rfl
  | none =>
      rfl

end Formulas

end RewardFormula
