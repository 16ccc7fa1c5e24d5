import RewardFormula.Evaluation

/-!
# Laws of evaluation

An evaluation goes on by reporting errors, by assigning numbers, and by running
loops, which bind a name and restore it. A relation between stages that holds
over each of these holds over the evaluation of every formula.
-/

namespace RewardFormula

mutual

/-- The names that are assigned in an expression outside the bodies of the loops
over them. -/
def Expr.freeTargets : Expr → List String
  | .const _ => []
  | .var _ => []
  | .deref base _ => base.freeTargets
  | .unary _ inner => inner.freeTargets
  | .binary _ left right => left.freeTargets ++ right.freeTargets
  | .call _ arguments => Expr.allFreeTargets arguments
  | .ternary condition accepted rejected =>
    condition.freeTargets ++ (accepted.freeTargets ++ rejected.freeTargets)
  | .loop element base none body _ =>
    base.freeTargets ++ (Assignment.allFreeTargets body).filter (· != element)
  | .loop element base (some exclusion) body _ =>
    base.freeTargets ++
      (exclusion.freeTargets ++ (Assignment.allFreeTargets body).filter (· != element))
termination_by structural expr => expr

def Expr.allFreeTargets : List Expr → List String
  | [] => []
  | first :: rest => first.freeTargets ++ Expr.allFreeTargets rest
termination_by structural exprs => exprs

def Condition.freeTargets : Condition → List String
  | .literal _ => []
  | .compare _ left right => left.freeTargets ++ right.freeTargets
  | .logical _ left right => left.freeTargets ++ right.freeTargets
termination_by structural condition => condition

def Assignment.freeTargets : Assignment → List String
  | .assign name value => value.freeTargets ++ [name]
termination_by structural assignment => assignment

def Assignment.allFreeTargets : List Assignment → List String
  | [] => []
  | first :: rest => first.freeTargets ++ Assignment.allFreeTargets rest
termination_by structural assignments => assignments

end

/-- The names that are assigned in a formula outside the bodies of the loops
over them. -/
def Formula.freeTargets : Formula → List String
  | .assignments items => Assignment.allFreeTargets items
  | .function _ _ body => body.freeTargets

namespace Progress

variable {G : Game}

theorem get?_restore (progress : Progress G) (name : String) (previous : Option (Value G))
    (wanted : String) :
    (progress.restore name previous).table.get? wanted =
      if wanted = name then previous else progress.table.get? wanted := by
  cases previous with
  | none =>
      simp only [restore, NameMap.get?_erase]
  | some value =>
      simp only [restore, NameMap.get?_insert, NameMap.get?_erase]
      split <;> rfl

theorem contains_restore (progress : Progress G) (name : String) (previous : Option (Value G))
    {wanted : String} (other : wanted ≠ name) :
    (progress.restore name previous).table.contains wanted = progress.table.contains wanted := by
  simp only [NameMap.contains, get?_restore, if_neg other]

/-- The progress after a loop has run and its variable is restored. -/
def afterLoop (element : String) (isExcluded : Value G → Bool) (body : Progress G → Progress G)
    (elements : List (Value G)) (progress : Progress G) : Progress G :=
  (iterate element isExcluded body elements
    { progress with table := progress.table.erase element }).restore element
      (progress.table.get? element)

theorem runLoop_eq (element : String) (isExcluded : Value G → Bool)
    (body : Progress G → Progress G) (result : String) (elements : List (Value G))
    (progress : Progress G) :
    runLoop element isExcluded body result elements progress =
      number ((afterLoop element isExcluded body elements progress).lookup result) :=
  rfl

end Progress

/-- A relation between an earlier and a later stage of an evaluation that
assigns to given names in between. It holds over every step of an evaluation. -/
structure Law (G : Game) where
  relates : List String → Progress G → Progress G → Prop
  refl (progress : Progress G) : relates [] progress progress
  trans {names : List String} {first second third : Progress G} :
    relates names first second → relates names second third → relates names first third
  mono {names names' : List String} {first second : Progress G} :
    names ⊆ names' → relates names first second → relates names' first second
  report (progress : Progress G) (error : EvalError) : relates [] progress (progress.report error)
  assign (progress : Progress G) (name : String) (value : Float) :
    relates [name] progress (progress.assign name value)
  loop {names : List String} {body : Progress G → Progress G}
    (runs : ∀ progress, relates names progress (body progress)) (element : String)
    (isExcluded : Value G → Bool) (elements : List (Value G)) (progress : Progress G) :
    relates (names.filter (· != element)) progress
      (progress.afterLoop element isExcluded body elements)

namespace Law

variable {G : Game} (law : Law G) {names names' : List String} {first second : Progress G}

theorem append {third : Progress G} (earlier : law.relates names first second)
    (later : law.relates names' second third) : law.relates (names ++ names') first third :=
  law.trans (law.mono (List.subset_append_left _ _) earlier)
    (law.mono (List.subset_append_right _ _) later)

theorem reported (obeyed : law.relates names first second) (error : EvalError) :
    law.relates names first (second.report error) :=
  law.trans obeyed (law.mono (List.nil_subset _) (law.report second error))

section Demands

variable {outcome : Option (Value G) × Progress G}

theorem lookup (obeyed : law.relates names first second) (name : String) :
    law.relates names first (second.lookup name).2 := by
  unfold Progress.lookup
  split
  · exact obeyed
  · exact law.reported obeyed _

theorem number (obeyed : law.relates names first outcome.2) :
    law.relates names first (Progress.number outcome).2 := by
  unfold Progress.number
  split
  · exact obeyed
  · exact law.reported obeyed _
  · exact obeyed

theorem list (obeyed : law.relates names first outcome.2) :
    law.relates names first (Progress.list outcome).2 := by
  unfold Progress.list
  split
  · split
    · exact obeyed
    · exact law.reported obeyed _
  · exact obeyed

theorem exclusion (listType : ValueType) (obeyed : law.relates names first outcome.2) :
    law.relates names first (Progress.exclusion listType outcome).2 := by
  unfold Progress.exclusion
  split
  · split
    · exact obeyed
    · exact law.reported obeyed _
  · exact obeyed

theorem property (registry : Registry G) (state : G.State) (field : String)
    (obeyed : law.relates names first outcome.2) :
    law.relates names first (property registry state field outcome).2 := by
  unfold RewardFormula.property
  split
  · split
    · exact obeyed
    · exact law.reported obeyed _
  · exact obeyed

theorem callFunction (name : String) (arity : Nat) {outcome : List Float × Progress G}
    (obeyed : law.relates names first outcome.2) :
    law.relates names first (callFunction name arity outcome).2 := by
  unfold RewardFormula.callFunction
  dsimp only
  split
  · exact obeyed
  · exact law.reported obeyed _

theorem runLoop {body : Progress G → Progress G} (element : String) (isExcluded : Value G → Bool)
    (result : String) (elements : List (Value G)) (obeyed : law.relates names first second)
    (runs : ∀ progress, law.relates names' progress (body progress)) :
    law.relates (names ++ names'.filter (· != element)) first
      (second.runLoop element isExcluded body result elements).2 := by
  rw [Progress.runLoop_eq]
  have looped := law.append obeyed (law.loop runs element isExcluded elements second)
  exact law.number (law.lookup looped result)

end Demands

section Evaluations

variable (registry : Registry G) (state : G.State)

mutual

theorem evalValue (expr : Expr) (progress : Progress G) :
    law.relates expr.freeTargets progress (evalValue registry state expr progress).2 := by
  cases expr with
  | const value =>
      exact law.refl progress
  | var name =>
      exact law.lookup (law.refl progress) name
  | deref base field =>
      exact law.property registry state field (evalValue base progress)
  | unary op inner =>
      exact law.number (evalValue inner progress)
  | binary op left right =>
      exact law.append (law.number (evalValue left progress)) (law.number (evalValue right _))
  | call name arguments =>
      exact law.callFunction name arguments.length (evalNumbers arguments progress)
  | ternary condition accepted rejected =>
      have tested := evalCondition condition progress
      simp only [RewardFormula.evalValue, Expr.freeTargets]
      split
      · exact law.append tested
          (law.mono (List.subset_append_left _ _) (law.number (evalValue accepted _)))
      · exact law.append tested
          (law.mono (List.subset_append_right _ _) (law.number (evalValue rejected _)))
  | loop element base exclusion? body result =>
      have listed := law.list (evalValue base progress)
      match exclusion? with
      | none =>
          simp only [RewardFormula.evalValue, Expr.freeTargets]
          split
          · exact law.mono (List.subset_append_left _ _) listed
          · exact law.runLoop element _ result _ listed (runBody body)
      | some exclusion =>
          simp only [RewardFormula.evalValue, Expr.freeTargets]
          split
          · exact law.mono (List.subset_append_left _ _) listed
          next listType elements found =>
            have excluded := law.append listed (law.exclusion listType (evalValue exclusion _))
            rw [← List.append_assoc]
            split
            · exact law.mono (List.subset_append_left _ _) excluded
            · exact law.runLoop element _ result elements excluded (runBody body)
termination_by structural expr

theorem evalNumbers (exprs : List Expr) (progress : Progress G) :
    law.relates (Expr.allFreeTargets exprs) progress
      (evalNumbers registry state exprs progress).2 := by
  cases exprs with
  | nil =>
      exact law.refl progress
  | cons first rest =>
      exact law.append (law.number (evalValue first progress)) (evalNumbers rest _)
termination_by structural exprs

theorem evalCondition (condition : Condition) (progress : Progress G) :
    law.relates condition.freeTargets progress
      (evalCondition registry state condition progress).2 := by
  cases condition with
  | literal value =>
      exact law.refl progress
  | compare op left right =>
      exact law.append (law.number (evalValue left progress)) (law.number (evalValue right _))
  | logical op left right =>
      exact law.append (evalCondition left progress) (evalCondition right _)
termination_by structural condition

theorem evalAssignment (assignment : Assignment) (progress : Progress G) :
    law.relates assignment.freeTargets progress
      (evalAssignment registry state assignment progress).2 := by
  cases assignment with
  | assign name value =>
      exact law.append (law.number (evalValue value progress)) (law.assign _ name _)
termination_by structural assignment

theorem runBody (assignments : List Assignment) (progress : Progress G) :
    law.relates (Assignment.allFreeTargets assignments) progress
      (runBody registry state assignments progress) := by
  cases assignments with
  | nil =>
      exact law.refl progress
  | cons first rest =>
      exact law.append (evalAssignment first progress) (runBody rest _)
termination_by structural assignments

end

/-- The assignments of a formula are evaluated under the law. -/
theorem evalAssignments (assignments : List Assignment) (progress : Progress G) :
    law.relates (Assignment.allFreeTargets assignments) progress
      (evalAssignments registry state assignments progress).2 := by
  unfold RewardFormula.evalAssignments
  generalize (0 : Float) = value
  induction assignments generalizing value progress with
  | nil =>
      exact law.refl progress
  | cons first rest inductionHypothesis =>
      exact law.append (law.evalAssignment registry state first progress) (inductionHypothesis _ _)

/-- Every evaluation ends at a stage that obeys all laws, in both modes at the
same one and with the same result. -/
theorem evaluateWith_eq (formula : Formula) (table : Variables G) :
    ∃ result progress,
      (∀ law : Law G, law.relates formula.freeTargets (.start table) progress) ∧
        ∀ retention, evaluateWith registry state retention formula table =
          ⟨result, progress.remaining retention⟩ := by
  have unchanged : ∀ retention, (Progress.start table).remaining retention = table := by
    intro retention
    cases retention <;> rfl
  have started : ∀ law : Law G, law.relates formula.freeTargets (.start table) (.start table) :=
    fun law => law.mono (List.nil_subset _) (law.refl _)
  cases formula with
  | function name parameters body =>
      exact ⟨.error (.functionFormula name), .start table, started, fun retention => by
        rw [unchanged]
        rfl⟩
  | assignments items =>
      cases last : items.getLast? with
      | none =>
          exact ⟨.error .emptyFormula, .start table, started, fun retention => by
            simp only [evaluateWith, last, unchanged]⟩
      | some assignment =>
          refine ⟨(evaluateWith registry state .retainCreated (.assignments items) table).result,
            (RewardFormula.evalAssignments registry state items (.start table)).2,
            fun law => law.evalAssignments registry state items (.start table), fun retention => ?_⟩
          simp only [evaluateWith, last]

end Evaluations

end Law

end RewardFormula
