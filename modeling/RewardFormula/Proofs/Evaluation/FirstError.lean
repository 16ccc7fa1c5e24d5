import RewardFormula.Proofs.Evaluation.Strict

/-!
# The first error

An evaluation that goes on after errors follows the strict one up to the first
error, and reports this error whatever comes after it. The values that stand in
for what is not found are used after an error only, and so have no part in the
result.
-/

namespace RewardFormula

/-- A run that goes on after errors follows a strict computation: it keeps an
error that was reported before, reports the error at which the strict one ends,
and otherwise finds its value and leaves its variables. -/
structure Follows {G : Game} (found : α → β) (strict : Strict G α)
    (run : Progress G → β × Progress G) : Prop where
  keeps {progress : Progress G} {error : EvalError} :
    progress.error? = some error → (run progress).2.error? = some error
  fails {table : Variables G} {created : List String} {error : EvalError} :
    strict table = .error error → (run ⟨table, created, none⟩).2.error? = some error
  finds {table table' : Variables G} {created : List String} {value : α} :
    strict table = .ok (value, table') →
      ∃ created', run ⟨table, created, none⟩ = (found value, ⟨table', created', none⟩)

namespace Follows

section Steps

variable {G : Game} {α β γ δ : Type} {found : α → β} {found' : γ → δ} {strict : Strict G α}
    {next : α → Strict G γ}

theorem pure (found : α → β) (value : α) :
    Follows found (Pure.pure value : Strict G α) fun progress => (found value, progress) where
  keeps failed := failed
  fails ended := by cases ended
  finds ended := by
    cases ended
    exact ⟨_, rfl⟩

/-- Whatever stands in for a value that is not found, the error is reported. -/
theorem throw (found : α → β) (error : EvalError) (substitute : β) :
    Follows found (throw error : Strict G α) fun progress =>
      (substitute, progress.report error) where
  keeps failed := by
    unfold Progress.report
    split
    next clean =>
      rw [clean] at failed
      cases failed
    next =>
      exact failed
  fails ended := by
    cases ended
    rfl
  finds ended := by cases ended

theorem bind_eq (first : Strict G α) (next : α → Strict G γ) (table : Variables G) :
    (first >>= next) table = (first table).bind fun result => next result.1 result.2 :=
  rfl

/-- A step that never forgets an error follows what is done with the value that
the computation before it gives. -/
theorem after (step : β × Progress G → δ × Progress G) {run : Progress G → β × Progress G}
    (followed : Follows found strict run)
    (keeps : ∀ outcome error, outcome.2.error? = some error →
      (step outcome).2.error? = some error)
    (steps : ∀ value, Follows found' (next value) fun progress => step (found value, progress)) :
    Follows found' (strict >>= next) fun progress => step (run progress) := by
  refine ⟨fun failed => keeps _ _ (followed.keeps failed), ?_, ?_⟩
  · intro table created error ended
    rw [bind_eq] at ended
    cases first : strict table with
    | error error' =>
        rw [first] at ended
        cases ended
        exact keeps _ _ (followed.fails first)
    | ok result =>
        rw [first] at ended
        obtain ⟨created', reached⟩ := followed.finds first
        rw [reached]
        exact (steps result.1).fails ended
  · intro table table' created value ended
    rw [bind_eq] at ended
    cases first : strict table with
    | error error' =>
        rw [first] at ended
        cases ended
    | ok result =>
        rw [first] at ended
        obtain ⟨created', reached⟩ := followed.finds first
        rw [reached]
        exact (steps result.1).finds ended

theorem bind {run : Progress G → α × Progress G} {run' : α → Progress G → δ × Progress G}
    (followed : Follows id strict run)
    (steps : ∀ value, Follows found' (next value) (run' value)) :
    Follows found' (strict >>= next) fun progress => run' (run progress).1 (run progress).2 := by
  apply followed.after fun outcome => run' outcome.1 outcome.2
  · intro outcome error failed
    exact (steps outcome.1).keeps failed
  · exact steps

/-- A value is missing only after an error. -/
theorem bindFound (step : Option α × Progress G → δ × Progress G)
    {run : Progress G → Option α × Progress G} (followed : Follows some strict run)
    (missing : ∀ progress error, progress.error? = some error →
      (step (none, progress)).2.error? = some error)
    (steps : ∀ value, Follows found' (next value) fun progress => step (some value, progress)) :
    Follows found' (strict >>= next) fun progress => step (run progress) := by
  apply followed.after step
  · intro outcome error failed
    obtain ⟨value?, progress⟩ := outcome
    cases value? with
    | none =>
        exact missing progress error failed
    | some value =>
        exact (steps value).keeps failed
  · exact steps

/-- A change of the variables that reports no error. -/
theorem changing {run : Progress G → Progress G} {change : Variables G → Variables G}
    (errors : ∀ progress, (run progress).error? = progress.error?)
    (tables : ∀ progress, (run progress).table = change progress.table) :
    Follows id (modify change : Strict G Unit) fun progress => ((), run progress) where
  keeps failed := (errors _).trans failed
  fails ended := by cases ended
  finds := by
    intro table table' created value ended
    cases ended
    refine ⟨(run ⟨table, created, none⟩).created, ?_⟩
    have error := errors ⟨table, created, none⟩
    have left := tables ⟨table, created, none⟩
    cases reached : run ⟨table, created, none⟩
    simp_all

theorem ite {accepted rejected : Strict G α} {run run' : Progress G → β × Progress G} (test : Bool)
    (ifAccepted : Follows found accepted run) (ifRejected : Follows found rejected run') :
    Follows found (if test then accepted else rejected) fun progress =>
      if test then run progress else run' progress := by
  cases test with
  | true =>
      exact ifAccepted
  | false =>
      exact ifRejected

/-- What is done with something read from the variables. -/
theorem look {ρ : Type} (read : Variables G → ρ) {next : ρ → Strict G γ}
    {run : ρ → Progress G → δ × Progress G}
    (steps : ∀ value, Follows found' (next value) (run value)) :
    Follows found' (do next (read (← get))) fun progress =>
      run (read progress.table) progress where
  keeps failed := (steps _).keeps failed
  fails {table} _ _ ended := (steps (read table)).fails ended
  finds {table} _ _ _ ended := (steps (read table)).finds ended

end Steps

/-! ## What places demand -/

section Demands

variable {G : Game} {strict : Strict G (Value G)}
    {run : Progress G → Option (Value G) × Progress G} (followed : Follows some strict run)

theorem lookup (name : String) :
    Follows some (Strict.lookup name : Strict G (Value G)) fun progress =>
      progress.lookup name := by
  have steps : ∀ value? : Option (Value G),
      Follows some (Strict.required value? (.undefinedVariable name)) fun progress : Progress G =>
        value?.elim (none, progress.report (.undefinedVariable name)) fun value =>
          (some value, progress) := by
    intro value?
    cases value? with
    | some value =>
        exact pure some value
    | none =>
        exact throw some _ none
  have matched : (fun progress : Progress G => progress.lookup name) = fun progress =>
      (progress.table.get? name).elim (none, progress.report (.undefinedVariable name)) fun value =>
        (some value, progress) := by
    funext progress
    unfold Progress.lookup
    cases progress.table.get? name <;> rfl
  rw [matched]
  exact look (·.get? name) steps

include followed

theorem number :
    Follows id (Strict.number strict) fun progress => Progress.number (run progress) := by
  apply followed.bindFound Progress.number
  · intro progress error failed
    exact failed
  · intro value
    cases value with
    | number value =>
        exact pure id value
    | _ =>
        exact throw id _ 0

theorem list : Follows some (Strict.list strict) fun progress => Progress.list (run progress) := by
  apply followed.bindFound Progress.list
  · intro progress error failed
    exact failed
  · intro value
    simp only [Progress.list]
    cases value.elements? with
    | some elements =>
        exact pure some (value.type, elements)
    | none =>
        exact throw some _ none

theorem exclusion (listType : ValueType) :
    Follows some (Strict.exclusion listType strict) fun progress =>
      Progress.exclusion listType (run progress) := by
  apply followed.bindFound (Progress.exclusion listType)
  · intro progress error failed
    exact failed
  · intro value
    simp only [Progress.exclusion]
    split
    · exact pure some value
    · exact throw some _ none

theorem property (registry : Registry G) (state : G.State) (field : String) :
    Follows some (Strict.property registry state field strict) fun progress =>
      property registry state field (run progress) := by
  apply followed.bindFound (RewardFormula.property registry state field)
  · intro progress error failed
    exact failed
  · intro value
    simp only [RewardFormula.property]
    cases registry.dereference? state value field with
    | some value =>
        exact pure some value
    | none =>
        exact throw some _ none

omit followed

theorem asValue {strict : Strict G Float} {run : Progress G → Float × Progress G}
    (followed : Follows id strict run) :
    Follows some (Strict.asValue strict) fun progress => asValue (run progress) :=
  followed.bind fun value => pure some (Value.number value)

theorem callFunction (name : String) (arity : Nat) {strict : Strict G (List Float)}
    {run : Progress G → List Float × Progress G} (followed : Follows id strict run) :
    Follows id (Strict.callFunction name arity strict) fun progress =>
      callFunction name arity (run progress) := by
  apply followed.after (RewardFormula.callFunction name arity)
  · intro outcome error failed
    simp only [RewardFormula.callFunction]
    split
    · exact failed
    · exact (throw id _ 0).keeps failed
  · intro arguments
    simp only [RewardFormula.callFunction, id]
    cases Function.call? name arguments with
    | some value =>
        exact pure id value
    | none =>
        exact throw id _ (0 : Float)

end Demands

section Lists

variable {G : Game}

/-- What is done with the elements of a list. Without a list it counts as zero. -/
theorem overList {strict : Strict G (Value G)} {run : Progress G → Option (Value G) × Progress G}
    {next : ValueType → List (Value G) → Strict G (Value G)}
    {step : ValueType → List (Value G) → Progress G → Option (Value G) × Progress G}
    (followed : Follows some strict run)
    (steps : ∀ listType elements, Follows some (next listType elements) (step listType elements)) :
    Follows some
      (do
        let (listType, elements) ← Strict.list strict
        next listType elements)
      fun progress =>
        match (Progress.list (run progress)).1 with
        | none => RewardFormula.asValue (0, (Progress.list (run progress)).2)
        | some (listType, elements) =>
          step listType elements (Progress.list (run progress)).2 := by
  apply (list followed).bindFound fun found =>
    match found.1 with
    | none => RewardFormula.asValue (0, found.2)
    | some (listType, elements) => step listType elements found.2
  · intro progress error failed
    exact failed
  · intro found
    exact steps found.1 found.2

/-- What is done with the value that is left out of a list. -/
theorem leavingOut {strict : Strict G (Value G)}
    {run : Progress G → Option (Value G) × Progress G} {next : Value G → Strict G (Value G)}
    {step : Value G → Progress G → Option (Value G) × Progress G}
    (followed : Follows some strict run) (listType : ValueType)
    (steps : ∀ value, Follows some (next value) (step value)) :
    Follows some (Strict.exclusion listType strict >>= next) fun progress =>
      match (Progress.exclusion listType (run progress)).1 with
      | none => RewardFormula.asValue (0, (Progress.exclusion listType (run progress)).2)
      | some value => step value (Progress.exclusion listType (run progress)).2 := by
  apply (exclusion followed listType).bindFound fun found =>
    match found.1 with
    | none => RewardFormula.asValue (0, found.2)
    | some value => step value found.2
  · intro progress error failed
    exact failed
  · exact steps

end Lists

section Loops

variable {G : Game} {strict : Strict G Unit} {run : Progress G → Progress G}
    (followed : Follows id strict fun progress => ((), run progress))

include followed

theorem iterate (element : String) (isExcluded : Value G → Bool) (elements : List (Value G)) :
    Follows id (Strict.iterate element isExcluded strict elements) fun progress =>
      ((), Progress.iterate element isExcluded run elements progress) := by
  induction elements with
  | nil =>
      exact pure id ()
  | cons item rest inductionHypothesis =>
      have bound : Follows id (Strict.insert element item) fun progress =>
          ((), progress.bind element item) :=
        changing (fun _ => rfl) fun _ => rfl
      cases excluded : isExcluded item with
      | true =>
          simp only [Strict.iterate, Progress.iterate, List.foldl_cons, excluded]
          exact inductionHypothesis
      | false =>
          simp only [Strict.iterate, Progress.iterate, List.foldl_cons, excluded]
          exact (bound.bind fun _ => followed).bind fun _ => inductionHypothesis

theorem runLoop (element : String) (isExcluded : Value G → Bool) (result : String)
    (elements : List (Value G)) :
    Follows id (Strict.runLoop element isExcluded strict result elements)
      (Progress.runLoop element isExcluded run result elements) := by
  have erased : Follows id (Strict.erase element) fun progress : Progress G =>
      ((), { progress with table := progress.table.erase element }) :=
    changing (fun _ => rfl) fun _ => rfl
  have restored : ∀ hidden, Follows id (Strict.restore element hidden) fun progress : Progress G =>
      ((), progress.restore element hidden) :=
    fun hidden => changing (fun _ => rfl) fun _ => rfl
  have iterated := iterate followed element isExcluded elements
  have valued := (lookup (G := G) result).number
  exact look (·.get? element) fun hidden =>
    erased.bind fun _ => iterated.bind fun _ => (restored hidden).bind fun _ => valued

end Loops

/-! ## Expressions, conditions and assignments -/

section Rules

variable {G : Game} (registry : Registry G) (state : G.State)

mutual

theorem evalValue (expr : Expr) :
    Follows some (Strict.evalValue registry state expr) (evalValue registry state expr) := by
  cases expr with
  | const value =>
      exact pure some (Value.number value)
  | var name =>
      exact lookup name
  | deref base field =>
      exact property (evalValue base) registry state field
  | unary op inner =>
      exact asValue ((number (evalValue inner)).bind fun operand => pure id (op.apply operand))
  | binary op left right =>
      exact asValue ((number (evalValue left)).bind fun first =>
        (number (evalValue right)).bind fun second => pure id (op.apply first second))
  | call name arguments =>
      exact asValue (callFunction name arguments.length (evalNumbers arguments))
  | ternary condition accepted rejected =>
      exact (evalCondition condition).bind fun test =>
        ite test (asValue (number (evalValue accepted))) (asValue (number (evalValue rejected)))
  | loop element base exclusion? body result =>
      cases exclusion? with
      | none =>
          exact overList (evalValue base) fun _ elements =>
            asValue (runLoop (runBody body) element (fun _ => false) result elements)
      | some exclusion =>
          exact overList (evalValue base) fun listType elements =>
            leavingOut (evalValue exclusion) listType fun value =>
              asValue (runLoop (runBody body) element (value == ·) result elements)
termination_by structural expr

theorem evalNumbers (exprs : List Expr) :
    Follows id (Strict.evalNumbers registry state exprs) (evalNumbers registry state exprs) := by
  cases exprs with
  | nil =>
      exact pure id []
  | cons first rest =>
      exact (number (evalValue first)).bind fun head =>
        (evalNumbers rest).bind fun tail => pure id (head :: tail)
termination_by structural exprs

theorem evalCondition (condition : Condition) :
    Follows id (Strict.evalCondition registry state condition)
      (evalCondition registry state condition) := by
  cases condition with
  | literal value =>
      exact pure id value
  | compare op left right =>
      exact (number (evalValue left)).bind fun first =>
        (number (evalValue right)).bind fun second => pure id (op.holds first second)
  | logical op left right =>
      exact (evalCondition left).bind fun first =>
        (evalCondition right).bind fun second => pure id (op.apply first second)
termination_by structural condition

theorem evalAssignment (assignment : Assignment) :
    Follows id (Strict.evalAssignment registry state assignment)
      (evalAssignment registry state assignment) := by
  cases assignment with
  | assign name value =>
      have assigned : ∀ result : Float, Follows id (Strict.insert name (.number result))
          fun progress : Progress G => ((), progress.assign name result) :=
        fun result => changing (fun _ => rfl) fun _ => rfl
      exact (number (evalValue value)).bind fun result =>
        (assigned result).bind fun _ => pure id result
termination_by structural assignment

theorem runBody (assignments : List Assignment) :
    Follows id (Strict.runBody registry state assignments) fun progress =>
      ((), runBody registry state assignments progress) := by
  cases assignments with
  | nil =>
      exact pure id ()
  | cons first rest =>
      exact (evalAssignment first).bind fun _ => runBody rest
termination_by structural assignments

end

/-- The assignments of a formula in order, with the value of the one before them. -/
theorem assignments (last : Float) (items : List Assignment) :
    Follows id (Strict.evalAssignments registry state last items) fun progress =>
      items.foldl
        (fun last assignment => RewardFormula.evalAssignment registry state assignment last.2)
        (last, progress) := by
  induction items generalizing last with
  | nil =>
      exact pure id last
  | cons first rest inductionHypothesis =>
      exact (evalAssignment registry state first).bind fun value => inductionHypothesis value

theorem evalAssignments (items : List Assignment) :
    Follows id (Strict.evalAssignments registry state 0 items)
      (evalAssignments registry state items) :=
  assignments registry state 0 items

end Rules

end Follows

section Formulas

variable {G : Game} (registry : Registry G) (state : G.State)

/-- In both modes a formula has the result of its strict evaluation, and what
stays is what the strict one leaves. -/
theorem evaluateWith_eq_strict (retention : Retention) (formula : Formula) (table : Variables G) :
    (evaluateWith registry state retention formula table).result =
        (Strict.evaluate registry state formula table).map Prod.fst ∧
      ∀ evaluation left, Strict.evaluate registry state formula table = .ok (evaluation, left) →
        (evaluateRetaining registry state formula table).table = left := by
  cases formula with
  | function name parameters body =>
      refine ⟨rfl, ?_⟩
      intro evaluation left ended
      cases ended
  | assignments items =>
      simp only [evaluateRetaining, evaluateWith, Strict.evaluate]
      cases items.getLast? with
      | none =>
          refine ⟨rfl, ?_⟩
          intro evaluation left ended
          cases ended
      | some last =>
          have followed := Follows.evalAssignments registry state items
          simp only [Follows.bind_eq]
          cases ended : Strict.evalAssignments registry state 0 items table with
          | error error =>
              have reported : (evalAssignments registry state items (.start table)).2.error? =
                  some error := followed.fails ended
              refine ⟨by simp only [reported]; rfl, ?_⟩
              intro evaluation left finished
              cases finished
          | ok result =>
              obtain ⟨created, reached⟩ : ∃ created,
                  evalAssignments registry state items (.start table) =
                    (result.1, ⟨result.2, created, none⟩) := followed.finds ended
              simp only [reached]
              refine ⟨rfl, ?_⟩
              intro evaluation left finished
              cases finished
              rfl

/-- A run that goes on after an error and forgets it under no variables. -/
def KeepsError (run : Progress G → β × Progress G) : Prop :=
  ∀ progress error, progress.error? = some error → (run progress).2.error? = some error

/-- An evaluation goes on after errors and still has the outcome of the one that
stops at the first of them. What is evaluated after an error, on whatever values
stand in for those that are missing, leaves the error as it is. -/
theorem outcome_eq_strict (formula : Formula) (table : Variables G) :
    (evaluateRetaining registry state formula table).result =
        (Strict.evaluate registry state formula table).map Prod.fst ∧
      (evaluate registry state formula table).result =
        (Strict.evaluate registry state formula table).map (·.1.value) ∧
      (∀ default, (evaluateInt registry state formula table default).result =
        (Strict.evaluate registry state formula table).map (·.1.toInt default)) ∧
      (∀ evaluation left, Strict.evaluate registry state formula table = .ok (evaluation, left) →
        (evaluateRetaining registry state formula table).table = left) ∧
      (∀ expr, KeepsError (evalValue registry state expr)) ∧
      (∀ test, KeepsError (evalCondition registry state test)) ∧
      ∀ items, KeepsError (evalAssignments registry state items) := by
  have retaining := evaluateWith_eq_strict registry state .retainCreated formula table
  have removing := evaluateWith_eq_strict registry state .removeCreated formula table
  refine ⟨retaining.1, ?_, ?_, retaining.2, ?_, ?_, ?_⟩
  · simp only [evaluate, Outcome.map, removing.1]
    cases Strict.evaluate registry state formula table <;> rfl
  · intro default
    simp only [evaluateInt, evaluate, Outcome.map, removing.1]
    cases Strict.evaluate registry state formula table <;> rfl
  · intro expr progress error failed
    exact (Follows.evalValue registry state expr).keeps failed
  · intro test progress error failed
    exact (Follows.evalCondition registry state test).keeps failed
  · intro items progress error failed
    exact (Follows.evalAssignments registry state items).keeps failed

end Formulas

/-- A sum of two variables that are missing stands for zero in a comparison. The
branch that this selects fails too, and the first variable is reported. Where the
variables are there, the strict evaluation gives the value and the variables. -/
theorem outcome_eq_strict_sum :
    let formula : Formula :=
      .single "reward" (.ternary
        (.compare .equal (.binary .add (.var "first") (.var "second")) (.const 0))
        (.call "unknown" []) (.var "first"))
    let found : Variables ⟨Unit, Unit, Unit⟩ :=
      .ofList [("first", .number 1), ("second", .number 2)]
    let left := found.insert "reward" (.number 1)
    (evaluateRetaining Registry.empty () formula
        (.empty : Variables ⟨Unit, Unit, Unit⟩)).result = .error (.undefinedVariable "first") ∧
      Strict.evaluate Registry.empty () formula found = .ok (⟨1, "reward"⟩, left) ∧
      (evaluateRetaining Registry.empty () formula found).table = left := by
  refine ⟨(outcome_eq_strict _ _ _ _).1.trans rfl, rfl, ?_⟩
  exact (outcome_eq_strict _ _ _ _).2.2.2.1 ⟨1, "reward"⟩ _ rfl

end RewardFormula
