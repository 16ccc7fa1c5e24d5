import RewardFormula.Proofs.Evaluation.Cleanup
import RewardFormula.Proofs.Evaluation.Coupling

/-!
# The variables that count

The variables that a formula mentions determine its evaluation. It reads no
others, and leaves the others as they are.
-/

namespace RewardFormula

mutual

/-- The names that an expression reads, assigns or binds. -/
def Expr.variables : Expr → List String
  | .const _ => []
  | .var name => [name]
  | .deref base _ => base.variables
  | .unary _ inner => inner.variables
  | .binary _ left right => left.variables ++ right.variables
  | .call _ arguments => Expr.allVariables arguments
  | .ternary condition accepted rejected =>
    condition.variables ++ (accepted.variables ++ rejected.variables)
  | .loop element base none body result =>
    element :: result :: (base.variables ++ Assignment.allVariables body)
  | .loop element base (some exclusion) body result =>
    element :: result ::
      (base.variables ++ (exclusion.variables ++ Assignment.allVariables body))
termination_by structural expr => expr

def Expr.allVariables : List Expr → List String
  | [] => []
  | first :: rest => first.variables ++ Expr.allVariables rest
termination_by structural exprs => exprs

def Condition.variables : Condition → List String
  | .literal _ => []
  | .compare _ left right => left.variables ++ right.variables
  | .logical _ left right => left.variables ++ right.variables
termination_by structural condition => condition

def Assignment.variables : Assignment → List String
  | .assign name value => name :: value.variables
termination_by structural assignment => assignment

def Assignment.allVariables : List Assignment → List String
  | [] => []
  | first :: rest => first.variables ++ Assignment.allVariables rest
termination_by structural assignments => assignments

end

/-- The names that a formula reads, assigns or binds. -/
def Formula.variables : Formula → List String
  | .assignments items => Assignment.allVariables items
  | .function _ _ body => body.variables

/-- Under all but certain names a table holds what it held before. -/
def KeepsOthers {G : Game} (names : String → Prop) (before after : Variables G) : Prop :=
  ∀ ⦃name : String⦄, ¬ names name → after.get? name = before.get? name

/-- Two tables hold the same under certain names, and under the others what they
held before. -/
structure Agree {G : Game} (names : String → Prop) (before before' after after' : Variables G) :
    Prop where
  same {name : String} : names name → after.get? name = after'.get? name
  kept : KeepsOthers names before after
  kept' : KeepsOthers names before' after'

section Tables

variable {G : Game} {names : String → Prop} {before before' after after' : Variables G}

theorem KeepsOthers.refl (before : Variables G) : KeepsOthers names before before :=
  fun _ _ => rfl

theorem KeepsOthers.change {changed : Variables G} {name : String} {value : Option (Value G)}
    (kept : KeepsOthers names before after) (mentioned : names name)
    (changes : ∀ wanted, changed.get? wanted = if wanted = name then value else after.get? wanted) :
    KeepsOthers names before changed := by
  intro wanted unmentioned
  have other : wanted ≠ name := fun equal => unmentioned (equal ▸ mentioned)
  rw [changes, if_neg other]
  exact kept unmentioned

/-- Names that were not there before are removed. -/
theorem KeepsOthers.eraseAll {created : List String} (kept : KeepsOthers names before after)
    (new : ∀ name ∈ created, before.get? name = none) :
    KeepsOthers names before (after.eraseAll created) := by
  intro name unmentioned
  rw [NameMap.get?_eraseAll]
  by_cases isNew : name ∈ created
  · rw [if_pos isNew, new name isNew]
  · rw [if_neg isNew]
    exact kept unmentioned

namespace Agree

theorem start (same : ∀ name, names name → before.get? name = before'.get? name) :
    Agree names before before' before before' :=
  ⟨fun mentioned => same _ mentioned, .refl before, .refl before'⟩

theorem shared {name : String} (mentioned : names name) :
    Coupling.Shared (Agree names before before') name where
  same agree := agree.same mentioned
  change agree changes changes' := by
    refine ⟨?_, agree.kept.change mentioned changes, agree.kept'.change mentioned changes'⟩
    intro wanted wantedMentioned
    rw [changes, changes', agree.same wantedMentioned]

theorem eraseAll {created : List String} (agree : Agree names before before' after after')
    (new : ∀ name ∈ created, before.get? name = none)
    (new' : ∀ name ∈ created, before'.get? name = none) :
    Agree names before before' (after.eraseAll created) (after'.eraseAll created) := by
  refine ⟨?_, agree.kept.eraseAll new, agree.kept'.eraseAll new'⟩
  intro name mentioned
  rw [NameMap.get?_eraseAll, NameMap.get?_eraseAll, agree.same mentioned]

end Agree

end Tables

namespace Coupling

variable {G : Game}

/-- Two related stages find the same under a name, and stay related when both assign a
number to it or run a loop over it. -/
structure Handles (coupling : Coupling G) (name : String) : Prop where
  lookup : coupling.Couples (Progress.lookup · name) (Progress.lookup · name)
  assign {first second : Progress G} (value : Float) : coupling.relates first second →
    coupling.relates (first.assign name value) (second.assign name value)
  afterLoop {body : Progress G → Progress G} {first second : Progress G}
    (runs : ∀ first second, coupling.relates first second →
      coupling.relates (body first) (body second))
    (isExcluded : Value G → Bool) (elements : List (Value G)) : coupling.relates first second →
      coupling.relates (first.afterLoop name isExcluded body elements)
        (second.afterLoop name isExcluded body elements)

theorem Shared.handles {tables : Variables G → Variables G → Prop} {name : String}
    (shared : Shared tables name) : (ofTables tables).Handles name where
  lookup _ _ related := shared.lookup related
  assign value related := shared.assign value related
  afterLoop runs isExcluded elements related := shared.afterLoop runs isExcluded elements related

section Rules

variable {coupling : Coupling G} {registry : Registry G} {state : G.State}

theorem Handles.runLoop {element result : String} {body : Progress G → Progress G}
    (elementHandled : coupling.Handles element) (resultHandled : coupling.Handles result)
    (runs : ∀ first second, coupling.relates first second →
      coupling.relates (body first) (body second))
    (isExcluded : Value G → Bool) (elements : List (Value G)) :
    coupling.Couples (Progress.runLoop element isExcluded body result elements)
      (Progress.runLoop element isExcluded body result elements) :=
  .runLoop (fun _ _ related => elementHandled.afterLoop runs isExcluded elements related)
    resultHandled.lookup

-- A formula is run beside itself, so all that matters is what becomes of the names in it.
mutual

theorem couples_evalValue {expr : Expr} (handled : ∀ name ∈ expr.variables, coupling.Handles name) :
    coupling.Couples (evalValue registry state expr) (evalValue registry state expr) := by
  match expr with
  | .const value =>
      exact .constant value
  | .var name =>
      exact (handled name (by simp [Expr.variables])).lookup
  | .deref base field =>
      exact .deref field (couples_evalValue handled)
  | .unary op inner =>
      exact .unary op (couples_evalValue handled)
  | .binary op left right =>
      have ⟨leftHandled, rightHandled⟩ := List.forall_mem_append.1 handled
      exact .binary op (couples_evalValue leftHandled) (couples_evalValue rightHandled)
  | .call name arguments =>
      exact .call name (couples_arguments handled)
  | .ternary condition accepted rejected =>
      have ⟨testHandled, branchesHandled⟩ := List.forall_mem_append.1 handled
      have ⟨acceptedHandled, rejectedHandled⟩ := List.forall_mem_append.1 branchesHandled
      exact .ternary (couples_evalCondition testHandled) (couples_evalValue acceptedHandled)
        (couples_evalValue rejectedHandled)
  | .loop element base none body result =>
      have ⟨elementHandled, handled⟩ := List.forall_mem_cons.1 handled
      have ⟨resultHandled, handled⟩ := List.forall_mem_cons.1 handled
      have ⟨baseHandled, bodyHandled⟩ := List.forall_mem_append.1 handled
      exact .loop (couples_evalValue baseHandled) (elementHandled.runLoop resultHandled
        fun _ _ related => Couples.body (couples_members bodyHandled) related)
  | .loop element base (some exclusion) body result =>
      have ⟨elementHandled, handled⟩ := List.forall_mem_cons.1 handled
      have ⟨resultHandled, handled⟩ := List.forall_mem_cons.1 handled
      have ⟨baseHandled, handled⟩ := List.forall_mem_append.1 handled
      have ⟨exclusionHandled, bodyHandled⟩ := List.forall_mem_append.1 handled
      exact .loopExcluding (couples_evalValue baseHandled) (couples_evalValue exclusionHandled)
        (elementHandled.runLoop resultHandled
          fun _ _ related => Couples.body (couples_members bodyHandled) related)
termination_by structural expr

theorem couples_arguments {exprs : List Expr}
    (handled : ∀ name ∈ Expr.allVariables exprs, coupling.Handles name) :
    List.Forall₂ (fun expr expr' =>
      coupling.Couples (evalValue registry state expr) (evalValue registry state expr'))
      exprs exprs := by
  match exprs with
  | [] =>
      exact .nil
  | first :: rest =>
      have ⟨firstHandled, restHandled⟩ := List.forall_mem_append.1 handled
      exact .cons (couples_evalValue firstHandled) (couples_arguments restHandled)
termination_by structural exprs

theorem couples_evalCondition {condition : Condition}
    (handled : ∀ name ∈ condition.variables, coupling.Handles name) :
    coupling.Couples (evalCondition registry state condition)
      (evalCondition registry state condition) := by
  match condition with
  | .literal value =>
      exact .literal value
  | .compare op left right =>
      have ⟨leftHandled, rightHandled⟩ := List.forall_mem_append.1 handled
      exact .compare op (couples_evalValue leftHandled) (couples_evalValue rightHandled)
  | .logical op left right =>
      have ⟨leftHandled, rightHandled⟩ := List.forall_mem_append.1 handled
      exact .logical op (couples_evalCondition leftHandled) (couples_evalCondition rightHandled)
termination_by structural condition

theorem couples_evalAssignment {assignment : Assignment}
    (handled : ∀ name ∈ assignment.variables, coupling.Handles name) :
    coupling.Couples (evalAssignment registry state assignment)
      (evalAssignment registry state assignment) := by
  match assignment with
  | .assign name value =>
      have ⟨nameHandled, valueHandled⟩ := List.forall_mem_cons.1 handled
      exact .assignment (couples_evalValue valueHandled) fun number _ _ related =>
        nameHandled.assign number related
termination_by structural assignment

theorem couples_members {assignments : List Assignment}
    (handled : ∀ name ∈ Assignment.allVariables assignments, coupling.Handles name) :
    List.Forall₂ (fun item item' =>
      coupling.Couples (evalAssignment registry state item) (evalAssignment registry state item'))
      assignments assignments := by
  match assignments with
  | [] =>
      exact .nil
  | first :: rest =>
      have ⟨firstHandled, restHandled⟩ := List.forall_mem_append.1 handled
      exact .cons (couples_evalAssignment firstHandled) (couples_members restHandled)
termination_by structural assignments

end

end Rules

/-- The coupling of evaluations on variables that agree. -/
abbrev agreement (names : String → Prop) (before before' : Variables G) : Coupling G :=
  ofTables (Agree names before before')

theorem agree_members {names : String → Prop} {before before' : Variables G}
    {registry : Registry G} {state : G.State} {assignments : List Assignment}
    (covered : ∀ name ∈ Assignment.allVariables assignments, names name) :
    List.Forall₂ (fun item item' => (agreement names before before').Couples
      (evalAssignment registry state item) (evalAssignment registry state item'))
      assignments assignments :=
  couples_members fun name member => (Agree.shared (covered name member)).handles

end Coupling

/-- What two evaluations give is the same, the variables that they leave agree on
certain names, and under the others they hold what they held before. -/
structure Outcome.Agree {G : Game} (names : String → Prop) (before before' : Variables G)
    (outcome outcome' : Outcome G α) : Prop where
  result : outcome.result = outcome'.result
  tables : RewardFormula.Agree names before before' outcome.table outcome'.table

theorem Outcome.Agree.map {G : Game} {names : String → Prop} {before before' : Variables G}
    {outcome outcome' : Outcome G α} (f : α → β)
    (agree : Outcome.Agree names before before' outcome outcome') :
    Outcome.Agree names before before' (outcome.map f) (outcome'.map f) :=
  ⟨congrArg (Except.map f) agree.result, agree.tables⟩

section Formulas

variable {G : Game} (registry : Registry G) (state : G.State)

theorem agree_insert {formula : Formula} {name : String} (unmentioned : name ∉ formula.variables)
    (table : Variables G) (value : Value G) :
    ∀ wanted ∈ formula.variables, table.get? wanted = (table.insert name value).get? wanted := by
  intro wanted mentioned
  have other : wanted ≠ name := fun same => unmentioned (same ▸ mentioned)
  rw [NameMap.get?_insert, if_neg other]

/-- Names that assignments have created were not there at the start. -/
theorem absent_of_created (items : List Assignment) (table : Variables G) :
    ∀ name ∈ (evalAssignments registry state items (.start table)).2.created,
      table.get? name = none := by
  intro name created
  obtain ⟨new, recorded, fresh, -⟩ :=
    (Progress.creation G).evalAssignments registry state items (.start table)
  rw [recorded] at created
  have member : name ∈ new := by
    simpa [Progress.start] using created
  simpa [NameMap.contains, Progress.start] using (fresh name member).2

theorem evaluateWith_agree (retention : Retention) (formula : Formula)
    {table table' : Variables G}
    (agree : ∀ name ∈ formula.variables, table.get? name = table'.get? name) :
    Outcome.Agree (· ∈ formula.variables) table table'
      (evaluateWith registry state retention formula table)
      (evaluateWith registry state retention formula table') := by
  cases formula with
  | function name parameters body =>
      exact ⟨rfl, .start agree⟩
  | assignments items =>
      have coupled : (Coupling.agreement (· ∈ Assignment.allVariables items) table table').Couples
          (evalAssignments registry state items) (evalAssignments registry state items) :=
        .assignments (Coupling.agree_members fun _ member => member)
      have alike := coupled (.start (.start agree))
      simp only [evaluateWith]
      cases items.getLast? with
      | none =>
          exact ⟨rfl, .start agree⟩
      | some last =>
          refine ⟨?_, ?_⟩
          · simp only [alike.value, alike.stages.error]
          · cases retention with
            | retainCreated =>
                exact alike.stages.table
            | removeCreated =>
                have new := absent_of_created registry state items table
                have new' := absent_of_created registry state items table'
                rw [← alike.stages.created] at new'
                simp only [Progress.remaining, ← alike.stages.created]
                exact alike.stages.table.eraseAll new new'

/-- Variables that agree on what a formula mentions give the same outcome. They
agree on this again afterwards, and the others keep what they held. -/
theorem evaluation_agree (formula : Formula) {table table' : Variables G}
    (agree : ∀ name ∈ formula.variables, table.get? name = table'.get? name) :
    Outcome.Agree (· ∈ formula.variables) table table' (evaluate registry state formula table)
        (evaluate registry state formula table') ∧
      Outcome.Agree (· ∈ formula.variables) table table'
        (evaluateRetaining registry state formula table)
        (evaluateRetaining registry state formula table') ∧
      ∀ default, Outcome.Agree (· ∈ formula.variables) table table'
        (evaluateInt registry state formula table default)
        (evaluateInt registry state formula table' default) := by
  have removing := evaluateWith_agree registry state .removeCreated formula agree
  refine ⟨removing.map _, evaluateWith_agree registry state .retainCreated formula agree, ?_⟩
  intro default
  exact (removing.map _).map _

end Formulas

/-- A loop counts two players, whether or not there is a variable that it does
not mention. -/
theorem evaluation_agree_count :
    let formula : Formula :=
      .single "reward" (.loop "player" (.var "players") none
        [.assign "count" (.binary .add (.var "count") (.const 1))] "count")
    let table : Variables ⟨Unit, Unit, Unit⟩ :=
      .ofList [("count", .number 0), ("players", .players [(), ()])]
    let wider := table.insert "unused" (.number 7)
    (∀ name ∈ formula.variables, table.get? name = wider.get? name) ∧
      (evaluate Registry.empty () formula wider).result = .ok 2 ∧
      (evaluate Registry.empty () formula wider).table.get? "unused" = some (.number 7) := by
  refine ⟨agree_insert (by decide) _ _, ?_, ?_⟩
  · exact (evaluation_agree _ _ _ (agree_insert (by decide) _ _)).1.result.symm.trans rfl
  · exact (evaluation_agree _ _ _ (agree_insert (by decide) _ _)).1.tables.kept' (by decide)

end RewardFormula
