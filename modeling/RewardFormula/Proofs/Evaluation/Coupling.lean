import Mathlib.Data.List.Forall2
import RewardFormula.Proofs.Evaluation.Laws

/-!
# Evaluations side by side

Two evaluations are compared stage by stage. If a relation between their stages
holds over the parts of an expression, and the parts have the same values, then
this is so for the whole.
-/

namespace RewardFormula

/-- A relation between the stages of two evaluations that still holds when both
report the same error. -/
structure Coupling (G : Game) where
  relates : Progress G → Progress G → Prop
  report {first second : Progress G} (error : EvalError) :
    relates first second → relates (first.report error) (second.report error)

namespace Coupling

variable {G : Game} (coupling : Coupling G)

/-- Two evaluations have found the same and are at related stages. -/
structure Alike (first second : α × Progress G) : Prop where
  value : first.1 = second.1
  stages : coupling.relates first.2 second.2

/-- Two runs from related stages find the same and end at related stages. -/
def Couples (run run' : Progress G → α × Progress G) : Prop :=
  ∀ ⦃first second⦄, coupling.relates first second → coupling.Alike (run first) (run' second)

section Demands

variable {coupling} {α β : Type}

/-- What is done with what two evaluations have found. -/
theorem Alike.step {step : α × Progress G → β × Progress G} {outcome outcome' : α × Progress G}
    (alike : coupling.Alike outcome outcome')
    (steps : ∀ value first second, coupling.relates first second →
      coupling.Alike (step (value, first)) (step (value, second))) :
    coupling.Alike (step outcome) (step outcome') := by
  obtain ⟨value, first⟩ := outcome
  obtain ⟨value', second⟩ := outcome'
  obtain rfl : value = value' := alike.value
  exact steps value first second alike.stages

theorem Alike.of_relates {first second : Progress G} (related : coupling.relates first second)
    (value : α) : coupling.Alike (value, first) (value, second) :=
  ⟨rfl, related⟩

theorem Alike.reported {first second : Progress G} (related : coupling.relates first second)
    (value : α) (error : EvalError) :
    coupling.Alike (value, first.report error) (value, second.report error) :=
  ⟨rfl, coupling.report error related⟩

variable {outcome outcome' : Option (Value G) × Progress G}

theorem Alike.number (alike : coupling.Alike outcome outcome') :
    coupling.Alike (Progress.number outcome) (Progress.number outcome') := by
  apply alike.step
  intro found first second related
  cases found with
  | none =>
      exact .of_relates related 0
  | some value =>
      cases value with
      | number value =>
          exact .of_relates related value
      | _ =>
          exact .reported related 0 _

theorem Alike.list (alike : coupling.Alike outcome outcome') :
    coupling.Alike (Progress.list outcome) (Progress.list outcome') := by
  apply alike.step
  intro found first second related
  cases found with
  | none =>
      exact .of_relates related none
  | some value =>
      simp only [Progress.list]
      cases value.elements? with
      | some elements =>
          exact .of_relates related (some (value.type, elements))
      | none =>
          exact .reported related none _

theorem Alike.exclusion (listType : ValueType) (alike : coupling.Alike outcome outcome') :
    coupling.Alike (Progress.exclusion listType outcome)
      (Progress.exclusion listType outcome') := by
  apply alike.step
  intro found first second related
  cases found with
  | none =>
      exact .of_relates related none
  | some value =>
      simp only [Progress.exclusion]
      split
      · exact .of_relates related (some value)
      · exact .reported related none _

theorem Alike.property (registry : Registry G) (state : G.State) (field : String)
    (alike : coupling.Alike outcome outcome') :
    coupling.Alike (property registry state field outcome)
      (property registry state field outcome') := by
  apply alike.step
  intro found first second related
  cases found with
  | none =>
      exact .of_relates related none
  | some value =>
      simp only [RewardFormula.property]
      cases registry.dereference? state value field with
      | some value =>
          exact .of_relates related (some value)
      | none =>
          exact .reported related none _

theorem Alike.callFunction (name : String) (arity : Nat)
    {outcome outcome' : List Float × Progress G} (alike : coupling.Alike outcome outcome') :
    coupling.Alike (callFunction name arity outcome) (callFunction name arity outcome') := by
  apply alike.step
  intro arguments first second related
  simp only [RewardFormula.callFunction]
  cases Function.call? name arguments with
  | some value =>
      exact .of_relates related value
  | none =>
      exact .reported related 0 _

theorem Alike.asValue {outcome outcome' : Float × Progress G}
    (alike : coupling.Alike outcome outcome') :
    coupling.Alike (asValue outcome) (asValue outcome') :=
  ⟨congrArg (some ∘ Value.number) alike.value, alike.stages⟩

/-- Both find the variable, or both miss it under one name. -/
theorem Alike.lookup {first second : Progress G} (related : coupling.relates first second)
    {name : String} (same : first.table.get? name = second.table.get? name) :
    coupling.Alike (first.lookup name) (second.lookup name) := by
  simp only [Progress.lookup, ← same]
  cases first.table.get? name with
  | some value =>
      exact .of_relates related (some value)
  | none =>
      exact .reported related none _

end Demands

section Rules

variable {coupling} {registry : Registry G} {state : G.State}

theorem Couples.constant (value : Float) :
    coupling.Couples (evalValue registry state (.const value))
      (evalValue registry state (.const value)) := by
  intro first second related
  exact .of_relates related (some (Value.number value))

theorem Couples.deref {base base' : Expr} (field : String)
    (bases : coupling.Couples (evalValue registry state base) (evalValue registry state base')) :
    coupling.Couples (evalValue registry state (.deref base field))
      (evalValue registry state (.deref base' field)) := by
  intro first second related
  exact (bases related).property registry state field

theorem Couples.unary {inner inner' : Expr} (op : UnaryOp)
    (inners : coupling.Couples (evalValue registry state inner)
      (evalValue registry state inner')) :
    coupling.Couples (evalValue registry state (.unary op inner))
      (evalValue registry state (.unary op inner')) := by
  intro first second related
  have operand := (inners related).number
  have applied : coupling.Alike (op.apply _, _) (op.apply _, _) :=
    ⟨congrArg op.apply operand.value, operand.stages⟩
  exact applied.asValue

theorem Couples.binary {left left' right right' : Expr} (op : BinaryOp)
    (lefts : coupling.Couples (evalValue registry state left) (evalValue registry state left'))
    (rights : coupling.Couples (evalValue registry state right)
      (evalValue registry state right')) :
    coupling.Couples (evalValue registry state (.binary op left right))
      (evalValue registry state (.binary op left' right')) := by
  intro first second related
  have former := (lefts related).number
  have latter := (rights former.stages).number
  have applied : coupling.Alike (op.apply _ _, _) (op.apply _ _, _) :=
    ⟨congrArg₂ op.apply former.value latter.value, latter.stages⟩
  exact applied.asValue

theorem Couples.numbers {exprs exprs' : List Expr}
    (members : List.Forall₂ (fun expr expr' =>
      coupling.Couples (evalValue registry state expr) (evalValue registry state expr'))
      exprs exprs') :
    coupling.Couples (evalNumbers registry state exprs) (evalNumbers registry state exprs') := by
  induction members with
  | nil =>
      intro first second related
      exact .of_relates related []
  | cons heads tails inductionHypothesis =>
      intro first second related
      have head := (heads related).number
      have tail := inductionHypothesis head.stages
      exact ⟨congrArg₂ List.cons head.value tail.value, tail.stages⟩

theorem Couples.call {arguments arguments' : List Expr} (name : String)
    (members : List.Forall₂ (fun expr expr' =>
      coupling.Couples (evalValue registry state expr) (evalValue registry state expr'))
      arguments arguments') :
    coupling.Couples (evalValue registry state (.call name arguments))
      (evalValue registry state (.call name arguments')) := by
  intro first second related
  have called := (Couples.numbers members related).callFunction name arguments.length
  have same := members.length_eq
  simp only [evalValue, ← same]
  exact called.asValue

theorem Couples.ternary {test test' : Condition} {accepted accepted' rejected rejected' : Expr}
    (tests : coupling.Couples (evalCondition registry state test)
      (evalCondition registry state test'))
    (ifAccepted : coupling.Couples (evalValue registry state accepted)
      (evalValue registry state accepted'))
    (ifRejected : coupling.Couples (evalValue registry state rejected)
      (evalValue registry state rejected')) :
    coupling.Couples (evalValue registry state (.ternary test accepted rejected))
      (evalValue registry state (.ternary test' accepted' rejected')) := by
  intro first second related
  have tested := tests related
  simp only [evalValue, tested.value]
  split
  · exact (ifAccepted tested.stages).number.asValue
  · exact (ifRejected tested.stages).number.asValue

theorem Couples.literal (value : Bool) :
    coupling.Couples (evalCondition registry state (.literal value))
      (evalCondition registry state (.literal value)) := by
  intro first second related
  exact .of_relates related value

theorem Couples.compare {left left' right right' : Expr} (op : Comparison)
    (lefts : coupling.Couples (evalValue registry state left) (evalValue registry state left'))
    (rights : coupling.Couples (evalValue registry state right)
      (evalValue registry state right')) :
    coupling.Couples (evalCondition registry state (.compare op left right))
      (evalCondition registry state (.compare op left' right')) := by
  intro first second related
  have former := (lefts related).number
  have latter := (rights former.stages).number
  exact ⟨congrArg₂ op.holds former.value latter.value, latter.stages⟩

theorem Couples.logical {left left' right right' : Condition} (op : LogicalOp)
    (lefts : coupling.Couples (evalCondition registry state left)
      (evalCondition registry state left'))
    (rights : coupling.Couples (evalCondition registry state right)
      (evalCondition registry state right')) :
    coupling.Couples (evalCondition registry state (.logical op left right))
      (evalCondition registry state (.logical op left' right')) := by
  intro first second related
  have former := lefts related
  have latter := rights former.stages
  exact ⟨congrArg₂ op.apply former.value latter.value, latter.stages⟩

theorem Couples.assignment {value value' : Expr} {name name' : String}
    (values : coupling.Couples (evalValue registry state value) (evalValue registry state value'))
    (assigns : ∀ number first second, coupling.relates first second →
      coupling.relates (first.assign name number) (second.assign name' number)) :
    coupling.Couples (evalAssignment registry state (.assign name value))
      (evalAssignment registry state (.assign name' value')) := by
  intro first second related
  have assigned := (values related).number
  refine ⟨assigned.value, ?_⟩
  simp only [evalAssignment, assigned.value]
  exact assigns _ _ _ assigned.stages

theorem Couples.body {items items' : List Assignment}
    (members : List.Forall₂ (fun item item' =>
      coupling.Couples (evalAssignment registry state item) (evalAssignment registry state item'))
      items items')
    {first second : Progress G} (related : coupling.relates first second) :
    coupling.relates (runBody registry state items first)
      (runBody registry state items' second) := by
  induction members generalizing first second with
  | nil =>
      exact related
  | cons heads tails inductionHypothesis =>
      exact inductionHypothesis (heads related).stages

theorem Couples.assignments {items items' : List Assignment}
    (members : List.Forall₂ (fun item item' =>
      coupling.Couples (evalAssignment registry state item) (evalAssignment registry state item'))
      items items') :
    coupling.Couples (evalAssignments registry state items)
      (evalAssignments registry state items') := by
  have folds : ∀ outcome outcome' : Float × Progress G, coupling.Alike outcome outcome' →
      coupling.Alike
        (items.foldl (fun last item => evalAssignment registry state item last.2) outcome)
        (items'.foldl (fun last item => evalAssignment registry state item last.2) outcome') := by
    induction members with
    | nil =>
        intro outcome outcome' alike
        exact alike
    | cons heads tails inductionHypothesis =>
        intro outcome outcome' alike
        exact inductionHypothesis _ _ (heads alike.stages)
  intro first second related
  exact folds _ _ (.of_relates related 0)

theorem relates_iterate {element element' : String} {isExcluded : Value G → Bool}
    {body body' : Progress G → Progress G}
    (runs : ∀ item first second, coupling.relates first second →
      coupling.relates (body (first.bind element item)) (body' (second.bind element' item)))
    (elements : List (Value G)) {first second : Progress G}
    (related : coupling.relates first second) :
    coupling.relates (Progress.iterate element isExcluded body elements first)
      (Progress.iterate element' isExcluded body' elements second) := by
  unfold Progress.iterate
  induction elements generalizing first second with
  | nil =>
      exact related
  | cons item elements inductionHypothesis =>
      simp only [List.foldl_cons]
      apply inductionHypothesis
      split
      · exact related
      · exact runs item first second related

/-- Two loops find the same if their bodies, and what they do with their
variables, keep the stages related. -/
theorem Couples.runLoop {element element' result result' : String} {isExcluded : Value G → Bool}
    {body body' : Progress G → Progress G} {elements : List (Value G)}
    (runs : ∀ first second, coupling.relates first second →
      coupling.relates (first.afterLoop element isExcluded body elements)
        (second.afterLoop element' isExcluded body' elements))
    (results : coupling.Couples (Progress.lookup · result) (Progress.lookup · result')) :
    coupling.Couples (Progress.runLoop element isExcluded body result elements)
      (Progress.runLoop element' isExcluded body' result' elements) := by
  intro first second related
  exact (results (runs first second related)).number

theorem Couples.loop {element element' result result' : String} {base base' : Expr}
    {body body' : List Assignment}
    (bases : coupling.Couples (evalValue registry state base) (evalValue registry state base'))
    (runs : ∀ isExcluded elements, coupling.Couples
      (Progress.runLoop element isExcluded (runBody registry state body) result elements)
      (Progress.runLoop element' isExcluded (runBody registry state body') result' elements)) :
    coupling.Couples (evalValue registry state (.loop element base none body result))
      (evalValue registry state (.loop element' base' none body' result')) := by
  intro first second related
  have listed := (bases related).list
  simp only [evalValue, ← listed.value]
  split
  · exact (Alike.of_relates listed.stages 0).asValue
  · exact (runs _ _ listed.stages).asValue

theorem Couples.loopExcluding {element element' result result' : String}
    {base base' exclusion exclusion' : Expr} {body body' : List Assignment}
    (bases : coupling.Couples (evalValue registry state base) (evalValue registry state base'))
    (exclusions : coupling.Couples (evalValue registry state exclusion)
      (evalValue registry state exclusion'))
    (runs : ∀ isExcluded elements, coupling.Couples
      (Progress.runLoop element isExcluded (runBody registry state body) result elements)
      (Progress.runLoop element' isExcluded (runBody registry state body') result' elements)) :
    coupling.Couples (evalValue registry state (.loop element base (some exclusion) body result))
      (evalValue registry state (.loop element' base' (some exclusion') body' result')) := by
  intro first second related
  have listed := (bases related).list
  simp only [evalValue, ← listed.value]
  split
  · exact (Alike.of_relates listed.stages 0).asValue
  next listType elements found =>
    have excluded := (exclusions listed.stages).exclusion listType
    simp only [← excluded.value]
    split
    · exact (Alike.of_relates excluded.stages 0).asValue
    · exact (runs _ _ excluded.stages).asValue

end Rules

/-- Two stages with the same error and created names, whose variables are related. -/
structure Beside (tables : Variables G → Variables G → Prop) (first second : Progress G) :
    Prop where
  error : first.error? = second.error?
  created : first.created = second.created
  table : tables first.table second.table

namespace Beside

variable {tables : Variables G → Variables G → Prop} {first second : Progress G}

theorem start {table table' : Variables G} (related : tables table table') :
    Beside tables (.start table) (.start table') :=
  ⟨rfl, rfl, related⟩

theorem report (error : EvalError) (beside : Beside tables first second) :
    Beside tables (first.report error) (second.report error) := by
  unfold Progress.report
  rw [← beside.error]
  split
  · exact ⟨rfl, beside.created, beside.table⟩
  · exact beside

theorem assign {name name' : String} {value : Float} (beside : Beside tables first second)
    (sameHold : first.table.contains name = second.table.contains name')
    (sameName : name = name' ∨ first.table.contains name = true)
    (inserted : tables (first.table.insert name (.number value))
      (second.table.insert name' (.number value))) :
    Beside tables (first.assign name value) (second.assign name' value) := by
  refine ⟨beside.error, ?_, inserted⟩
  simp only [Progress.assign, ← sameHold, beside.created]
  rcases sameName with same | present
  · rw [same]
  · rw [if_pos present, if_pos present]

theorem eq (beside : Beside Eq first second) : first = second := by
  cases first
  cases second
  cases beside.error
  cases beside.created
  cases beside.table
  rfl

end Beside

/-- The coupling of evaluations that differ in the variables only. -/
def ofTables (tables : Variables G → Variables G → Prop) : Coupling G where
  relates := Beside tables
  report error beside := beside.report error

/-- A name that related variables share. They hold the same under it, and remain
related when this is changed in both. -/
structure Shared (tables : Variables G → Variables G → Prop) (name : String) : Prop where
  same {table table' : Variables G} : tables table table' → table.get? name = table'.get? name
  change {table table' changed changed' : Variables G} {value : Option (Value G)} :
    tables table table' →
    (∀ wanted, changed.get? wanted = if wanted = name then value else table.get? wanted) →
    (∀ wanted, changed'.get? wanted = if wanted = name then value else table'.get? wanted) →
      tables changed changed'

namespace Shared

variable {tables : Variables G → Variables G → Prop} {name : String}
    {first second : Progress G} (shared : Shared tables name)

include shared

theorem lookup (related : (ofTables tables).relates first second) :
    (ofTables tables).Alike (first.lookup name) (second.lookup name) :=
  .lookup related (shared.same related.table)

theorem assign (value : Float) (related : (ofTables tables).relates first second) :
    (ofTables tables).relates (first.assign name value) (second.assign name value) := by
  apply Beside.assign related
  · simp only [NameMap.contains, shared.same related.table]
  · exact .inl rfl
  · exact shared.change related.table (NameMap.get?_insert _ _ _) (NameMap.get?_insert _ _ _)

theorem bind (value : Value G) (related : (ofTables tables).relates first second) :
    (ofTables tables).relates (first.bind name value) (second.bind name value) :=
  ⟨related.error, related.created,
    shared.change related.table (NameMap.get?_insert _ _ _) (NameMap.get?_insert _ _ _)⟩

theorem erase (related : (ofTables tables).relates first second) :
    (ofTables tables).relates { first with table := first.table.erase name }
      { second with table := second.table.erase name } :=
  ⟨related.error, related.created,
    shared.change related.table (NameMap.get?_erase _ _) (NameMap.get?_erase _ _)⟩

theorem restore (previous : Option (Value G)) (related : (ofTables tables).relates first second) :
    (ofTables tables).relates (first.restore name previous) (second.restore name previous) :=
  ⟨related.error, related.created,
    shared.change related.table (Progress.get?_restore _ _ _) (Progress.get?_restore _ _ _)⟩

/-- A loop over a shared name keeps the stages related if its runs do. -/
theorem afterLoop {body body' : Progress G → Progress G}
    (runs : ∀ first second, (ofTables tables).relates first second →
      (ofTables tables).relates (body first) (body' second))
    (isExcluded : Value G → Bool) (elements : List (Value G))
    (related : (ofTables tables).relates first second) :
    (ofTables tables).relates (first.afterLoop name isExcluded body elements)
      (second.afterLoop name isExcluded body' elements) := by
  unfold Progress.afterLoop
  rw [← shared.same related.table]
  apply shared.restore
  apply relates_iterate
  · intro item first second related
    exact runs _ _ (shared.bind item related)
  · exact shared.erase related

end Shared

end Coupling

end RewardFormula
