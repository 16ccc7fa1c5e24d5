import RewardFormula.Proofs.Evaluation.Context

/-!
# Renaming the variable of a loop

The variable of a loop is bound: under a new name the formula has the same
outcome. While the two loops run, their variables differ. What the one holds
under the old name, the other holds under the new one, and each keeps what the
other hides. Both names are put back in the end.
-/

namespace RewardFormula

def renamed (old new name : String) : String :=
  if name = old then new else name

mutual

/-- Renames a variable, except in the bodies of the loops that bind its name
again. -/
def Expr.rename (old new : String) : Expr → Expr
  | .const value => .const value
  | .var name => .var (renamed old new name)
  | .deref base field => .deref (base.rename old new) field
  | .unary op inner => .unary op (inner.rename old new)
  | .binary op left right => .binary op (left.rename old new) (right.rename old new)
  | .call name arguments => .call name (Expr.renameAll old new arguments)
  | .ternary condition accepted rejected =>
    .ternary (condition.rename old new) (accepted.rename old new) (rejected.rename old new)
  | .loop element base none body result =>
    .loop element (base.rename old new) none
      (if element = old then body else Assignment.renameAll old new body)
      (renamed old new result)
  | .loop element base (some exclusion) body result =>
    .loop element (base.rename old new) (some (exclusion.rename old new))
      (if element = old then body else Assignment.renameAll old new body)
      (renamed old new result)
termination_by structural expr => expr

def Expr.renameAll (old new : String) : List Expr → List Expr
  | [] => []
  | first :: rest => first.rename old new :: Expr.renameAll old new rest
termination_by structural exprs => exprs

def Condition.rename (old new : String) : Condition → Condition
  | .literal value => .literal value
  | .compare op left right => .compare op (left.rename old new) (right.rename old new)
  | .logical op left right => .logical op (left.rename old new) (right.rename old new)
termination_by structural condition => condition

def Assignment.rename (old new : String) : Assignment → Assignment
  | .assign name value => .assign (renamed old new name) (value.rename old new)
termination_by structural assignment => assignment

def Assignment.renameAll (old new : String) : List Assignment → List Assignment
  | [] => []
  | first :: rest => first.rename old new :: Assignment.renameAll old new rest
termination_by structural assignments => assignments

end

/-- What one table holds under the old name, the other holds under the new one.
The values that they hide under the other of the two names are given. -/
structure Moved {G : Game} (old new : String) (hidden hidden' : Option (Value G))
    (table table' : Variables G) : Prop where
  moved : table'.get? new = table.get? old
  hides : table.get? new = hidden
  hides' : table'.get? old = hidden'
  same {name : String} : name ≠ old → name ≠ new → table.get? name = table'.get? name

/-- In the body of the loop its variable is bound. -/
structure MovedBound {G : Game} (old new : String) (hidden hidden' : Option (Value G))
    (table table' : Variables G) : Prop extends Moved old new hidden hidden' table table' where
  bound : table.contains old = true

section Tables

variable {G : Game} {old new name : String} {hidden hidden' : Option (Value G)}
    {table table' : Variables G}

theorem Moved.shared (notOld : name ≠ old) (notNew : name ≠ new) :
    Coupling.Shared (Moved old new hidden hidden') name where
  same related := related.same notOld notNew
  change related changes changes' := by
    refine ⟨?_, ?_, ?_, ?_⟩
    · rw [changes', changes, if_neg notNew.symm, if_neg notOld.symm]
      exact related.moved
    · rw [changes, if_neg notNew.symm]
      exact related.hides
    · rw [changes', if_neg notOld.symm]
      exact related.hides'
    · intro other otherNotOld otherNotNew
      rw [changes', changes, related.same otherNotOld otherNotNew]

theorem MovedBound.shared (notOld : name ≠ old) (notNew : name ≠ new) :
    Coupling.Shared (MovedBound old new hidden hidden') name where
  same related := related.same notOld notNew
  change related changes changes' := by
    refine ⟨(Moved.shared notOld notNew).change related.toMoved changes changes', ?_⟩
    rw [NameMap.contains, changes, if_neg notOld.symm]
    exact related.bound

/-- A value is bound by the old name in one table and by the new one in the other. -/
theorem Moved.insert (different : old ≠ new) (value : Value G)
    (related : Moved old new hidden hidden' table table') :
    MovedBound old new hidden hidden' (table.insert old value) (table'.insert new value) := by
  refine ⟨⟨?_, ?_, ?_, ?_⟩, ?_⟩
  · simp [NameMap.get?_insert]
  · rw [NameMap.get?_insert, if_neg different.symm]
    exact related.hides
  · rw [NameMap.get?_insert, if_neg different]
    exact related.hides'
  · intro name notOld notNew
    rw [NameMap.get?_insert, NameMap.get?_insert, if_neg notOld, if_neg notNew]
    exact related.same notOld notNew
  · simp [NameMap.contains_insert]

/-- Without the old name the tables differ in the new one only. -/
theorem Moved.agree_erase (different : old ≠ new)
    (related : Moved old new hidden hidden' table table') :
    Agree (· ≠ new) table table' (table.erase old) (table'.erase old) := by
  refine ⟨?_, (KeepsOthers.refl table).change different (NameMap.get?_erase _ _),
    (KeepsOthers.refl table').change different (NameMap.get?_erase _ _)⟩
  intro name notNew
  rw [NameMap.get?_erase, NameMap.get?_erase]
  by_cases isOld : name = old
  · rw [if_pos isOld, if_pos isOld]
  · rw [if_neg isOld, if_neg isOld]
    exact related.same isOld notNew

/-- The old name is given back what it held before changes that leave the new
one alone. -/
theorem MovedBound.of_agree {ran ran' restored restored' : Variables G} (different : old ≠ new)
    (related : MovedBound old new hidden hidden' table table')
    (agree : Agree (· ≠ new) table table' ran ran')
    (restores : ∀ wanted,
      restored.get? wanted = if wanted = old then table.get? old else ran.get? wanted)
    (restores' : ∀ wanted,
      restored'.get? wanted = if wanted = old then table'.get? old else ran'.get? wanted) :
    MovedBound old new hidden hidden' restored restored' := by
  refine ⟨⟨?_, ?_, ?_, ?_⟩, ?_⟩
  · rw [restores', restores, if_pos rfl, if_neg different.symm, agree.kept' (not_not.2 rfl)]
    exact related.moved
  · rw [restores, if_neg different.symm, agree.kept (not_not.2 rfl)]
    exact related.hides
  · rw [restores', if_pos rfl]
    exact related.hides'
  · intro name notOld notNew
    rw [restores, restores', if_neg notOld, if_neg notOld]
    exact agree.same notNew
  · rw [NameMap.contains, restores, if_pos rfl]
    exact related.bound

/-- When both names are given back what they held, the tables hold the same. -/
theorem Moved.eq_of_restored {restored restored' : Variables G} (different : old ≠ new)
    (related : Moved old new hidden hidden' table table')
    (restores : ∀ wanted,
      restored.get? wanted = if wanted = old then hidden' else table.get? wanted)
    (restores' : ∀ wanted,
      restored'.get? wanted = if wanted = new then hidden else table'.get? wanted) :
    restored = restored' := by
  apply NameMap.ext
  intro name
  rw [restores, restores']
  by_cases isOld : name = old
  · rw [isOld, if_pos rfl, if_neg different]
    exact related.hides'.symm
  · by_cases isNew : name = new
    · rw [isNew, if_pos rfl, if_neg different.symm]
      exact related.hides
    · rw [if_neg isOld, if_neg isNew]
      exact related.same isOld isNew

end Tables

namespace Coupling

/-- The coupling of evaluations in the body of a loop and in the renamed one. -/
abbrev rebinding {G : Game} (old new : String) (hidden hidden' : Option (Value G)) : Coupling G :=
  ofTables (MovedBound old new hidden hidden')

variable {G : Game} {old new : String} {hidden hidden' : Option (Value G)}

section Steps

variable {first second : Progress G} {name : String}

theorem renamed_lookup (notNew : name ≠ new)
    (related : (rebinding old new hidden hidden').relates first second) :
    (rebinding old new hidden hidden').Alike (first.lookup name)
      (second.lookup (renamed old new name)) := by
  by_cases isOld : name = old
  -- The variable is bound in the body, so that no error tells its name.
  · obtain ⟨value, found⟩ := Option.isSome_iff_exists.1 related.table.bound
    simp only [isOld, renamed, if_true, Progress.lookup, related.table.moved, found]
    exact .of_relates related (some value)
  · rw [renamed, if_neg isOld]
    exact (MovedBound.shared isOld notNew).lookup related

theorem renamed_assign (different : old ≠ new) (notNew : name ≠ new) (value : Float)
    (related : (rebinding old new hidden hidden').relates first second) :
    (rebinding old new hidden hidden').relates (first.assign name value)
      (second.assign (renamed old new name) value) := by
  by_cases isOld : name = old
  -- An assignment to the variable creates no name in either evaluation.
  · rw [isOld, renamed, if_pos rfl]
    apply Beside.assign related
    · simp only [NameMap.contains, related.table.moved]
    · exact .inr related.table.bound
    · exact related.table.toMoved.insert different _
  · rw [renamed, if_neg isOld]
    exact (MovedBound.shared isOld notNew).assign value related

end Steps

section Rules

variable {registry : Registry G} {state : G.State}

/-- A loop that binds the old name again. It runs in the same way, for its body
does not mention the new name and keeps what this holds. -/
theorem rebinding_afterLoop_old {body : List Assignment} {first second : Progress G}
    (different : old ≠ new) (free : ∀ name ∈ Assignment.allVariables body, name ≠ new)
    (isExcluded : Value G → Bool) (elements : List (Value G))
    (related : (rebinding old new hidden hidden').relates first second) :
    (rebinding old new hidden hidden').relates
      (first.afterLoop old isExcluded (runBody registry state body) elements)
      (second.afterLoop old isExcluded (runBody registry state body) elements) := by
  have erased : (agreement (· ≠ new) first.table second.table).relates
      { first with table := first.table.erase old }
      { second with table := second.table.erase old } :=
    ⟨related.error, related.created, related.table.agree_erase different⟩
  have iterated : (agreement (· ≠ new) first.table second.table).relates
      (Progress.iterate old isExcluded (runBody registry state body) elements
        { first with table := first.table.erase old })
      (Progress.iterate old isExcluded (runBody registry state body) elements
        { second with table := second.table.erase old }) := by
    have shared : Shared (Agree (· ≠ new) first.table second.table) old := Agree.shared different
    apply relates_iterate _ elements erased
    intro item first second related
    exact Couples.body (agree_members free) (shared.bind item related)
  refine ⟨iterated.error, iterated.created, ?_⟩
  exact related.table.of_agree different iterated.table (Progress.get?_restore _ _ _)
    (Progress.get?_restore _ _ _)

/-- A loop over any name in the body, renamed unless it binds the old name. -/
theorem rebinding_runLoop {element result : String} {body : List Assignment} (different : old ≠ new)
    (elementFree : element ≠ new) (resultFree : result ≠ new)
    (bodyFree : ∀ name ∈ Assignment.allVariables body, name ≠ new)
    (members : List.Forall₂ (fun item item' => (rebinding old new hidden hidden').Couples
      (evalAssignment registry state item) (evalAssignment registry state item'))
      body (Assignment.renameAll old new body))
    (isExcluded : Value G → Bool) (elements : List (Value G)) :
    (rebinding old new hidden hidden').Couples
      (Progress.runLoop element isExcluded (runBody registry state body) result elements)
      (Progress.runLoop element isExcluded (runBody registry state
        (if element = old then body else Assignment.renameAll old new body))
        (renamed old new result) elements) := by
  apply Couples.runLoop
  · intro first second related
    by_cases isOld : element = old
    · rw [if_pos isOld, isOld]
      exact rebinding_afterLoop_old different bodyFree isExcluded elements related
    · rw [if_neg isOld]
      apply (MovedBound.shared isOld elementFree).afterLoop _ isExcluded elements related
      intro first second related
      exact Couples.body members related
  · intro first second related
    exact renamed_lookup resultFree related

mutual

theorem renamed_evalValue {expr : Expr} (different : old ≠ new)
    (free : ∀ name ∈ expr.variables, name ≠ new) :
    (rebinding old new hidden hidden').Couples (evalValue registry state expr)
      (evalValue registry state (expr.rename old new)) := by
  match expr with
  | .const value =>
      exact .constant value
  | .var name =>
      intro first second related
      exact renamed_lookup (free name (by simp [Expr.variables])) related
  | .deref base field =>
      exact .deref field (renamed_evalValue different free)
  | .unary op inner =>
      exact .unary op (renamed_evalValue different free)
  | .binary op left right =>
      have ⟨leftFree, rightFree⟩ := List.forall_mem_append.1 free
      exact .binary op (renamed_evalValue different leftFree)
        (renamed_evalValue different rightFree)
  | .call name arguments =>
      exact .call name (renamed_arguments different free)
  | .ternary condition accepted rejected =>
      have ⟨testFree, branchesFree⟩ := List.forall_mem_append.1 free
      have ⟨acceptedFree, rejectedFree⟩ := List.forall_mem_append.1 branchesFree
      exact .ternary (renamed_evalCondition different testFree)
        (renamed_evalValue different acceptedFree) (renamed_evalValue different rejectedFree)
  | .loop element base none body result =>
      have ⟨elementFree, free⟩ := List.forall_mem_cons.1 free
      have ⟨resultFree, free⟩ := List.forall_mem_cons.1 free
      have ⟨baseFree, bodyFree⟩ := List.forall_mem_append.1 free
      exact .loop (renamed_evalValue different baseFree)
        (rebinding_runLoop different elementFree resultFree bodyFree
          (renamed_members different bodyFree))
  | .loop element base (some exclusion) body result =>
      have ⟨elementFree, free⟩ := List.forall_mem_cons.1 free
      have ⟨resultFree, free⟩ := List.forall_mem_cons.1 free
      have ⟨baseFree, free⟩ := List.forall_mem_append.1 free
      have ⟨exclusionFree, bodyFree⟩ := List.forall_mem_append.1 free
      exact .loopExcluding (renamed_evalValue different baseFree)
        (renamed_evalValue different exclusionFree)
        (rebinding_runLoop different elementFree resultFree bodyFree
          (renamed_members different bodyFree))
termination_by structural expr

theorem renamed_arguments {exprs : List Expr} (different : old ≠ new)
    (free : ∀ name ∈ Expr.allVariables exprs, name ≠ new) :
    List.Forall₂ (fun expr expr' => (rebinding old new hidden hidden').Couples
      (evalValue registry state expr) (evalValue registry state expr'))
      exprs (Expr.renameAll old new exprs) := by
  match exprs with
  | [] =>
      exact .nil
  | first :: rest =>
      have ⟨firstFree, restFree⟩ := List.forall_mem_append.1 free
      exact .cons (renamed_evalValue different firstFree) (renamed_arguments different restFree)
termination_by structural exprs

theorem renamed_evalCondition {condition : Condition} (different : old ≠ new)
    (free : ∀ name ∈ condition.variables, name ≠ new) :
    (rebinding old new hidden hidden').Couples (evalCondition registry state condition)
      (evalCondition registry state (condition.rename old new)) := by
  match condition with
  | .literal value =>
      exact .literal value
  | .compare op left right =>
      have ⟨leftFree, rightFree⟩ := List.forall_mem_append.1 free
      exact .compare op (renamed_evalValue different leftFree)
        (renamed_evalValue different rightFree)
  | .logical op left right =>
      have ⟨leftFree, rightFree⟩ := List.forall_mem_append.1 free
      exact .logical op (renamed_evalCondition different leftFree)
        (renamed_evalCondition different rightFree)
termination_by structural condition

theorem renamed_evalAssignment {assignment : Assignment} (different : old ≠ new)
    (free : ∀ name ∈ assignment.variables, name ≠ new) :
    (rebinding old new hidden hidden').Couples (evalAssignment registry state assignment)
      (evalAssignment registry state (assignment.rename old new)) := by
  match assignment with
  | .assign name value =>
      have ⟨nameFree, valueFree⟩ := List.forall_mem_cons.1 free
      exact .assignment (renamed_evalValue different valueFree) fun number _ _ related =>
        renamed_assign different nameFree number related
termination_by structural assignment

theorem renamed_members {assignments : List Assignment} (different : old ≠ new)
    (free : ∀ name ∈ Assignment.allVariables assignments, name ≠ new) :
    List.Forall₂ (fun item item' => (rebinding old new hidden hidden').Couples
      (evalAssignment registry state item) (evalAssignment registry state item'))
      assignments (Assignment.renameAll old new assignments) := by
  match assignments with
  | [] =>
      exact .nil
  | first :: rest =>
      have ⟨firstFree, restFree⟩ := List.forall_mem_append.1 free
      exact .cons (renamed_evalAssignment different firstFree) (renamed_members different restFree)
termination_by structural assignments

end

/-- A loop and the renamed one put back what they hide. So they have changed the
variables in the same way when they are done. -/
theorem afterLoop_rename {body : List Assignment} (different : old ≠ new)
    (free : ∀ name ∈ Assignment.allVariables body, name ≠ new) (isExcluded : Value G → Bool)
    (elements : List (Value G)) (progress : Progress G) :
    progress.afterLoop old isExcluded (runBody registry state body) elements =
      progress.afterLoop new isExcluded
        (runBody registry state (Assignment.renameAll old new body)) elements := by
  have erased :
      (ofTables (Moved old new (progress.table.get? new) (progress.table.get? old))).relates
      { progress with table := progress.table.erase old }
      { progress with table := progress.table.erase new } := by
    refine ⟨rfl, rfl, ?_, ?_, ?_, ?_⟩
    · simp [NameMap.get?_erase]
    · rw [NameMap.get?_erase, if_neg different.symm]
    · rw [NameMap.get?_erase, if_neg different]
    · intro name notOld notNew
      rw [NameMap.get?_erase, NameMap.get?_erase, if_neg notOld, if_neg notNew]
  have iterated : (ofTables (Moved old new (progress.table.get? new)
      (progress.table.get? old))).relates
      (Progress.iterate old isExcluded (runBody registry state body) elements
        { progress with table := progress.table.erase old })
      (Progress.iterate new isExcluded
        (runBody registry state (Assignment.renameAll old new body)) elements
        { progress with table := progress.table.erase new }) := by
    apply relates_iterate _ elements erased
    intro item first second related
    have bound : (rebinding old new (progress.table.get? new) (progress.table.get? old)).relates
        (first.bind old item) (second.bind new item) :=
      ⟨related.error, related.created, related.table.insert different item⟩
    have ran : (rebinding old new (progress.table.get? new) (progress.table.get? old)).relates
        (runBody registry state body (first.bind old item))
        (runBody registry state (Assignment.renameAll old new body) (second.bind new item)) :=
      Couples.body (renamed_members different free) bound
    exact ⟨ran.error, ran.created, ran.table.toMoved⟩
  apply Beside.eq
  refine ⟨iterated.error, iterated.created, ?_⟩
  exact iterated.table.eq_of_restored different (Progress.get?_restore _ _ _)
    (Progress.get?_restore _ _ _)

/-- A loop has the same value if its variable is renamed in its body, by a name
that is new to both. -/
theorem evalValue_rename {element fresh : String} {body : List Assignment}
    (different : element ≠ fresh) (free : ∀ name ∈ Assignment.allVariables body, name ≠ fresh)
    (base : Expr) (exclusion : Option Expr) (result : String) :
    evalValue registry state (.loop element base exclusion body result) =
      evalValue registry state
        (.loop fresh base exclusion (Assignment.renameAll element fresh body) result) := by
  funext progress
  cases exclusion <;>
    simp only [evalValue, Progress.runLoop_eq, afterLoop_rename different free]

end Rules

end Coupling

/-- In both modes a formula has the same outcome if the variable of one of its
loops gets a name that does not occur in it. -/
theorem evaluation_rename {G : Game} (registry : Registry G) (state : G.State)
    (context : FormulaContext) (element fresh : String) (base : Expr) (exclusion : Option Expr)
    (body : List Assignment) (result : String) (table : Variables G)
    (new : fresh ∉ (context.fill (.loop element base exclusion body result)).variables) :
    let formula := context.fill (.loop element base exclusion body result)
    let formula' :=
      context.fill (.loop fresh base exclusion (Assignment.renameAll element fresh body) result)
    evaluate registry state formula table = evaluate registry state formula' table ∧
      evaluateRetaining registry state formula table =
        evaluateRetaining registry state formula' table ∧
      ∀ default, evaluateInt registry state formula table default =
        evaluateInt registry state formula' table default := by
  have free : ∀ name ∈ (Expr.loop element base exclusion body result).variables, name ≠ fresh := by
    intro name member same
    exact new (context.mem_variables (same ▸ member))
  have elementFree : element ≠ fresh := by
    apply free
    cases exclusion <;> simp [Expr.variables]
  have bodyFree : ∀ name ∈ Assignment.allVariables body, name ≠ fresh := by
    intro name member
    apply free
    cases exclusion <;> simp [Expr.variables, member]
  have same : ∀ retention, evaluateWith registry state retention
      (context.fill (.loop element base exclusion body result)) table =
        evaluateWith registry state retention (context.fill
          (.loop fresh base exclusion (Assignment.renameAll element fresh body) result)) table := by
    intro retention
    apply context.evaluateWith_fill
    exact Coupling.evalValue_rename elementFree bodyFree base exclusion result
  have removing := same .removeCreated
  refine ⟨?_, same .retainCreated, ?_⟩
  · simp only [evaluate, removing]
  · intro default
    simp only [evaluateInt, evaluate, removing]

/-- A loop that assigns to its variable, under two names that both hold a number
before. -/
theorem evaluation_rename_assigned :
    let formula (element : String) : Formula :=
      .single "reward" (.loop element (.var "players") none
        [.assign "count" (.binary .add (.var "count") (.const 1)),
          .assign element (.var "count")] "count")
    let table : Variables ⟨Unit, Unit, Unit⟩ :=
      .ofList [("count", .number 0), ("p", .number 5), ("players", .players [(), ()]),
        ("q", .number 7)]
    "q" ∉ (formula "p").variables ∧
      evaluateRetaining Registry.empty () (formula "p") table =
        evaluateRetaining Registry.empty () (formula "q") table ∧
      (evaluate Registry.empty () (formula "q") table).result = .ok 2 := by
  have same := fun table : Variables ⟨Unit, Unit, Unit⟩ =>
    evaluation_rename Registry.empty () (.assignments [] "reward" .hole []) "p" "q"
      (.var "players") none
      [.assign "count" (.binary .add (.var "count") (.const 1)), .assign "p" (.var "count")]
      "count" table (by decide)
  refine ⟨by decide, (same _).2.1, ?_⟩
  exact (congrArg Outcome.result (same _).1).symm.trans rfl

end RewardFormula
