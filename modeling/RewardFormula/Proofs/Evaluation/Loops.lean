import RewardFormula.Proofs.Evaluation.Sequence

/-!
# What loops go over

The elements of a loop are found before its body runs for the first time, and the body
runs once for each of them that is not left out. Whatever it assigns, it changes neither
the elements that are still to come nor the value that the variable of the loop had
before. A loop whose elements are not found only reports why.
-/

namespace RewardFormula

variable {G : Game}

namespace Progress

/-- From one stage to the next, only what is held under a name may change. -/
structure Rebinds (name : String) (value? : Option (Value G)) (before after : Progress G) :
    Prop where
  held : after.table.get? name = value?
  others : ∀ other, other ≠ name → after.table.get? other = before.table.get? other
  created : after.created = before.created
  error : after.error? = before.error?

/-- The body runs once for each of the items, in their order. In front of each run the
variable of the loop is bound to the item, and all else is as the last run left it. -/
inductive Runs (element : String) (body : Progress G → Progress G) :
    List (Value G) → Progress G → Progress G → Prop
  | done {progress : Progress G} : Runs element body [] progress progress
  | next {item : Value G} {items : List (Value G)} {before entry final : Progress G} :
      Rebinds element (some item) before entry → Runs element body items (body entry) final →
        Runs element body (item :: items) before final

/-- The value of a loop is what the variable `result` holds, if that is a number. -/
inductive Yields (result : String) (progress : Progress G) : Option (Value G) × Progress G → Prop
  | number {value : Float} : progress.table.get? result = some (.number value) →
      Yields result progress (some (.number value), progress)
  | notANumber {value : Value G} : progress.table.get? result = some value →
      value.number? = none →
        Yields result progress (some (.number 0), progress.report (.notANumber value.type))
  | missing : progress.table.get? result = none →
      Yields result progress (some (.number 0), progress.report (.undefinedVariable result))

/-- A loop over the items. Its variable is unbound in front of the runs, and has its
previous value, if it had one, when the value of the loop is taken. -/
inductive LoopsOver (element : String) (body : Progress G → Progress G) (result : String)
    (items : List (Value G)) (before : Progress G) : Option (Value G) × Progress G → Prop
  | mk {bare final restored : Progress G} {outcome : Option (Value G) × Progress G} :
      Rebinds element none before bare → Runs element body items bare final →
      Rebinds element (before.table.get? element) final restored →
      Yields result restored outcome → LoopsOver element body result items before outcome

theorem rebinds_bind (progress : Progress G) (name : String) (value : Value G) :
    Rebinds name (some value) progress (progress.bind name value) where
  held := by rw [bind, NameMap.get?_insert, if_pos rfl]
  others other different := by rw [bind, NameMap.get?_insert, if_neg different]
  created := rfl
  error := rfl

theorem rebinds_erase (progress : Progress G) (name : String) :
    Rebinds name none progress { progress with table := progress.table.erase name } where
  held := by rw [NameMap.get?_erase, if_pos rfl]
  others other different := by rw [NameMap.get?_erase, if_neg different]
  created := rfl
  error := rfl

theorem rebinds_restore (progress : Progress G) (name : String) (previous : Option (Value G)) :
    Rebinds name previous progress (progress.restore name previous) where
  held := by rw [get?_restore, if_pos rfl]
  others other different := by rw [get?_restore, if_neg different]
  created := rfl
  error := rfl

/-- An element that is excluded leaves all as it was, so the runs are those over the
others. -/
theorem runs_iterate (element : String) (isExcluded : Value G → Bool)
    (body : Progress G → Progress G) (elements : List (Value G)) (progress : Progress G) :
    Runs element body (elements.filter fun item => !isExcluded item) progress
      (iterate element isExcluded body elements progress) := by
  induction elements generalizing progress with
  | nil =>
      exact .done
  | cons item elements inductionHypothesis =>
      cases excluded : isExcluded item with
      | true =>
          simp only [iterate, List.filter_cons, List.foldl_cons, excluded]
          exact inductionHypothesis progress
      | false =>
          simp only [iterate, List.filter_cons, List.foldl_cons, excluded]
          exact .next (rebinds_bind progress element item) (inductionHypothesis _)

theorem yields_lookup (progress : Progress G) (result : String) :
    Yields result progress (asValue (number (progress.lookup result))) := by
  unfold lookup
  cases held : progress.table.get? result with
  | none =>
      exact .missing held
  | some value =>
      cases value with
      | number value =>
          exact .number held
      | _ =>
          exact .notANumber held rfl

theorem loopsOver_runLoop (element : String) (isExcluded : Value G → Bool)
    (body : Progress G → Progress G) (result : String) (elements : List (Value G))
    (progress : Progress G) :
    LoopsOver element body result (elements.filter fun item => !isExcluded item) progress
      (asValue (progress.runLoop element isExcluded body result elements)) := by
  rw [runLoop_eq]
  exact .mk (rebinds_erase progress element) (runs_iterate element isExcluded body elements _)
    (rebinds_restore _ element _) (yields_lookup _ result)

end Progress

section Rules

variable (registry : Registry G) (state : G.State)

/-- Why a reference has no value at a stage. -/
inductive Unresolved (progress : Progress G) : Expr → EvalError → Prop
  | var {name : String} : progress.table.get? name = none →
      Unresolved progress (.var name) (.undefinedVariable name)
  | deref {base : Expr} {field : String} {value : Value G} :
      (evalValue registry state base progress).1 = some value →
      registry.dereference? state value field = none →
        Unresolved progress (.deref base field) (.cannotDereference value.type field)
  | base {base : Expr} {field : String} {error : EvalError} : Unresolved progress base error →
      Unresolved progress (.deref base field) error

/-- A reference is looked up. Nothing happens but that an error is reported. -/
theorem evalValue_of_isReference {expr : Expr} (reference : expr.isReference = true)
    (progress : Progress G) :
    (∃ value, evalValue registry state expr progress = (some value, progress)) ∨
      ∃ error, Unresolved registry state progress expr error ∧
        evalValue registry state expr progress = (none, progress.report error) := by
  match expr with
  | .var name =>
      unfold evalValue Progress.lookup
      cases held : progress.table.get? name with
      | none =>
          exact .inr ⟨_, .var held, rfl⟩
      | some value =>
          exact .inl ⟨value, rfl⟩
  | .deref base field =>
      have reference : base.isReference = true := reference
      rcases evalValue_of_isReference reference progress with
        ⟨value, resolved⟩ | ⟨error, unresolved, failed⟩
      · rw [evalValue, resolved, property]
        cases found : registry.dereference? state value field with
        | none =>
            exact .inr ⟨_, .deref (by rw [resolved]) found, rfl⟩
        | some result =>
            exact .inl ⟨result, rfl⟩
      · refine .inr ⟨error, .base unresolved, ?_⟩
        rw [evalValue, failed]
        rfl
termination_by structural expr

theorem property_eq_some {field : String} {outcome : Option (Value G) × Progress G}
    {value : Value G} :
    (property registry state field outcome).1 = some value ↔
      ∃ base, outcome.1 = some base ∧ registry.dereference? state base field = some value := by
  obtain ⟨base?, progress⟩ := outcome
  cases base? with
  | none =>
      simp [property]
  | some base =>
      cases found : registry.dereference? state base field <;> simp [property, found]

/-- What is not a reference has no value but a number. -/
theorem isNumber_of_not_isReference {expr : Expr} (other : expr.isReference = false)
    {progress : Progress G} {value : Value G}
    (found : (evalValue registry state expr progress).1 = some value) :
    ∃ number, value = .number number := by
  have ofNumber : ∀ {outcome : Float × Progress G}, (asValue outcome).1 = some value →
      ∃ number, value = .number number :=
    fun {outcome} same => ⟨outcome.1, (Option.some.inj same).symm⟩
  match expr with
  | .const number =>
      exact ⟨number, (Option.some.inj found).symm⟩
  | .var name =>
      cases other
  | .deref base field =>
      obtain ⟨baseValue, baseFound, propertyFound⟩ := (property_eq_some registry state).1 found
      have otherBase : base.isReference = false := other
      -- Numbers have no properties.
      obtain ⟨number, rfl⟩ := isNumber_of_not_isReference otherBase baseFound
      cases propertyFound
  | .unary op inner =>
      exact ofNumber found
  | .binary op left right =>
      exact ofNumber found
  | .call name arguments =>
      exact ofNumber found
  | .ternary condition accepted rejected =>
      simp only [evalValue] at found
      split at found <;> exact ofNumber found
  | .loop element base none body result =>
      simp only [evalValue] at found
      split at found <;> exact ofNumber found
  | .loop element base (some exclusion) body result =>
      simp only [evalValue] at found
      split at found
      · exact ofNumber found
      · split at found <;> exact ofNumber found
termination_by structural expr

/-- A value that is not a number is that of a reference, so nothing happened but that it
was looked up. -/
theorem evalValue_eq_of_not_number {expr : Expr} {progress : Progress G} {value : Value G}
    (found : (evalValue registry state expr progress).1 = some value)
    (notNumber : value.number? = none) :
    evalValue registry state expr progress = (some value, progress) := by
  cases reference : expr.isReference with
  | false =>
      obtain ⟨number, rfl⟩ := isNumber_of_not_isReference registry state reference found
      cases notNumber
  | true =>
      rcases evalValue_of_isReference registry state reference progress with
        ⟨value', resolved⟩ | ⟨error, -, failed⟩
      · rw [resolved] at found ⊢
        rw [Option.some.inj found]
      · rw [failed] at found
        cases found

/-- The items that a loop goes over when its evaluation begins at a stage: the elements of
the list, without those that are equal to a given value of their type. -/
inductive GoesOver (progress : Progress G) (base : Expr) : Option Expr → List (Value G) → Prop
  | whole {list : Value G} {elements : List (Value G)} :
      (evalValue registry state base progress).1 = some list → list.elements? = some elements →
        GoesOver progress base none elements
  | without {exclusion : Expr} {list excluded : Value G} {elements : List (Value G)} :
      (evalValue registry state base progress).1 = some list → list.elements? = some elements →
      (evalValue registry state exclusion progress).1 = some excluded →
      list.type.element? = some excluded.type →
        GoesOver progress base (some exclusion) (elements.filter fun item => !(excluded == item))

/-- Why a loop goes over nothing, not even over no items. -/
inductive Hindered (progress : Progress G) (base : Expr) : Option Expr → EvalError → Prop
  | noBase {exclusion? : Option Expr} {error : EvalError} :
      Unresolved registry state progress base error → Hindered progress base exclusion? error
  | noList {exclusion? : Option Expr} {value : Value G} :
      (evalValue registry state base progress).1 = some value → value.elements? = none →
        Hindered progress base exclusion? (.notAList value.type)
  | noExclusion {exclusion : Expr} {list : Value G} {elements : List (Value G)}
      {error : EvalError} :
      (evalValue registry state base progress).1 = some list → list.elements? = some elements →
      Unresolved registry state progress exclusion error →
        Hindered progress base (some exclusion) error
  | noElement {exclusion : Expr} {list excluded : Value G} {elements : List (Value G)} :
      (evalValue registry state base progress).1 = some list → list.elements? = some elements →
      (evalValue registry state exclusion progress).1 = some excluded →
      list.type.element? ≠ some excluded.type →
        Hindered progress base (some exclusion) (.exclusionMismatch list.type excluded.type)

theorem number?_eq_none_of_elements? {list : Value G} {elements : List (Value G)}
    (listed : list.elements? = some elements) : list.number? = none := by
  cases list <;> first | rfl | cases listed

theorem number?_eq_none_of_element? {list excluded : Value G}
    (typed : list.type.element? = some excluded.type) : excluded.number? = none := by
  cases excluded with
  | number value =>
      cases list <;> cases typed
  | _ =>
      rfl

theorem list_eq {progress : Progress G} {list : Value G} {elements : List (Value G)}
    (listed : list.elements? = some elements) :
    Progress.list (some list, progress) = (some (list.type, elements), progress) := by
  simp only [Progress.list, listed]

/-- The elements are found at the stage at which the evaluation of the loop begins, and
the runs of the body begin there. -/
theorem evalValue_loop_of_goesOver {element result : String} {base : Expr}
    {exclusion? : Option Expr} {body : List Assignment} {progress : Progress G}
    {items : List (Value G)} (visits : GoesOver registry state progress base exclusion? items) :
    Progress.LoopsOver element (fun progress => runBody registry state body progress) result items
      progress (evalValue registry state (.loop element base exclusion? body result) progress) := by
  cases visits with
  | whole found listed =>
      have looked := evalValue_eq_of_not_number registry state found
        (number?_eq_none_of_elements? listed)
      have loops := Progress.loopsOver_runLoop element (fun _ => false)
        (fun progress => runBody registry state body progress) result items progress
      simp only [Bool.not_false, List.filter_true] at loops
      simp only [evalValue, looked, list_eq listed]
      exact loops
  | @without exclusion list excluded elements found listed excludedFound typed =>
      have looked := evalValue_eq_of_not_number registry state found
        (number?_eq_none_of_elements? listed)
      have excludedLooked := evalValue_eq_of_not_number registry state excludedFound
        (number?_eq_none_of_element? typed)
      simp only [evalValue, looked, list_eq listed, excludedLooked, Progress.exclusion,
        if_pos typed]
      exact Progress.loopsOver_runLoop element (excluded == ·) _ result elements progress

/-- A loop whose base is not found, or is no list, is over before anything else is
evaluated. -/
theorem evalValue_loop_of_no_list {element result : String} {base : Expr}
    {exclusion? : Option Expr} {body : List Assignment} {progress after : Progress G}
    (noList : Progress.list (evalValue registry state base progress) = (none, after)) :
    evalValue registry state (.loop element base exclusion? body result) progress =
      (some (.number 0), after) := by
  cases exclusion? <;> simp only [evalValue, noList, asValue]

/-- A loop over references goes over something or is hindered, and then only the error is
reported. -/
theorem goesOver_or_hindered (element result : String) {base : Expr} {exclusion? : Option Expr}
    (body : List Assignment) (baseReference : base.isReference = true)
    (exclusionReference : ∀ exclusion ∈ exclusion?, exclusion.isReference = true)
    (progress : Progress G) :
    (∃ items, GoesOver registry state progress base exclusion? items) ∨
      ∃ error, Hindered registry state progress base exclusion? error ∧
        evalValue registry state (.loop element base exclusion? body result) progress =
          (some (.number 0), progress.report error) := by
  rcases evalValue_of_isReference registry state baseReference progress with
    ⟨list, resolved⟩ | ⟨error, unresolved, failed⟩
  · have found : (evalValue registry state base progress).1 = some list := by
      rw [resolved]
    cases listed : list.elements? with
    | none =>
        refine .inr ⟨_, .noList found listed, evalValue_loop_of_no_list registry state ?_⟩
        rw [resolved]
        simp only [Progress.list, listed]
    | some elements =>
        cases exclusion? with
        | none =>
            exact .inl ⟨elements, .whole found listed⟩
        | some exclusion =>
            rcases evalValue_of_isReference registry state (exclusionReference exclusion rfl)
              progress with ⟨excluded, excludedResolved⟩ | ⟨error, unresolved, failed⟩
            · have excludedFound : (evalValue registry state exclusion progress).1 =
                  some excluded := by
                rw [excludedResolved]
              by_cases typed : list.type.element? = some excluded.type
              · exact .inl ⟨_, .without found listed excludedFound typed⟩
              · refine .inr ⟨_, .noElement found listed excludedFound typed, ?_⟩
                simp only [evalValue, resolved, list_eq listed, excludedResolved,
                  Progress.exclusion, if_neg typed, asValue]
            · refine .inr ⟨error, .noExclusion found listed unresolved, ?_⟩
              simp only [evalValue, resolved, list_eq listed, failed, Progress.exclusion, asValue]
  · refine .inr ⟨error, .noBase unresolved, evalValue_loop_of_no_list registry state ?_⟩
    rw [failed]
    rfl

/-- A loop goes over the elements that are found before its body runs, whatever its body
does, and restores its variable. If its base and exclusion are references and it is
hindered, its body does not run: the loop is zero, the error is reported, and no variable
has changed. -/
theorem evalValue_loop (element result : String) (base : Expr) (exclusion? : Option Expr)
    (body : List Assignment) (progress : Progress G) :
    (∀ items, GoesOver registry state progress base exclusion? items →
      Progress.LoopsOver element (fun progress => runBody registry state body progress) result
        items progress
        (evalValue registry state (.loop element base exclusion? body result) progress)) ∧
    (base.isReference = true → (∀ exclusion ∈ exclusion?, exclusion.isReference = true) →
      (¬ ∃ items, GoesOver registry state progress base exclusion? items) →
        ∃ error, Hindered registry state progress base exclusion? error ∧
          evalValue registry state (.loop element base exclusion? body result) progress =
            (some (.number 0), progress.report error) ∧
          (progress.report error).table = progress.table ∧
          (progress.report error).created = progress.created ∧
          (progress.report error).error? = progress.error?.or (some error)) := by
  refine ⟨fun items => evalValue_loop_of_goesOver registry state, ?_⟩
  intro baseReference exclusionReference overNothing
  rcases goesOver_or_hindered registry state element result body baseReference exclusionReference
    progress with visits | ⟨error, hindered, reported⟩
  · exact absurd visits overNothing
  · exact ⟨error, hindered, reported, progress.table_report error, progress.created_report error,
      progress.error_report error⟩

end Rules

/-- Assignments to the list, the excluded player and the variable of a loop. -/
def overwriting : List Assignment :=
  [.assign "players" (.const 0), .assign "me" (.const 0), .assign "p" (.const 5),
    .assign "n" (.binary .add (.var "n") (.const 1))]

/-- A player who is listed twice, between others. -/
def listedTwice : Progress ⟨Unit, Unit, Bool⟩ :=
  .start (.ofList [("me", .player true), ("n", .number 0), ("p", .number 7),
    ("players", .players [true, false, true, false])])

theorem evalValue_loop_overwriting :
    (GoesOver Registry.empty () listedTwice (.var "players") (some (.var "me"))
        [.player false, .player false] ∧
      Progress.LoopsOver "p" (fun progress => runBody Registry.empty () overwriting progress) "n"
        [.player false, .player false] listedTwice
        (evalValue Registry.empty () (.loop "p" (.var "players") (some (.var "me")) overwriting "n")
          listedTwice)) ∧
    (¬ ∃ items, GoesOver Registry.empty () listedTwice (.var "players") (some (.var "players"))
      items) ∧
    evalValue Registry.empty ()
        (.loop "p" (.var "players") (some (.var "players")) overwriting "n") listedTwice =
      (some (.number 0), listedTwice.report (.exclusionMismatch .playerList .playerList)) := by
  have found : (evalValue Registry.empty () (.var "players") listedTwice).1 =
      some (.players [true, false, true, false]) :=
    rfl
  have excludedFound : (evalValue Registry.empty () (.var "me") listedTwice).1 =
      some (.player true) :=
    rfl
  have visits := GoesOver.without found rfl excludedFound rfl
  have loops := (evalValue_loop Registry.empty () "p" "n" (.var "players") (some (.var "me"))
    overwriting listedTwice).1 _ visits
  have overNothing : ¬ ∃ items, GoesOver Registry.empty () listedTwice (.var "players")
      (some (.var "players")) items := by
    rintro ⟨_, visits⟩
    cases visits with
    | without listFound _ excludedFound typed =>
        cases found.symm.trans listFound
        cases found.symm.trans excludedFound
        cases typed
  obtain ⟨error, hindered, reported, -⟩ :=
    (evalValue_loop Registry.empty () "p" "n" (.var "players") (some (.var "players"))
      overwriting listedTwice).2 rfl (fun _ same => Option.some.inj same ▸ rfl) overNothing
  refine ⟨⟨visits, loops⟩, overNothing, ?_⟩
  cases hindered with
  | noBase unresolved =>
      cases unresolved with
      | var missing =>
          cases missing
  | noList valueFound notListed =>
      cases found.symm.trans valueFound
      cases notListed
  | noExclusion _ _ unresolved =>
      cases unresolved with
      | var missing =>
          cases missing
  | noElement listFound _ excludedFound _ =>
      cases found.symm.trans listFound
      cases found.symm.trans excludedFound
      exact reported

end RewardFormula
