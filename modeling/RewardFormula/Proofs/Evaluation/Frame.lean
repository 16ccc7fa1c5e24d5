import RewardFormula.Proofs.Evaluation.Cleanup

/-!
# What an evaluation leaves alone

Only the free targets of a formula may change, and only to numbers. A name that
is assigned in the body of the loop over it is bound there, and the loop puts
back what it hid.
-/

namespace RewardFormula

/-- A name that is not in the list has kept what it held. One that is in it holds
what it held, or nothing, or a number. -/
def FramedAt (name : String) (names : List String) (before after : Variables G) : Prop :=
  (name ∉ names → after.get? name = before.get? name) ∧
  (name ∈ names →
    after.get? name = before.get? name ∨ after.get? name = none ∨
      ∃ value, after.get? name = some (.number value))

def Framed (names : List String) (before after : Variables G) : Prop :=
  ∀ name, FramedAt name names before after

namespace FramedAt

variable {G : Game} {name : String} {names names' : List String} {first second third : Variables G}

theorem of_same (same : second.get? name = first.get? name) : FramedAt name names first second :=
  ⟨fun _ => same, fun _ => .inl same⟩

theorem trans (earlier : FramedAt name names first second)
    (later : FramedAt name names second third) : FramedAt name names first third := by
  refine ⟨fun outside => ?_, fun inside => ?_⟩
  · rw [later.1 outside, earlier.1 outside]
  · rcases later.2 inside with same | changed
    · rw [same]
      exact earlier.2 inside
    · exact .inr changed

theorem mono (framed : FramedAt name names first second) (subset : name ∈ names → name ∈ names') :
    FramedAt name names' first second := by
  by_cases inside : name ∈ names
  · exact ⟨fun outside => absurd (subset inside) outside, fun _ => framed.2 inside⟩
  · exact of_same (framed.1 inside)

end FramedAt

namespace Progress

variable {G : Game} {element : String} {names : List String} {body : Progress G → Progress G}
    (runs : ∀ progress, Framed names progress.table (body progress).table)

include runs

theorem framedAt_iterate {name : String} (different : name ≠ element) (isExcluded : Value G → Bool)
    (elements : List (Value G)) (progress : Progress G) :
    FramedAt name names progress.table
      (iterate element isExcluded body elements progress).table := by
  unfold iterate
  induction elements generalizing progress with
  | nil =>
      exact .of_same rfl
  | cons item elements inductionHypothesis =>
      rw [List.foldl_cons]
      refine .trans ?_ (inductionHypothesis _)
      split
      · exact .of_same rfl
      · have bound : FramedAt name names progress.table (progress.bind element item).table :=
          .of_same (by simp [bind, NameMap.get?_insert, different])
        exact bound.trans (runs _ name)

/-- Whatever a loop binds and its runs assign, its variable is put back. -/
theorem framed_afterLoop (element : String) (isExcluded : Value G → Bool)
    (elements : List (Value G)) (progress : Progress G) :
    Framed (names.filter (· != element)) progress.table
      (progress.afterLoop element isExcluded body elements).table := by
  intro name
  by_cases same : name = element
  · refine .of_same ?_
    rw [Progress.afterLoop, get?_restore, if_pos same, same]
  · have erased : FramedAt name names progress.table (progress.table.erase element) :=
      .of_same (by rw [NameMap.get?_erase, if_neg same])
    have iterated := erased.trans (framedAt_iterate runs same isExcluded elements
      { progress with table := progress.table.erase element })
    have restored : FramedAt name names progress.table
        (progress.afterLoop element isExcluded body elements).table :=
      iterated.trans (.of_same (by rw [Progress.afterLoop, get?_restore, if_neg same]))
    exact restored.mono fun inside => List.mem_filter.2 ⟨inside, by simpa using same⟩

omit runs in
/-- Only the names that are assigned change, and they change to numbers. -/
def frame (G : Game) : Law G where
  relates names first second := Framed names first.table second.table
  refl _ _ := .of_same rfl
  trans earlier later name := (earlier name).trans (later name)
  mono subset framed name := (framed name).mono fun inside => subset inside
  report progress error := by
    intro name
    refine .of_same ?_
    unfold report
    split <;> rfl
  assign progress name value := by
    intro other
    by_cases same : other = name
    · exact ⟨fun outside => absurd (by simp [same]) outside,
        fun _ => .inr (.inr ⟨value, by simp [assign, NameMap.get?_insert, same]⟩)⟩
    · exact .of_same (by simp [assign, NameMap.get?_insert, same])
  loop := framed_afterLoop

end Progress

/-- After an evaluation in either mode, successful or not, all but the free
targets of the formula hold what they held before, and no free target has been
given anything but a number. -/
theorem evaluation_framed (registry : Registry G) (state : G.State) (formula : Formula)
    (table : Variables G) :
    Framed formula.freeTargets table (evaluate registry state formula table).table ∧
      Framed formula.freeTargets table (evaluateRetaining registry state formula table).table := by
  obtain ⟨result, progress, obeys, finished⟩ := Law.evaluateWith_eq registry state formula table
  have framed : Framed formula.freeTargets table progress.table := obeys (Progress.frame G)
  obtain ⟨new, recorded, fresh, -⟩ := obeys (Progress.creation G)
  have created : progress.created = new := by
    simpa [Progress.start] using recorded
  simp only [evaluate, evaluateRetaining, finished, Outcome.map, Progress.remaining, created]
  refine ⟨fun name => ?_, framed⟩
  -- A created name was not there before, so its removal undoes its assignment.
  by_cases isNew : name ∈ new
  · have absent : table.get? name = none := by
      simpa [NameMap.contains, Progress.start] using (fresh name isNew).2
    exact .of_same (by rw [NameMap.get?_eraseAll, if_pos isNew, absent])
  · exact (framed name).trans (.of_same (by rw [NameMap.get?_eraseAll, if_neg isNew]))

end RewardFormula
