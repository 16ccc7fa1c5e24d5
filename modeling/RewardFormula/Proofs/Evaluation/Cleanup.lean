import RewardFormula.Proofs.Evaluation.Laws

/-!
# What is removed after an evaluation

The names that are recorded as created are the ones by which the variables have
grown. So removing them leaves the names that were there before, whatever loops
have bound and restored in between.
-/

namespace RewardFormula

namespace NameMap

variable {α : Type}

/-- The entries whose names are to be kept. -/
def restrict (map : NameMap α) (keeps : String → Bool) : NameMap α :=
  ⟨map.entries.filter fun entry => keeps entry.1, map.ascending.filter _⟩

theorem get?_eraseAll (map : NameMap α) (names : List String) (wanted : String) :
    (map.eraseAll names).get? wanted = if wanted ∈ names then none else map.get? wanted := by
  unfold eraseAll
  induction names generalizing map with
  | nil =>
      simp
  | cons name names inductionHypothesis =>
      rw [List.foldl_cons, inductionHypothesis, get?_erase]
      by_cases first : wanted = name
      · simp [first]
      · simp [first]

theorem contains_of_mem {map : NameMap α} {entry : String × α} (member : entry ∈ map.entries) :
    map.contains entry.1 = true := by
  obtain ⟨entries, ascending⟩ := map
  simp only [contains, get?] at member ⊢
  clear ascending
  induction entries with
  | nil =>
      cases member
  | cons head rest inductionHypothesis =>
      obtain ⟨name, value⟩ := head
      rw [findEntry]
      split
      · rfl
      next different =>
        rcases List.mem_cons.1 member with rfl | member
        · exact absurd rfl different
        · exact inductionHypothesis member

theorem entries_eraseAll (map : NameMap α) (names : List String) :
    (map.eraseAll names).entries = map.entries.filter fun entry => decide (entry.1 ∉ names) := by
  unfold eraseAll
  induction names generalizing map with
  | nil =>
      exact (List.filter_eq_self.2 (by simp)).symm
  | cons name names inductionHypothesis =>
      rw [List.foldl_cons, inductionHypothesis, erase, List.filter_filter]
      refine List.filter_congr fun entry _ => ?_
      by_cases first : entry.1 = name
      · simp [first]
      · simp [first]

/-- Erasing names keeps the others. -/
theorem eraseAll_eq_restrict {map : NameMap α} {names : List String} {keeps : String → Bool}
    (complementary : ∀ name, map.contains name = true → (keeps name = true ↔ name ∉ names)) :
    map.eraseAll names = map.restrict keeps := by
  have entries : (map.eraseAll names).entries = (map.restrict keeps).entries := by
    rw [entries_eraseAll]
    refine List.filter_congr fun entry member => ?_
    have kept := complementary entry.1 (contains_of_mem member)
    rw [Bool.eq_iff_iff, decide_eq_true_iff, kept]
  cases erased : map.eraseAll names
  cases restricted : map.restrict keeps
  simp_all

end NameMap

namespace Progress

variable {G : Game}

/-- From one stage to the other the variables grow by new names, except perhaps
for one that is bound by a loop, and just the new names are recorded. -/
def GrowsBut (bound : Option String) (first second : Progress G) : Prop :=
  ∃ new, second.created = new ++ first.created ∧
    (∀ name ∈ new, some name ≠ bound ∧ first.table.contains name = false) ∧
    ∀ name, some name ≠ bound →
      (second.table.contains name = true ↔ first.table.contains name = true ∨ name ∈ new)

abbrev Grows (first second : Progress G) : Prop := GrowsBut none first second

namespace GrowsBut

variable {bound : Option String} {first second third : Progress G}

theorem refl (progress : Progress G) : GrowsBut bound progress progress :=
  ⟨[], rfl, by simp, by simp⟩

theorem trans (earlier : GrowsBut bound first second) (later : GrowsBut bound second third) :
    GrowsBut bound first third := by
  obtain ⟨new, recorded, fresh, grown⟩ := earlier
  obtain ⟨new', recorded', fresh', grown'⟩ := later
  refine ⟨new' ++ new, by rw [recorded', recorded, List.append_assoc], ?_, ?_⟩
  · intro name member
    rcases List.mem_append.1 member with later | earlier
    · obtain ⟨free, absent⟩ := fresh' name later
      refine ⟨free, Bool.eq_false_iff.2 fun present => ?_⟩
      rw [(grown name free).2 (.inl present)] at absent
      cases absent
    · exact fresh name earlier
  · intro name free
    rw [grown' name free, grown name free, List.mem_append, or_assoc]
    exact or_congr_right or_comm

/-- One run of the body of a loop, in which the variable is bound. -/
theorem of_body {element : String} {body : Progress G → Progress G}
    (runs : ∀ progress, Grows progress (body progress)) (item : Value G) (progress : Progress G) :
    GrowsBut (some element) progress (body (progress.bind element item)) := by
  obtain ⟨new, recorded, fresh, grown⟩ := runs (progress.bind element item)
  have apart : ∀ name ∈ new, name ≠ element ∧ progress.table.contains name = false := by
    intro name member
    simpa [bind, NameMap.contains_insert] using (fresh name member).2
  refine ⟨new, recorded, fun name member => ?_, fun name free => ?_⟩
  · simpa using apart name member
  · have different : name ≠ element := by simpa using free
    rw [grown name (by simp)]
    simp [bind, NameMap.contains_insert, different]

theorem of_iterate {element : String} {body : Progress G → Progress G}
    (runs : ∀ progress, Grows progress (body progress)) (isExcluded : Value G → Bool)
    (elements : List (Value G)) (progress : Progress G) :
    GrowsBut (some element) progress (iterate element isExcluded body elements progress) := by
  unfold iterate
  induction elements generalizing progress with
  | nil =>
      exact refl progress
  | cons item elements inductionHypothesis =>
      rw [List.foldl_cons]
      refine trans ?_ (inductionHypothesis _)
      split
      · exact refl progress
      · exact of_body runs item progress

/-- A loop puts its variable back, and what its runs create is created. -/
theorem afterLoop {body : Progress G → Progress G}
    (runs : ∀ progress, Grows progress (body progress)) (element : String)
    (isExcluded : Value G → Bool) (elements : List (Value G))
    (progress : Progress G) :
    Grows progress (progress.afterLoop element isExcluded body elements) := by
  have iterated : GrowsBut (some element)
      { progress with table := progress.table.erase element }
      (iterate element isExcluded body elements
        { progress with table := progress.table.erase element }) :=
    of_iterate runs isExcluded elements _
  obtain ⟨new, recorded, fresh, grown⟩ := iterated
  have apart : ∀ name ∈ new, name ≠ element ∧ progress.table.contains name = false := by
    intro name member
    obtain ⟨free, absent⟩ := fresh name member
    have different : name ≠ element := by simpa using free
    exact ⟨different, by simpa [NameMap.contains_erase, different] using absent⟩
  refine ⟨new, recorded, fun name member => ⟨by simp, (apart name member).2⟩, fun name _ => ?_⟩
  by_cases same : name = element
  · subst same
    have notNew : name ∉ new := fun member => (apart name member).1 rfl
    simp [Progress.afterLoop, NameMap.contains, get?_restore, notNew]
  · rw [Progress.afterLoop, contains_restore _ _ _ same, grown name (by simpa using same)]
    simp [NameMap.contains_erase, same]

end GrowsBut

/-- What is created is recorded, by assignments and by nothing else. -/
def creation (G : Game) : Law G where
  relates _ := Grows
  refl := .refl
  trans := .trans
  mono _ grows := grows
  report progress error := by
    have kept : (progress.report error).created = progress.created ∧
        (progress.report error).table = progress.table := by
      unfold report
      split <;> exact ⟨rfl, rfl⟩
    exact ⟨[], kept.1, by simp, by simp [kept.2]⟩
  assign progress name value := by
    by_cases present : progress.table.contains name = true
    · refine ⟨[], by simp [assign, present], by simp, fun other _ => ?_⟩
      by_cases same : other = name
      · simp [assign, NameMap.contains_insert, same, present]
      · simp [assign, NameMap.contains_insert, same]
    · refine ⟨[name], by simp [assign, present], by simp [present], fun other _ => ?_⟩
      simp [assign, NameMap.contains_insert, or_comm]
  loop := GrowsBut.afterLoop

end Progress

section Modes

variable {G : Game} (registry : Registry G) (state : G.State) (formula : Formula)
    (table : Variables G)

/-- The created names are erased by one mode and stay in the other, and the mode
does not change the outcome. What one mode leaves is therefore what the other
leaves under the names that were there before. -/
theorem evaluate_eq_evaluateRetaining_restricted :
    (evaluate registry state formula table).result =
        (evaluateRetaining registry state formula table).result.map Evaluation.value ∧
      (evaluate registry state formula table).table =
        (evaluateRetaining registry state formula table).table.restrict table.contains ∧
      ∀ name,
        (evaluate registry state formula table).table.contains name = table.contains name := by
  obtain ⟨result, progress, obeys, finished⟩ :=
    Law.evaluateWith_eq registry state formula table
  obtain ⟨new, recorded, fresh, grown⟩ := obeys (Progress.creation G)
  have created : progress.created = new := by
    simpa [Progress.start] using recorded
  have old : ∀ name, name ∈ new → table.contains name = false := fun name member =>
    (fresh name member).2
  have present : ∀ name, progress.table.contains name = true ↔
      table.contains name = true ∨ name ∈ new := fun name => grown name (by simp)
  have restricted : progress.table.eraseAll new = progress.table.restrict table.contains := by
    refine NameMap.eraseAll_eq_restrict fun name found => ?_
    constructor
    · intro before member
      rw [old name member] at before
      cases before
    · intro notNew
      exact ((present name).1 found).resolve_right notNew
  simp only [evaluate, evaluateRetaining, finished, Outcome.map, Progress.remaining, created]
  refine ⟨trivial, restricted, fun name => ?_⟩
  rw [Bool.eq_iff_iff, NameMap.contains, NameMap.get?_eraseAll]
  by_cases isNew : name ∈ new
  · simp [isNew, old name isNew]
  · rw [if_neg isNew]
    exact (present name).trans (or_iff_left isNew)

end Modes

end RewardFormula
