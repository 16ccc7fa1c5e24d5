import Mathlib.Data.List.TakeWhile
import RewardFormula.Proofs.Source.Derivation
import RewardFormula.Proofs.Source.Reading

/-!
# Layout is read to its end

The reader of layout takes exactly the longest layout in front of a token. It is
never refused; it only breaks off at a comment that is not closed.
-/

namespace RewardFormula

namespace Grammar

/-- A run of a class that ends before another character is the longest one. -/
theorem run_iff {isPart : Char → Bool} {source run rest : List Char} :
    source = run ++ rest ∧ (∀ c ∈ run, isPart c = true) ∧ EndsBefore isPart rest ↔
      run = source.takeWhile isPart ∧ rest = source.dropWhile isPart := by
  constructor
  · rintro ⟨rfl, inside, ends⟩
    have stop : rest.takeWhile isPart = [] ∧ rest.dropWhile isPart = rest := by
      cases rest with
      | nil =>
          exact ⟨rfl, rfl⟩
      | cons next rest =>
          simp [ends next rfl]
    rw [List.takeWhile_append_of_pos inside, List.dropWhile_append_of_pos inside, stop.1, stop.2]
    simp
  · rintro ⟨rfl, rfl⟩
    refine ⟨(List.takeWhile_append_dropWhile).symm, fun c => List.mem_takeWhile_imp, ?_⟩
    intro next member
    have stopped := List.head?_dropWhile_not isPart source
    rw [Option.mem_def.1 member] at stopped
    exact stopped

theorem run_spec (isPart : Char → Bool) (source : List Char) :
    source = source.takeWhile isPart ++ source.dropWhile isPart ∧
      (∀ c ∈ source.takeWhile isPart, isPart c = true) ∧
      EndsBefore isPart (source.dropWhile isPart) :=
  run_iff.2 ⟨rfl, rfl⟩

theorem dropWhile_run
    {isPart : Char → Bool} {run rest : List Char}
    (inside : ∀ c ∈ run, isPart c = true) (ends : EndsBefore isPart rest) :
    (run ++ rest).dropWhile isPart = rest :=
  (run_iff.1 ⟨rfl, inside, ends⟩).2.symm

theorem takeWhile_run
    {isPart : Char → Bool} {run rest : List Char}
    (inside : ∀ c ∈ run, isPart c = true) (ends : EndsBefore isPart rest) :
    (run ++ rest).takeWhile isPart = run :=
  (run_iff.1 ⟨rfl, inside, ends⟩).1.symm

end Grammar

namespace Reader

open Grammar

theorem blanks_eq_read {source rest : List Char} :
    blanks source = .read () rest ↔
      ∃ c tail, source = c :: tail ∧ isBlank c = true ∧ rest = tail.dropWhile isBlank := by
  cases source with
  | nil =>
      simp [blanks]
  | cons c tail =>
      by_cases blank : isBlank c = true
      · simp only [blanks, blank, if_true, Reply.read.injEq, true_and, List.cons.injEq]
        constructor
        · rintro rfl
          exact ⟨c, tail, ⟨rfl, rfl⟩, blank, rfl⟩
        · rintro ⟨_, _, ⟨rfl, rfl⟩, -, rfl⟩
          rfl
      · simp [blanks, blank]

theorem blanks_refuses {source : List Char} :
    blanks.Refuses source ↔ ¬ ∃ c tail, source = c :: tail ∧ isBlank c = true := by
  cases source with
  | nil =>
      simp [blanks, Refuses, refuse]
  | cons c tail =>
      by_cases blank : isBlank c = true
      · simp [blanks, blank, Refuses]
      · simp [blanks, blank, Refuses, refuse]

theorem lineComment_eq_read {source rest : List Char} :
    lineComment source = .read () rest ↔
      ∃ tail, source = '/' :: '/' :: tail ∧ rest = tail.dropWhile (· != '\n') := by
  unfold lineComment
  split
  next tail =>
    simp [eq_comm]
  next other =>
    simp only [refuse_ne_read, false_iff]
    rintro ⟨tail, rfl, -⟩
    exact other tail rfl

theorem lineComment_refuses {source : List Char} :
    lineComment.Refuses source ↔ ¬ ['/', '/'] <+: source := by
  unfold Refuses lineComment
  split
  next tail =>
    simp
  next other =>
    simp only [refuse, Reply.refused.injEq, exists_eq', true_iff]
    rintro ⟨tail, rfl⟩
    exact other tail rfl

/-- A block comment ends at the first mark of its end. -/
theorem afterBlock?_eq_some_iff {source rest : List Char} :
    afterBlock? source = some rest ↔
      ∃ comment, ¬ ['*', '/'] <:+: comment ∧ source = comment ++ '*' :: '/' :: rest := by
  induction source using afterBlock?.induct generalizing rest with
  | case1 =>
      simp [afterBlock?]
  | case2 tail =>
      simp only [afterBlock?, Option.some.injEq]
      constructor
      · rintro rfl
        exact ⟨[], by simp, rfl⟩
      · rintro ⟨comment, unclosed, split⟩
        match comment with
        | [] =>
            simpa using split
        | [c] =>
            simp at split
        | c :: d :: comment =>
            simp only [List.cons_append, List.cons.injEq] at split
            obtain ⟨rfl, rfl, -⟩ := split
            exact absurd ⟨[], comment, rfl⟩ unclosed
  | case3 c tail other inductionHypothesis =>
      rw [afterBlock?.eq_3 c tail other, inductionHypothesis]
      constructor
      · rintro ⟨comment, unclosed, rfl⟩
        refine ⟨c :: comment, fun closed => ?_, rfl⟩
        rcases List.infix_cons_iff.1 closed with ⟨left, front⟩ | inside
        · simp only [List.cons_append, List.cons.injEq, List.nil_append] at front
          obtain ⟨rfl, rfl⟩ := front
          exact other _ rfl rfl
        · exact unclosed inside
      · rintro ⟨comment, unclosed, split⟩
        cases comment with
        | nil =>
            simp only [List.nil_append, List.cons.injEq] at split
            obtain ⟨rfl, rfl⟩ := split
            exact absurd rfl (other _ rfl)
        | cons d comment =>
            simp only [List.cons_append, List.cons.injEq] at split
            obtain ⟨rfl, rfl⟩ := split
            exact ⟨comment, fun closed => unclosed (List.infix_cons closed), rfl⟩

theorem afterBlock?_suffix {source rest : List Char} (closed : afterBlock? source = some rest) :
    rest <:+ source := by
  obtain ⟨comment, -, rfl⟩ := afterBlock?_eq_some_iff.1 closed
  exact ⟨comment ++ ['*', '/'], by simp⟩

theorem blockComment_eq_read {source rest : List Char} :
    blockComment source = .read () rest ↔
      ∃ tail, source = '/' :: '*' :: tail ∧ afterBlock? tail = some rest := by
  unfold blockComment
  split
  next tail =>
    cases closed : afterBlock? tail <;> simp [closed]
  next other =>
    simp only [refuse_ne_read, false_iff]
    rintro ⟨tail, rfl, -⟩
    exact other tail rfl

theorem blockComment_refuses {source : List Char} :
    blockComment.Refuses source ↔ ¬ ['/', '*'] <+: source := by
  unfold Refuses blockComment
  split
  next tail =>
    cases afterBlock? tail <;> simp
  next other =>
    simp only [refuse, Reply.refused.injEq, exists_eq', true_iff]
    rintro ⟨tail, rfl⟩
    exact other tail rfl

theorem layoutUnit_refuses {source : List Char} :
    layoutUnit.Refuses source ↔ ¬ BeginsLayout source := by
  simp only [layoutUnit, orElse_refuses, blanks_refuses, lineComment_refuses,
    blockComment_refuses, BeginsLayout, not_or]

theorem layoutUnit_consumes : layoutUnit.Consumes := by
  intro source rest ⟨⟩ reading
  simp only [layoutUnit, orElse_eq_read, blanks_eq_read, lineComment_eq_read, blockComment_eq_read]
    at reading
  rcases reading with ⟨c, tail, rfl, -, rfl⟩ | ⟨-, ⟨tail, rfl, rfl⟩ | ⟨-, tail, rfl, closed⟩⟩
  · have ending : tail.dropWhile isBlank <:+ tail := List.dropWhile_suffix _
    exact ⟨ending.trans (List.suffix_cons c tail),
      by simpa using Nat.lt_succ_of_le ending.length_le⟩
  · have ending : tail.dropWhile (· != '\n') <:+ tail := List.dropWhile_suffix _
    exact ⟨ending.trans ((List.suffix_cons '/' tail).trans (List.suffix_cons '/' _)),
      by have := ending.length_le; simp only [List.length_cons]; omega⟩
  · obtain ⟨comment, -, rfl⟩ := afterBlock?_eq_some_iff.1 closed
    exact ⟨⟨'/' :: '*' :: comment ++ ['*', '/'], by simp⟩,
      by simp only [List.length_append, List.length_cons]; omega⟩

theorem layout_of_blanks {tail rest : List Char}
    (remaining : Layout (tail.dropWhile isBlank) rest) : Layout tail rest := by
  induction tail with
  | nil =>
      exact remaining
  | cons c tail inductionHypothesis =>
      by_cases blank : isBlank c = true
      · rw [List.dropWhile_cons_of_pos blank] at remaining
        exact .more (.blank blank) (inductionHypothesis remaining)
      · rwa [List.dropWhile_cons_of_neg blank] at remaining

theorem layout_of_layoutUnit {source middle rest : List Char}
    (reading : layoutUnit source = .read () middle) (remaining : Layout middle rest) :
    Layout source rest := by
  simp only [layoutUnit, orElse_eq_read, blanks_eq_read, lineComment_eq_read, blockComment_eq_read]
    at reading
  rcases reading with ⟨c, tail, rfl, blank, rfl⟩ | ⟨-, ⟨tail, rfl, rfl⟩ | ⟨-, tail, rfl, closed⟩⟩
  · exact .more (.blank blank) (layout_of_blanks remaining)
  · obtain ⟨split, inside, ends⟩ := run_spec (· != '\n') tail
    rw [split]
    exact .more (.line (fun member => by simpa using inside _ member) ends) remaining
  · obtain ⟨comment, unclosed, rfl⟩ := afterBlock?_eq_some_iff.1 closed
    exact .more (.block unclosed) remaining

theorem layout_eq_read_iff_many {source rest : List Char} :
    layout source = .read () rest ↔ ∃ units, many layoutUnit source = .read units rest := by
  simp [layout]

theorem layoutUnit_cons_blank {c : Char} {source : List Char} (blank : isBlank c = true) :
    layoutUnit (c :: source) = .read () (source.dropWhile isBlank) :=
  orElse_eq_read.2 (.inl (blanks_eq_read.2 ⟨c, source, rfl, blank, rfl⟩))

/-- The reader takes a run of blanks at once, the relation takes one by one. -/
theorem many_layoutUnit_cons_blank {c : Char} {source rest : List Char} {units : List Unit}
    (blank : isBlank c = true) (reading : many layoutUnit source = .read units rest) :
    ∃ units', many layoutUnit (c :: source) = .read units' rest := by
  have first : layoutUnit (c :: source) = .read () (source.dropWhile isBlank) :=
    layoutUnit_cons_blank blank
  cases source with
  | nil =>
      exact ⟨() :: units, (many_eq_read_cons layoutUnit_consumes).2 ⟨[], first, reading⟩⟩
  | cons d tail =>
      by_cases blankNext : isBlank d = true
      · cases units with
        | nil =>
            obtain ⟨-, refusal⟩ := (many_eq_read_nil layoutUnit_consumes).1 reading
            exact absurd (.inl ⟨d, tail, rfl, blankNext⟩) (layoutUnit_refuses.1 refusal)
        | cons next units =>
            obtain ⟨middle, second, remaining⟩ :=
              (many_eq_read_cons layoutUnit_consumes).1 reading
            have sameEnd : middle = (d :: tail).dropWhile isBlank := by
              rw [List.dropWhile_cons_of_pos blankNext]
              exact (Reply.read.inj (second.symm.trans (layoutUnit_cons_blank blankNext))).2
            rw [sameEnd] at remaining
            exact ⟨() :: units,
              (many_eq_read_cons layoutUnit_consumes).2 ⟨_, first, remaining⟩⟩
      · rw [List.dropWhile_cons_of_neg blankNext] at first
        exact ⟨() :: units, (many_eq_read_cons layoutUnit_consumes).2 ⟨_, first, reading⟩⟩

theorem layout_eq_read {source rest : List Char} {value : Unit} :
    layout source = .read value rest ↔ Layout source rest := by
  rw [layout_eq_read_iff_many]
  constructor
  · rintro ⟨units, reading⟩
    induction units generalizing source with
    | nil =>
        obtain ⟨rfl, refusal⟩ := (many_eq_read_nil layoutUnit_consumes).1 reading
        exact .done (layoutUnit_refuses.1 refusal)
    | cons _ units inductionHypothesis =>
        obtain ⟨middle, first, remaining⟩ := (many_eq_read_cons layoutUnit_consumes).1 reading
        exact layout_of_layoutUnit first (inductionHypothesis remaining)
  · intro layout
    induction layout with
    | done ends =>
        exact ⟨[], (many_eq_read_nil layoutUnit_consumes).2 ⟨rfl, layoutUnit_refuses.2 ends⟩⟩
    | @more source middle rest piece remaining inductionHypothesis =>
        obtain ⟨units, reading⟩ := inductionHypothesis
        cases piece with
        | blank blank =>
            exact many_layoutUnit_cons_blank blank reading
        | @line comment middle inside ends =>
            refine ⟨() :: units, (many_eq_read_cons layoutUnit_consumes).2 ⟨_, ?_, reading⟩⟩
            have run : (comment ++ middle).dropWhile (· != '\n') = middle :=
              dropWhile_run (fun c member => by simpa using ne_of_mem_of_not_mem member inside) ends
            simp [layoutUnit, blanks_eq_read, blanks_refuses, lineComment_eq_read, run, isBlank]
        | @block comment middle unclosed =>
            refine ⟨() :: units, (many_eq_read_cons layoutUnit_consumes).2 ⟨_, ?_, reading⟩⟩
            have closed : afterBlock? (comment ++ '*' :: '/' :: middle) = some middle :=
              afterBlock?_eq_some_iff.2 ⟨comment, unclosed, rfl⟩
            simp [layoutUnit, blanks_eq_read, blanks_refuses, lineComment_eq_read,
              lineComment_refuses, blockComment_eq_read, closed, isBlank]

theorem layout_not_refuses (source : List Char) : ¬ layout.Refuses source := by
  have notRefused := many_not_refuses layoutUnit_consumes source
  simpa [layout] using notRefused

theorem layout_trims : layout.Trims := by
  intro source rest ⟨⟩ reading
  obtain ⟨units, reading⟩ := layout_eq_read_iff_many.1 reading
  exact many_trims layoutUnit_consumes reading

theorem spaced_eq_read {reader : Reader α} {source rest : List Char} {value : α} :
    spaced reader source = .read value rest ↔
      Spaced (fun source value rest => reader source = .read value rest) source value rest := by
  simp only [spaced, bind_eq_read, layout_eq_read, pure_eq_read, Spaced]
  constructor
  · rintro ⟨-, before, layoutBefore, _, after, reading, -, _, layoutAfter, rfl, rfl⟩
    exact ⟨before, after, layoutBefore, reading, layoutAfter⟩
  · rintro ⟨before, after, layoutBefore, reading, layoutAfter⟩
    exact ⟨(), before, layoutBefore, value, after, reading, (), rest, layoutAfter, rfl, rfl⟩

theorem spaced_refuses {reader : Reader α} {source : List Char} :
    (spaced reader).Refuses source ↔
      ∃ middle, Layout source middle ∧ reader.Refuses middle := by
  simp [spaced, layout_eq_read, layout_not_refuses]

end Reader

namespace Grammar

theorem Layout.reading {source rest : List Char} (layout : Layout source rest) :
    Reader.layout source = .read () rest :=
  Reader.layout_eq_read.2 layout

/-- Layout ends at one place only. -/
theorem Layout.unique {source rest rest' : List Char}
    (first : Layout source rest) (second : Layout source rest') : rest = rest' := by
  exact (Reply.read.inj (first.reading.symm.trans second.reading)).2

theorem Layout.suffix {source rest : List Char} (layout : Layout source rest) : rest <:+ source :=
  Reader.layout_trims layout.reading

theorem Layout.not_beginsLayout {source rest : List Char} (layout : Layout source rest) :
    ¬ BeginsLayout rest := by
  induction layout with
  | done ends =>
      exact ends
  | more _ _ inductionHypothesis =>
      exact inductionHypothesis

/-- No layout is left to take where layout has ended. -/
theorem Layout.again {source rest : List Char} (layout : Layout source rest) : Layout rest rest :=
  .done layout.not_beginsLayout

/-- In front of a token layout is empty. -/
theorem Layout.eq_of_not_beginsLayout {source rest : List Char}
    (layout : Layout source rest) (token : ¬ BeginsLayout source) : rest = source :=
  layout.unique (.done token)

end Grammar

end RewardFormula
