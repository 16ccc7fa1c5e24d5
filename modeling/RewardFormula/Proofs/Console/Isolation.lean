import RewardFormula.Proofs.Console.Transcript

/-!
# Players are isolated

What a player hears in a conversation depends on the lines that are taken while
this player is acting and on who is dropped. Two sessions that give a player the
same variables are followed side by side, line by line; the second one may leave
out the lines by which other players use their own variables.
-/

namespace RewardFormula

open SimulatedArena (game)

/-- An answer without the number of the source that it is about. -/
def Output.unnumbered : Output → Output
  | .reported report => .reported { report with snippet := 0 }
  | output => output

namespace Session

/-- The answers to the formulas of a player and to the listings of the table. -/
def heard (player : String) (turns : List Turn) : List Output :=
  (turns.filter fun turn =>
    turn.acting == player && (LineKind.ofLine turn.line).showsTable).map (·.output.unnumbered)

/-- The lines of a conversation without those by which other players use their
tables. -/
def withoutOthers (player : String) (session : Session) : List String → List String
  | [] => []
  | line :: rest =>
    let others :=
      match (session.takeLine line).1 with
      | some next => next.withoutOthers player rest
      | none => rest
    if session.acting ≠ player ∧ (LineKind.ofLine line).usesTable = true then others
    else line :: others

section Heard

variable {player acting line : String} {output output' : Output} {turns turns' : List Turn}

theorem heard_cons_of_silent (silent : (LineKind.ofLine line).showsTable = false) :
    heard player (⟨acting, line, output⟩ :: turns) = heard player turns := by
  simp only [heard, List.filter_cons, silent, Bool.and_false, Bool.false_eq_true, if_false]

theorem heard_cons_of_other (other : acting ≠ player) :
    heard player (⟨acting, line, output⟩ :: turns) = heard player turns := by
  simp only [heard, List.filter_cons, beq_eq_false_iff_ne.mpr other, Bool.false_and,
    Bool.false_eq_true, if_false]

theorem heard_cons_congr (answers : output.unnumbered = output'.unnumbered)
    (others : heard player turns = heard player turns') :
    heard player (⟨acting, line, output⟩ :: turns) =
      heard player (⟨acting, line, output'⟩ :: turns') := by
  simp only [heard, List.filter_cons] at others ⊢
  split
  · simp only [List.map_cons, answers, others]
  · exact others

end Heard

section WithoutOthers

variable {player line : String} {session next : Session} {output : Output}

theorem withoutOthers_cons_of_other (other : session.acting ≠ player)
    (uses : (LineKind.ofLine line).usesTable = true)
    (taken : session.takeLine line = (some next, output)) (rest : List String) :
    session.withoutOthers player (line :: rest) = next.withoutOthers player rest := by
  simp only [withoutOthers, taken, other, uses, ne_eq, not_false_eq_true, and_self, if_true]

theorem withoutOthers_cons_of_kept
    (kept : ¬(session.acting ≠ player ∧ (LineKind.ofLine line).usesTable = true))
    (taken : session.takeLine line = (some next, output)) (rest : List String) :
    session.withoutOthers player (line :: rest) = line :: next.withoutOthers player rest := by
  simp only [withoutOthers, taken, if_neg kept]

theorem withoutOthers_cons_of_ended
    (kept : ¬(session.acting ≠ player ∧ (LineKind.ofLine line).usesTable = true))
    (taken : session.takeLine line = (none, output)) (rest : List String) :
    session.withoutOthers player (line :: rest) = line :: rest := by
  simp only [withoutOthers, taken, if_neg kept]

end WithoutOthers

section Tables

variable (session : Session) (table : Variables game) (name player : String)

theorem tableOf_withTable :
    (session.withTable table).tableOf player =
      if player = session.acting then table else session.tableOf player := by
  simp only [tableOf, withTable, NameMap.get?_insert]
  split <;> rfl

theorem hasTable_withTable :
    (session.withTable table).hasTable player =
      (decide (player = session.acting) || session.hasTable player) :=
  NameMap.contains_insert _ _ _ _

theorem tableOf_kick :
    (session.kick name).tableOf player =
      if player = name then session.arena.contextFor player else session.tableOf player := by
  simp only [tableOf, kick, NameMap.get?_erase]
  split <;> rfl

theorem hasTable_kick :
    (session.kick name).hasTable player =
      (!decide (player = name) && session.hasTable player) :=
  NameMap.contains_erase _ _ _

end Tables

/-! ## Sessions that are alike for a player -/

/-- Two sessions in which a player has the same variables, and acts in the second
one if in the first. If `exact` is set, the same tables are there already. -/
structure Alike (player : String) (exact : Bool) (first second : Session) : Prop where
  arena : first.arena = second.arena
  integerDefault : first.integerDefault? = second.integerDefault?
  tables : first.tableOf player = second.tableOf player
  present : exact = true → first.hasTable player = second.hasTable player
  acting : first.acting = second.acting ∨ first.acting ≠ player ∧ second.acting = player

namespace Alike

variable {player : String} {exact : Bool} {first second : Session}

theorem refl (player : String) (exact : Bool) (session : Session) :
    Alike player exact session session :=
  ⟨rfl, rfl, rfl, fun _ => rfl, .inl rfl⟩

variable (alike : Alike player exact first second)

include alike

theorem countSnippets : Alike player exact first.countSnippet second.countSnippet :=
  ⟨alike.arena, alike.integerDefault, alike.tables, alike.present, alike.acting⟩

/-- Another player may get a table in the first session alone. -/
theorem withTable_left (other : first.acting ≠ player) (table : Variables game) :
    Alike player exact (first.withTable table) second where
  arena := alike.arena
  integerDefault := alike.integerDefault
  tables := by
    rw [tableOf_withTable, if_neg other.symm]
    exact alike.tables
  present isExact := by
    rw [hasTable_withTable, decide_eq_false other.symm, Bool.false_or]
    exact alike.present isExact
  acting := alike.acting

section Own

variable (own : first.acting = player)

include own

theorem acting_second : second.acting = player := by
  rcases alike.acting with same | ⟨other, -⟩
  · exact same.symm.trans own
  · exact absurd own other

theorem table_eq : first.table = second.table := by
  rw [table, table, own, alike.acting_second own]
  exact alike.tables

/-- The player gets the same table in both sessions. -/
theorem withTables (table : Variables game) :
    Alike player exact (first.withTable table) (second.withTable table) where
  arena := alike.arena
  integerDefault := alike.integerDefault
  tables := by
    rw [tableOf_withTable, tableOf_withTable, if_pos own.symm,
      if_pos (alike.acting_second own).symm]
  present _ := by
    rw [hasTable_withTable, hasTable_withTable, decide_eq_true own.symm,
      decide_eq_true (alike.acting_second own).symm, Bool.true_or, Bool.true_or]
  acting := alike.acting

end Own

theorem kicks (name : String) : Alike player exact (first.kick name) (second.kick name) where
  arena := alike.arena
  integerDefault := alike.integerDefault
  tables := by
    rw [tableOf_kick, tableOf_kick, alike.tables, alike.arena]
  present isExact := by
    rw [hasTable_kick, hasTable_kick, alike.present isExact]
  acting := alike.acting

end Alike

/-- Nobody else acts if there is no player of the name. -/
theorem follow_player_of_absent {session : Session} {name : String}
    (absent : session.arena.contains name = false) :
    session.follow (.player name) =
      (some session, .shown (.line ("Error: " ++
        (ArenaError.unknownPlayer name session.arena.playerNames).message))) := by
  simp only [follow, switchTo, absent, Bool.false_eq_true, dif_neg, not_false_eq_true]

section Formulas

variable (session : Session) (retention : Retention) {source : String}

theorem evaluateSource_of_error {error : SourceError} (refused : parseInput source = .error error) :
    session.evaluateSource retention source =
      (session.countSnippet, session.countSnippet.report source (.ofSourceError error), false) := by
  simp only [evaluateSource, refused]

/-- The answer to a formula with a value or an error. -/
def answer (session : Session) (source : String) (result : Except EvalError Evaluation) : Output :=
  match result with
  | .ok evaluation => .shown (numberLine evaluation.name (session.resultText evaluation.value))
  | .error error => session.report source (.ofEvalError source.toList error)

theorem evaluateSource_of_ok {formula : Formula} (parsed : parseInput source = .ok formula) :
    let outcome :=
      evaluateWith SimulatedArena.registry session.arena retention formula session.table
    let next := session.countSnippet.withTable outcome.table
    ∃ succeeded, session.evaluateSource retention source =
      (next, next.answer source outcome.result, succeeded) := by
  intro outcome next
  simp only [evaluateSource, parsed]
  cases result : outcome.result with
  | ok evaluation =>
      refine ⟨true, ?_⟩
      change (match outcome.result with | .ok _ => _ | .error _ => _) = _
      rw [result]
      rfl
  | error error =>
      refine ⟨false, ?_⟩
      change (match outcome.result with | .ok _ => _ | .error _ => _) = _
      rw [result]
      rfl

end Formulas

namespace Alike

variable {player : String} {exact : Bool} {first second : Session}
    (alike : Alike player exact first second) {line : String}

include alike

theorem unnumbered_answer (source : String) (result : Except EvalError Evaluation) :
    (first.answer source result).unnumbered = (second.answer source result).unnumbered := by
  cases result with
  | ok evaluation =>
      simp only [answer, resultText, alike.integerDefault]
  | error error =>
      rfl

/-- A line by which another player uses a table is no concern of the player. -/
theorem takeLine_left (other : first.acting ≠ player)
    (uses : (LineKind.ofLine line).usesTable = true) :
    ∃ next output, first.takeLine line = (some next, output) ∧ Alike player exact next second := by
  rw [takeLine_eq]
  match kind : LineKind.ofLine line with
  | .formula =>
      refine ⟨_, _, rfl, ?_⟩
      have counted : Alike player exact first.countSnippet second :=
        ⟨alike.arena, alike.integerDefault, alike.tables, alike.present, alike.acting⟩
      cases parsed : parseInput line with
      | error error =>
          rw [evaluateSource_of_error first _ parsed]
          exact counted
      | ok formula =>
          obtain ⟨succeeded, evaluated⟩ := evaluateSource_of_ok first .retainCreated parsed
          rw [evaluated]
          exact counted.withTable_left other _
  | .command .vars =>
      exact ⟨_, _, rfl, alike.withTable_left other _⟩
  | .command .clear =>
      exact ⟨_, _, rfl, alike.withTable_left other _⟩
  | .command (.player _) | .command (.kick _) | .command .help | .command .quit | .blank
  | .wrongCommand _ =>
      rw [kind] at uses
      cases uses

/-- A line by which the player uses the table is answered alike. -/
theorem takeLine_own (own : first.acting = player)
    (uses : (LineKind.ofLine line).usesTable = true) :
    ∃ next next' output output', first.takeLine line = (some next, output) ∧
      second.takeLine line = (some next', output') ∧ Alike player exact next next' ∧
      output.unnumbered = output'.unnumbered := by
  have sameTable := alike.table_eq own
  have counted := alike.countSnippets
  rw [takeLine_eq, takeLine_eq]
  match kind : LineKind.ofLine line with
  | .formula =>
      refine ⟨_, _, _, _, rfl, rfl, ?_⟩
      cases parsed : parseInput line with
      | error error =>
          rw [evaluateSource_of_error first _ parsed, evaluateSource_of_error second _ parsed]
          exact ⟨counted, rfl⟩
      | ok formula =>
          obtain ⟨succeeded, evaluated⟩ := evaluateSource_of_ok first .retainCreated parsed
          obtain ⟨succeeded', evaluated'⟩ := evaluateSource_of_ok second .retainCreated parsed
          rw [evaluated, evaluated', ← alike.arena, ← sameTable]
          have assigned := counted.withTables own
            (evaluateWith SimulatedArena.registry first.arena .retainCreated formula
              first.table).table
          exact ⟨assigned, assigned.unnumbered_answer line _⟩
  | .command .vars =>
      refine ⟨_, _, _, _, rfl, rfl, ?_, ?_⟩
      · rw [← sameTable]
        exact alike.withTables own first.table
      · simp only [listing, sameTable]
  | .command .clear =>
      refine ⟨_, _, _, _, rfl, rfl, ?_, rfl⟩
      rw [clear, clear, own, alike.acting_second own, ← alike.arena]
      exact alike.withTables own _
  | .command (.player _) | .command (.kick _) | .command .help | .command .quit | .blank
  | .wrongCommand _ =>
      rw [kind] at uses
      cases uses

/-- The other lines leave the sessions alike, whatever is answered. -/
theorem takeLine_other (uses : (LineKind.ofLine line).usesTable = false) :
    Option.Rel (Alike player exact) (first.takeLine line).1 (second.takeLine line).1 := by
  rw [takeLine_eq, takeLine_eq]
  match kind : LineKind.ofLine line with
  | .blank =>
      exact .some alike
  | .wrongCommand _ =>
      exact .some alike.countSnippets
  | .command .help =>
      exact .some alike
  | .command .quit =>
      exact .none
  | .command (.kick name) =>
      exact .some (alike.kicks name)
  | .command (.player name) =>
      cases present : first.arena.contains name with
      | true =>
          have present' : second.arena.contains name = true := alike.arena ▸ present
          simp only [follow, switchTo, dif_pos present, dif_pos present']
          exact .some ⟨alike.arena, alike.integerDefault, alike.tables, alike.present, .inl rfl⟩
      | false =>
          change Option.Rel _ (first.follow (.player name)).1 (second.follow (.player name)).1
          rw [follow_player_of_absent present, follow_player_of_absent (alike.arena ▸ present)]
          exact .some alike
  | .formula | .command .vars | .command .clear =>
      rw [kind] at uses
      cases uses

/-! ## Conversations -/

/-- By induction on the lines: the first session takes them all, the second one
those that are left. -/
theorem heard_converse (lines : List String) :
    heard player (first.converse lines).1 =
        heard player (second.converse (first.withoutOthers player lines)).1 ∧
      Option.Rel (Alike player exact) (first.converse lines).2
        (second.converse (first.withoutOthers player lines)).2 := by
  induction lines generalizing first second with
  | nil =>
      exact ⟨rfl, .some alike⟩
  | cons line rest inductionHypothesis =>
      cases uses : (LineKind.ofLine line).usesTable with
      | false =>
          have silent := LineKind.showsTable_of_not_usesTable uses
          have kept : ¬(first.acting ≠ player ∧ (LineKind.ofLine line).usesTable = true) := by
            simp only [uses, Bool.false_eq_true, and_false, not_false_eq_true]
          have stepped := alike.takeLine_other uses
          cases taken : first.takeLine line with
          | mk next output =>
              cases taken' : second.takeLine line with
              | mk next' output' =>
                  rw [taken, taken'] at stepped
                  cases stepped with
                  | none =>
                      rw [withoutOthers_cons_of_ended kept taken, converse_cons_of_ended taken,
                        converse_cons_of_ended taken', heard_cons_of_silent silent,
                        heard_cons_of_silent silent]
                      exact ⟨rfl, .none⟩
                  | some nextAlike =>
                      rw [withoutOthers_cons_of_kept kept taken, converse_cons taken,
                        converse_cons taken', heard_cons_of_silent silent,
                        heard_cons_of_silent silent]
                      exact inductionHypothesis nextAlike
      | true =>
          by_cases own : first.acting = player
          · obtain ⟨next, next', output, output', taken, taken', nextAlike, answers⟩ :=
              alike.takeLine_own own uses
            obtain ⟨others, final⟩ := inductionHypothesis nextAlike
            rw [withoutOthers_cons_of_kept (fun deleted => deleted.1 own) taken,
              converse_cons taken, converse_cons taken', own, alike.acting_second own]
            exact ⟨heard_cons_congr answers others, final⟩
          · obtain ⟨next, output, taken, nextAlike⟩ := alike.takeLine_left own uses
            rw [withoutOthers_cons_of_other own uses taken, converse_cons taken,
              heard_cons_of_other own]
            exact inductionHypothesis nextAlike

end Alike

/-- The player has the same variables in sessions that are exactly alike. -/
theorem Alike.variables_eq {player : String} {first second : Session}
    (alike : Alike player true first second) :
    first.tables.get? player = second.tables.get? player := by
  have tables := alike.tables
  have present := alike.present rfl
  simp only [tableOf, alike.arena] at tables
  simp only [hasTable, NameMap.contains] at present
  cases held : first.tables.get? player <;> cases held' : second.tables.get? player <;>
    simp_all

section Players

variable {session next : Session}

theorem mem_playerNames_iff {arena : SimulatedArena} {name : String} :
    name ∈ arena.playerNames ↔ arena.contains name = true := by
  simp only [SimulatedArena.playerNames, SimulatedArena.contains, SimulatedArena.player?,
    List.mem_map, List.find?_isSome, beq_iff_eq]

theorem evaluateSource_arena (retention : Retention) (source : String) :
    (session.evaluateSource retention source).1.arena = session.arena := by
  cases parsed : parseInput source with
  | error error =>
      rw [evaluateSource_of_error session retention parsed]
      rfl
  | ok formula =>
      obtain ⟨succeeded, evaluated⟩ := evaluateSource_of_ok session retention parsed
      rw [evaluated]
      rfl

theorem takeLine_arena {line : String} {output : Output}
    (taken : session.takeLine line = (some next, output)) : next.arena = session.arena := by
  rw [takeLine_eq] at taken
  match kind : LineKind.ofLine line with
  | .formula =>
      rw [kind] at taken
      cases taken
      exact evaluateSource_arena _ _
  | .command (.player name) =>
      rw [kind] at taken
      cases present : session.arena.contains name with
      | true =>
          simp only [follow, switchTo, dif_pos present] at taken
          cases taken
          rfl
      | false =>
          change session.follow (.player name) = _ at taken
          rw [follow_player_of_absent present] at taken
          cases taken
          rfl
  | .command .quit =>
      rw [kind] at taken
      cases taken
  | .blank | .wrongCommand _ | .command .help | .command (.kick _) | .command .vars
  | .command .clear =>
      rw [kind] at taken
      cases taken
      rfl

theorem converse_arena {final : Session} {lines : List String}
    (ended : (session.converse lines).2 = some final) : final.arena = session.arena := by
  induction lines generalizing session with
  | nil =>
      cases ended
      rfl
  | cons line rest inductionHypothesis =>
      cases taken : session.takeLine line with
      | mk next? output =>
          cases next? with
          | none =>
              rw [converse_cons_of_ended taken] at ended
              cases ended
          | some next =>
              rw [converse_cons taken] at ended
              exact (inductionHypothesis ended).trans (takeLine_arena taken)

end Players

/-- A session without tables in which the player is acting. -/
theorem exists_fresh {session : Session} {player : String}
    (present : session.arena.contains player = true) :
    ∃ fresh, (start session.arena session.integerDefault?).switchTo player = .ok fresh ∧
      fresh.arena = session.arena ∧ fresh.integerDefault? = session.integerDefault? ∧
      fresh.tableOf player = session.arena.contextFor player ∧ fresh.acting = player := by
  have startPresent : (start session.arena session.integerDefault?).arena.contains player = true :=
    present
  simp only [switchTo, dif_pos startPresent]
  exact ⟨_, rfl, rfl, rfl, rfl, rfl⟩

/-- A player who clears the variables, or who is dropped, is as in a fresh
session. -/
theorem alike_fresh_of_dropped {session fresh : Session} {player line : String}
    (arena : fresh.arena = session.arena)
    (integerDefault : fresh.integerDefault? = session.integerDefault?)
    (tables : fresh.tableOf player = session.arena.contextFor player)
    (acting : fresh.acting = player)
    (dropped : LineKind.ofLine line = .command .clear ∧ session.acting = player ∨
      LineKind.ofLine line = .command (.kick player)) :
    ∃ next, (session.takeLine line).1 = some next ∧ Alike player false next fresh := by
  rw [takeLine_eq]
  rcases dropped with ⟨kind, own⟩ | kind
  · rw [kind]
    refine ⟨_, rfl, arena.symm, integerDefault.symm, ?_, nofun, .inl (own.trans acting.symm)⟩
    rw [clear, tableOf_withTable, if_pos own.symm, own, tables]
  · rw [kind]
    refine ⟨_, rfl, arena.symm, integerDefault.symm, ?_, nofun, ?_⟩
    · rw [tableOf_kick, if_pos rfl, tables]
    · by_cases own : session.acting = player
      · exact .inl (own.trans acting.symm)
      · exact .inr ⟨own, acting⟩

/-- What a player hears, and the variables that the player ends with, do not depend on
how other players use their own variables. Only players of the arena act and have
tables. A player who is not there cannot act, and who is dropped starts afresh. -/
theorem conversation_isolated (session : Session) (player : String) (lines : List String) :
    (heard player (session.converse lines).1 =
          heard player (session.converse (session.withoutOthers player lines)).1 ∧
        (session.converse lines).2.map (·.tables.get? player) =
          (session.converse (session.withoutOthers player lines)).2.map
            (·.tables.get? player)) ∧
      (∀ final, (session.converse lines).2 = some final →
        final.acting ∈ session.arena.playerNames ∧
          ∀ owner, final.hasTable owner = true → owner ∈ session.arena.playerNames) ∧
      (∀ line name, LineKind.ofLine line = .command (.player name) →
        name ∉ session.arena.playerNames → (session.takeLine line).1 = some session) ∧
      (player ∈ session.arena.playerNames →
        ∃ fresh, (start session.arena session.integerDefault?).switchTo player = .ok fresh ∧
          ∀ line, (LineKind.ofLine line = .command .clear ∧ session.acting = player ∨
              LineKind.ofLine line = .command (.kick player)) →
            ∃ next, (session.takeLine line).1 = some next ∧
              heard player (next.converse lines).1 =
                heard player (fresh.converse (next.withoutOthers player lines)).1) := by
  refine ⟨?isolated, ?players, ?switches, ?fresh⟩
  case isolated =>
    obtain ⟨answers, finals⟩ := (Alike.refl player true session).heard_converse lines
    refine ⟨answers, ?_⟩
    generalize (session.converse lines).2 = final at finals
    generalize (session.converse (session.withoutOthers player lines)).2 = final' at finals
    cases finals with
    | none =>
        rfl
    | some alike =>
        exact congrArg some alike.variables_eq
  case players =>
    intro final ended
    rw [← converse_arena ended]
    exact ⟨mem_playerNames_iff.mpr final.actingPresent,
      fun owner present => mem_playerNames_iff.mpr (final.ownersPresent owner present)⟩
  case switches =>
    intro line name kind absent
    rw [mem_playerNames_iff, Bool.not_eq_true] at absent
    rw [takeLine_eq, kind]
    change (session.follow (.player name)).1 = _
    rw [follow_player_of_absent absent]
  case fresh =>
    intro present
    obtain ⟨fresh, switched, arena, integerDefault, tables, acting⟩ :=
      exists_fresh (mem_playerNames_iff.mp present)
    refine ⟨fresh, switched, fun line dropped => ?_⟩
    obtain ⟨next, taken, alike⟩ :=
      alike_fresh_of_dropped arena integerDefault tables acting dropped
    exact ⟨next, taken, (alike.heard_converse lines).1⟩

end Session

end RewardFormula
