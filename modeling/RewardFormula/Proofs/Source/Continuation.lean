import RewardFormula.Proofs.Evaluation.Sequence
import RewardFormula.Proofs.Source.Pairing

/-!
# One source after the other

A source that is read as assignments is read in the same way in front of a semicolon and
other assignments, unless it ends in a semicolon itself. So the formulas of two sources
are put in a row by putting the sources in a row.
-/

namespace RewardFormula

namespace Grammar

open Reader (isBlank)

variable {source source' rest : List Char}

/-- The characters of a text that are no blanks and stand outside comments, if the text
begins at a place. -/
def tokenCharacters : Place → List Char → List Char
  | _, [] => []
  | .outside, '/' :: '/' :: rest => tokenCharacters .line rest
  | .outside, '/' :: '*' :: rest => tokenCharacters .block rest
  | .outside, c :: rest =>
    if isBlank c then tokenCharacters .outside rest else c :: tokenCharacters .outside rest
  | .line, '\n' :: rest => tokenCharacters .outside rest
  | .line, _ :: rest => tokenCharacters .line rest
  | .block, '*' :: '/' :: rest => tokenCharacters .outside rest
  | .block, _ :: rest => tokenCharacters .block rest

/-- Behind the last semicolon of the text nothing but layout stands. -/
def EndsInSemicolon (text : List Char) : Prop :=
  (tokenCharacters .outside text).getLast? = some ';'

instance (text : List Char) : Decidable (EndsInSemicolon text) :=
  inferInstanceAs (Decidable (_ = _))

example : EndsInSemicolon "x = 1; // one\n".toList ∧ ¬ EndsInSemicolon "x = 1 // one;".toList ∧
    ¬ EndsInSemicolon "x = 1 /* ; */".toList := by
  decide +kernel

theorem tokenCharacters_cons {c : Char} (noComment : ¬ OpensComment (c :: rest)) :
    tokenCharacters .outside (c :: rest) =
      if isBlank c then tokenCharacters .outside rest else c :: tokenCharacters .outside rest := by
  rw [opensComment_iff] at noComment
  rw [tokenCharacters]
  · rintro tail rfl rfl
    exact noComment ⟨tail, .inl rfl⟩
  · rintro tail rfl rfl
    exact noComment ⟨tail, .inr rfl⟩

theorem tokenCharacters_blank {c : Char} (blank : isBlank c = true) :
    tokenCharacters .outside (c :: rest) = tokenCharacters .outside rest := by
  have notSlash : c ≠ '/' := by
    rintro rfl
    cases blank
  rw [tokenCharacters_cons (not_opensComment_cons notSlash), if_pos blank]

theorem tokenCharacters_line {comment : List Char} (inside : '\n' ∉ comment)
    (ends : EndsBefore (· != '\n') rest) :
    tokenCharacters .line (comment ++ rest) = tokenCharacters .outside rest := by
  induction comment with
  | nil =>
      cases rest with
      | nil =>
          rfl
      | cons c rest =>
          obtain rfl : c = '\n' := by simpa using ends c rfl
          rfl
  | cons c comment inductionHypothesis =>
      rw [List.mem_cons, not_or] at inside
      rw [List.cons_append, tokenCharacters]
      · exact inductionHypothesis inside.2
      · exact fun newline => inside.1 newline.symm

theorem tokenCharacters_block {comment : List Char} (unclosed : ¬ ['*', '/'] <:+: comment) :
    tokenCharacters .block (comment ++ '*' :: '/' :: rest) = tokenCharacters .outside rest := by
  have closed : Reader.afterBlock? (comment ++ '*' :: '/' :: rest) = some rest :=
    Reader.afterBlock?_eq_some_iff.2 ⟨comment, unclosed, rfl⟩
  generalize comment ++ '*' :: '/' :: rest = text at closed
  induction text using Reader.afterBlock?.induct with
  | case1 =>
      cases closed
  | case2 left =>
      cases closed
      rfl
  | case3 c text other inductionHypothesis =>
      rw [Reader.afterBlock?.eq_3 _ _ other] at closed
      rw [tokenCharacters]
      · exact inductionHypothesis closed
      · exact other

/-- Layout has none of the characters of tokens. -/
theorem Layout.tokenCharacters_eq (layout : Layout source rest) :
    tokenCharacters .outside source = tokenCharacters .outside rest := by
  induction layout with
  | done =>
      rfl
  | more piece _ inductionHypothesis =>
      rw [← inductionHypothesis]
      cases piece with
      | blank blank =>
          exact tokenCharacters_blank blank
      | line inside ends =>
          exact tokenCharacters_line inside ends
      | block unclosed =>
          exact tokenCharacters_block unclosed

/-- A source paired with itself, as long as what is left ends in the same tokens as a given
text. -/
def ending (text : List Char) : Pairing where
  Moves source source' :=
    source = source' ∧ tokenCharacters .outside source <:+ tokenCharacters .outside text
  tail := by
    rintro c rest _ notBlank noComment ⟨rfl, ends⟩
    rw [tokenCharacters_cons noComment, notBlank] at ends
    exact ⟨rest, rfl, rfl, (List.suffix_cons _ _).trans ends⟩
  endsBefore := by
    rintro isPart rest _ - ⟨rfl, -⟩ endsBefore
    exact endsBefore
  isPrefix := by
    rintro numeral source _ - ⟨rfl, -⟩ front
    exact front
  layout := by
    rintro source _ rest layout ⟨rfl, ends⟩
    exact ⟨rest, layout, rfl, layout.tokenCharacters_eq ▸ ends⟩

/-- Pieces of layout in front of a source stand there when a newline follows the source. -/
theorem LayoutUnit.continued (piece : LayoutUnit source rest) (behind : List Char) :
    LayoutUnit (source ++ '\n' :: behind) (rest ++ '\n' :: behind) := by
  cases piece with
  | blank blank =>
      exact .blank blank
  | @line comment rest inside ends =>
      rw [List.cons_append, List.cons_append, List.append_assoc]
      refine .line inside ?_
      cases rest with
      | nil =>
          rintro _ ⟨⟩
          rfl
      | cons c rest =>
          exact ends
  | block unclosed =>
      rw [List.cons_append, List.cons_append, List.append_assoc]
      exact .block unclosed

/-- Layout that reaches the end of a source goes on to the semicolon on the next line. -/
theorem Layout.continued (layout : Layout source rest) (behind : List Char) :
    ∃ rest', Layout (source ++ '\n' :: ';' :: behind) rest' ∧
      (rest' = rest ++ '\n' :: ';' :: behind ∨ rest = [] ∧ rest' = ';' :: behind) := by
  induction layout with
  | @done rest token =>
      cases rest with
      | nil =>
          exact ⟨';' :: behind, (layout_blank_iff rfl).2 (layout_before rfl (by decide)),
            .inr ⟨rfl, rfl⟩⟩
      | cons c rest =>
          have begins : BeginsToken (c :: rest) := by
            refine ⟨⟨c, rest, rfl, ?_⟩, fun opens => token (.inr opens)⟩
            by_contra blank
            exact token (.inl ⟨c, rest, rfl, Bool.not_eq_false _ ▸ blank⟩)
          exact ⟨_, .done (begins.not_beginsLayout ⟨'\n', _, rfl, rfl⟩), .inl rfl⟩
  | more piece _ inductionHypothesis =>
      obtain ⟨rest', layout', reached⟩ := inductionHypothesis
      exact ⟨rest', .more (piece.continued _) layout', reached⟩

/-- A source paired with one that goes on where it ends, with a semicolon on the next line.
Once layout has reached the end of the first source, it has passed the end of the line. -/
def continued (behind : List Char) : Pairing where
  Moves source source' :=
    source' = source ++ '\n' :: ';' :: behind ∨ source = [] ∧ source' = ';' :: behind
  tail := by
    rintro c rest _ - - (rfl | ⟨⟨⟩, -⟩)
    exact ⟨rest ++ '\n' :: ';' :: behind, rfl, .inl rfl⟩
  endsBefore := by
    rintro isPart rest _ parts (rfl | ⟨rfl, rfl⟩) ends
    · cases rest with
      | nil =>
          rintro _ ⟨⟩
          exact isPart_eq_false parts rfl
      | cons c rest =>
          exact ends
    · rintro _ ⟨⟩
      exact isPart_eq_false parts rfl
  isPrefix := by
    rintro numeral source _ parts (rfl | ⟨rfl, rfl⟩) front
    · refine isPrefix_of_endsBefore parts ?_ front
      rintro _ ⟨⟩
      rfl
    · refine isPrefix_of_endsBefore parts ?_ (show numeral <+: [] ++ ';' :: behind from front)
      rintro _ ⟨⟩
      rfl
  layout := by
    rintro source _ rest layout (rfl | ⟨rfl, rfl⟩)
    · exact layout.continued behind
    · cases layout with
      | done =>
          exact ⟨';' :: behind, layout_before rfl (by decide), .inr ⟨rfl, rfl⟩⟩
      | more piece =>
          cases piece

theorem Separated.append {α : Type} {separator : Rule Unit} {item : Rule α}
    {middle middle' : List Char} {values values' : List α}
    (first : Separated separator item source values middle) (mark : separator middle () middle')
    (second : Separated separator item middle' values' rest) :
    Separated separator item source (values ++ values') rest := by
  obtain ⟨head, others⟩ := first
  obtain ⟨head', others'⟩ := second
  exact .mk head (others.append (.more (.mk mark head') others'))

theorem Separated.ne_nil {α : Type} {separator : Rule Unit} {item : Rule α} {values : List α}
    (derived : Separated separator item source values rest) : values ≠ [] := by
  cases derived
  exact List.cons_ne_nil _ _

theorem FormulaRule.separated {items : List Assignment}
    (derived : FormulaRule source (.assignments items) rest) :
    ∃ afterItems, Separated (Spaced (Sign ';')) (Assigned Expression) source items afterItems ∧
      LastSemicolon afterItems rest := by
  cases derived with
  | declaration derived =>
      cases derived
  | assignments derived =>
      obtain ⟨separated, last⟩ := derived
      exact ⟨_, separated, last⟩

/-- A semicolon after the last assignment of a text ends the text. -/
theorem endsInSemicolon_of_last {text afterItems after : List Char}
    (reached : tokenCharacters .outside afterItems <:+ tokenCharacters .outside text)
    (semicolon : Layout afterItems (';' :: after)) (layoutAfter : Layout after []) :
    EndsInSemicolon text := by
  have nothing : tokenCharacters .outside after = [] := layoutAfter.tokenCharacters_eq
  have last : tokenCharacters .outside (';' :: after) = [';'] := by
    rw [tokenCharacters_cons (not_opensComment_cons (by decide)), nothing]
    rfl
  rw [semicolon.tokenCharacters_eq, last] at reached
  obtain ⟨front, split⟩ := reached
  rw [EndsInSemicolon, ← split, List.getLast?_concat]

/-- Without a semicolon at its end, a text of assignments is one of assignments and layout. -/
theorem Derives.unended {text : String} {items : List Assignment}
    (derived : Derives FormulaRule text (.assignments items))
    (unended : ¬ EndsInSemicolon text.toList) :
    ∃ before after, Layout text.toList before ∧
      Separated (Spaced (Sign ';')) (Assigned Expression) before items after ∧
        Layout after [] := by
  obtain ⟨before, after, layoutBefore, derived, layoutAfter⟩ := derived
  obtain ⟨afterItems, separated, last⟩ := derived.separated
  cases last with
  | absent =>
      exact ⟨before, after, layoutBefore, separated, layoutAfter⟩
  | present semicolon =>
      have start : (ending text.toList).Moves text.toList text.toList :=
        ⟨rfl, List.suffix_refl _⟩
      obtain ⟨_, -, moved⟩ := layoutBefore.lexical.moves start
      obtain ⟨_, -, moved⟩ := (Expression.isLexical.assigned.separated rfl separated).moves moved
      exact absurd (endsInSemicolon_of_last moved.2 semicolon layoutAfter) unended

/-- Such a text goes on with a semicolon and the assignments of another text. -/
theorem Derives.joined {first second : String} {items items' : List Assignment}
    (derived : Derives FormulaRule first (.assignments items))
    (unended : ¬ EndsInSemicolon first.toList)
    (derived' : Derives FormulaRule second (.assignments items')) :
    Derives FormulaRule (first ++ "\n;\n" ++ second) (.assignments (items ++ items')) := by
  obtain ⟨before, after, layoutBefore, separated, layoutAfter⟩ := derived.unended unended
  obtain ⟨start, rest, layoutStart, derivedStart, layoutRest⟩ := derived'
  obtain ⟨afterItems', separated', last'⟩ := derivedStart.separated
  let behind := '\n' :: second.toList
  have whole : (first ++ "\n;\n" ++ second).toList = first.toList ++ '\n' :: ';' :: behind := by
    simp [behind]
  have moved : (continued behind).Moves first.toList (first ++ "\n;\n" ++ second).toList :=
    .inl whole
  obtain ⟨before', layoutBefore', moved⟩ := layoutBefore.lexical.moves moved
  have ofItems := Expression.isLexical.assigned.separated rfl separated
  obtain ⟨after', separatedFirst, moved⟩ := ofItems.moves moved
  obtain ⟨mark, layoutMark, moved⟩ := layoutAfter.lexical.moves moved
  -- Layout passes the end of the line, so that it ends at the semicolon.
  obtain rfl : mark = ';' :: behind := by
    rcases moved with rfl | ⟨-, rfl⟩
    · exact absurd (.inl ⟨_, _, rfl, rfl⟩) layoutMark.not_beginsLayout
    · rfl
  have semicolon : Spaced (Sign ';') after' () start :=
    ⟨_, behind, layoutMark, rfl, (layout_blank_iff rfl).2 layoutStart⟩
  exact ⟨before', rest, layoutBefore',
    .assignments (.mk (separatedFirst.append semicolon separated') last'), layoutRest⟩

end Grammar

open Grammar

/-- Two sources of assignments are put in a row, with a semicolon on a line between them, if
the first one does not end in a semicolon itself. What is read are the assignments of the
first and of the second source. They leave the variables that the second formula leaves
after the first one, even if that has failed. They have a value if both formulas have one,
which is that of the second one, and fail with the first error of the two otherwise. -/
theorem parse_in_sequence {first second : String} {items items' : List Assignment}
    (read : parseFormula first = .ok (.assignments items))
    (read' : parseFormula second = .ok (.assignments items'))
    (unended : ¬ EndsInSemicolon first.toList) :
    parseFormula (first ++ "\n;\n" ++ second) = .ok (.assignments (items ++ items')) ∧
    ∀ (G : Game) (registry : Registry G) (state : G.State) (table : Variables G),
      let former := evaluateRetaining registry state (.assignments items) table
      let latter := evaluateRetaining registry state (.assignments items') former.table
      evaluateRetaining registry state (.assignments (items ++ items')) table =
        ⟨former.result.bind fun _ => latter.result, latter.table⟩ := by
  obtain ⟨ascii, derived⟩ := parseFormula_eq_ok_iff.1 read
  obtain ⟨ascii', derived'⟩ := parseFormula_eq_ok_iff.1 read'
  have nonempty : ∀ {text : String} {items : List Assignment},
      Derives FormulaRule text (.assignments items) → items ≠ [] := by
    rintro text items ⟨before, after, -, derived, -⟩
    obtain ⟨_, separated, -⟩ := derived.separated
    exact separated.ne_nil
  refine ⟨parseFormula_eq_ok_iff.2 ⟨?_, derived.joined unended derived'⟩, ?_⟩
  · rw [isAscii_append, isAscii_append]
    exact ⟨⟨ascii, by decide⟩, ascii'⟩
  · intro G registry state table
    exact evaluateRetaining_append registry state (nonempty derived) (nonempty derived') table

/-- The semicolon of a comment ends no source. Without the variable `y` the first formula
fails, and the second one goes on with the zero that is assigned in its place. -/
theorem parse_in_sequence_after_comment :
    let joined : List Assignment := [.assign "x" (.var "y")] ++ [.assign "z" (.var "x")]
    let none : Variables ⟨Unit, Unit, Unit⟩ := .ofList []
    let outcome := evaluateRetaining Registry.empty () (.assignments joined) none
    ¬ EndsInSemicolon "x = y // z;".toList ∧
    parseFormula ("x = y // z;" ++ "\n;\n" ++ "z = x") = .ok (.assignments joined) ∧
    outcome.result = .error (.undefinedVariable "y") ∧
    outcome.table.get? "z" = some (.number 0) := by
  intro joined none outcome
  have read : parseFormula "x = y // z;" = .ok (.single "x" (.var "y")) := by
    cbv
  have read' : parseFormula "z = x" = .ok (.single "z" (.var "x")) := by
    cbv
  have unended : ¬ EndsInSemicolon "x = y // z;".toList := by
    decide +kernel
  obtain ⟨parsed, evaluated⟩ := parse_in_sequence read read' unended
  have outcome_eq := evaluated _ Registry.empty () none
  refine ⟨unended, parsed, ?_, ?_⟩
  · exact (congrArg Outcome.result outcome_eq).trans rfl
  · exact (congrArg (fun outcome => outcome.table.get? "z") outcome_eq).trans rfl

end RewardFormula
