import RewardFormula.Proofs.Source.Spelling

/-!
# Gaps between tokens

A gap is layout that begins with a blank and has no open comment. If one gap in a
source is exchanged for another, what stands before it and behind it stays, and so do
the tokens: none of them can reach into a gap, and layout that reaches a gap ends
behind it.
-/

namespace RewardFormula

namespace Grammar

open Reader (isBlank)

/-- Where a text ends: outside comments, in a comment that ends with its line, or in
one that its mark ends. -/
inductive Place where
  | outside
  | line
  | block
  deriving DecidableEq, Repr

/-- Where a text ends that begins at a place. -/
def placeAfter : Place → List Char → Place
  | place, [] => place
  | .outside, '/' :: '/' :: rest => placeAfter .line rest
  | .outside, '/' :: '*' :: rest => placeAfter .block rest
  | .outside, _ :: rest => placeAfter .outside rest
  | .line, '\n' :: rest => placeAfter .outside rest
  | .line, _ :: rest => placeAfter .line rest
  | .block, '*' :: '/' :: rest => placeAfter .outside rest
  | .block, _ :: rest => placeAfter .block rest

/-- The text does not end inside a comment. -/
def EndsOutside (text : List Char) : Prop :=
  placeAfter .outside text = .outside

instance (text : List Char) : Decidable (EndsOutside text) :=
  inferInstanceAs (Decidable (_ = _))

example : EndsOutside "a / b".toList ∧ ¬ EndsOutside "a // b".toList ∧
    ¬ EndsOutside "a /*/".toList := by
  decide +kernel

/-- One of the two marks of comments stands in front. -/
def OpensComment (source : List Char) : Prop :=
  ['/', '/'] <+: source ∨ ['/', '*'] <+: source

theorem opensComment_iff {source : List Char} :
    OpensComment source ↔
      ∃ rest, source = '/' :: '/' :: rest ∨ source = '/' :: '*' :: rest := by
  constructor
  · rintro (⟨rest, rfl⟩ | ⟨rest, rfl⟩)
    · exact ⟨rest, .inl rfl⟩
    · exact ⟨rest, .inr rfl⟩
  · rintro ⟨rest, rfl | rfl⟩
    · exact .inl ⟨rest, rfl⟩
    · exact .inr ⟨rest, rfl⟩

theorem OpensComment.append {source : List Char} (opens : OpensComment source)
    (tail : List Char) : OpensComment (source ++ tail) :=
  opens.imp (·.trans (List.prefix_append _ _)) (·.trans (List.prefix_append _ _))

theorem not_opensComment_cons {c : Char} {text : List Char} (notSlash : c ≠ '/') :
    ¬ OpensComment (c :: text) := by
  simp [OpensComment, notSlash.symm]

theorem endsOutside_cons_iff {c : Char} {text : List Char} (token : ¬ OpensComment (c :: text)) :
    EndsOutside (c :: text) ↔ EndsOutside text := by
  rw [opensComment_iff] at token
  unfold EndsOutside
  rw [placeAfter]
  · rintro rest rfl rfl
    exact token ⟨rest, .inl rfl⟩
  · rintro rest rfl rfl
    exact token ⟨rest, .inr rfl⟩

theorem exists_line_of_outside {text : List Char} (outside : placeAfter .line text = .outside) :
    ∃ comment rest, text = comment ++ '\n' :: rest ∧ '\n' ∉ comment ∧ EndsOutside rest := by
  induction text with
  | nil =>
      cases outside
  | cons c text inductionHypothesis =>
      by_cases newline : c = '\n'
      · subst newline
        exact ⟨[], text, rfl, List.not_mem_nil, outside⟩
      · rw [placeAfter] at outside
        · obtain ⟨comment, rest, rfl, inside, after⟩ := inductionHypothesis outside
          exact ⟨c :: comment, rest, rfl, by simp [inside, Ne.symm newline], after⟩
        · exact newline

theorem exists_block_of_outside {text : List Char} (outside : placeAfter .block text = .outside) :
    ∃ comment rest, text = comment ++ '*' :: '/' :: rest ∧ ¬ ['*', '/'] <:+: comment ∧
      EndsOutside rest := by
  have found : ∃ rest, Reader.afterBlock? text = some rest ∧ EndsOutside rest := by
    induction text using Reader.afterBlock?.induct with
    | case1 =>
        cases outside
    | case2 rest =>
        exact ⟨rest, rfl, outside⟩
    | case3 c text other inductionHypothesis =>
        rw [Reader.afterBlock?.eq_3 _ _ other]
        rw [placeAfter] at outside
        · exact inductionHypothesis outside
        · exact other
  obtain ⟨rest, closed, after⟩ := found
  obtain ⟨comment, unclosed, rfl⟩ := Reader.afterBlock?_eq_some_iff.1 closed
  exact ⟨comment, rest, rfl, unclosed, after⟩

/-- Blanks, comments that end with their lines, and closed comments, one after the
other. -/
inductive LayoutText : List Char → Prop
  | nil : LayoutText []
  | blank {c : Char} {rest : List Char} : isBlank c = true → LayoutText rest →
      LayoutText (c :: rest)
  | line {comment rest : List Char} : '\n' ∉ comment → LayoutText rest →
      LayoutText ('/' :: '/' :: (comment ++ '\n' :: rest))
  | block {comment rest : List Char} : ¬ ['*', '/'] <:+: comment → LayoutText rest →
      LayoutText ('/' :: '*' :: (comment ++ '*' :: '/' :: rest))

/-- Layout that begins with a blank. -/
structure IsGap (gap : List Char) : Prop where
  layout : LayoutText gap
  blank : ∃ c tail, gap = c :: tail ∧ isBlank c = true

theorem LayoutUnit.unique {source rest rest' : List Char} (first : LayoutUnit source rest)
    (second : LayoutUnit source rest') : rest = rest' := by
  cases first with
  | blank blank =>
      cases second with
      | blank _ =>
          rfl
      | line | block =>
          cases blank
  | @line comment rest inside ends =>
      generalize same : '/' :: '/' :: (comment ++ rest) = source at second
      cases second with
      | blank blank =>
          cases same
          cases blank
      | @line comment' rest' inside' ends' =>
          have notNewline : ∀ {comment : List Char}, '\n' ∉ comment →
              ∀ c ∈ comment, (c != '\n') = true := by
            intro comment inside c member
            simpa using ne_of_mem_of_not_mem member inside
          simp only [List.cons.injEq, true_and] at same
          rw [← dropWhile_run (notNewline inside) ends, same,
            dropWhile_run (notNewline inside') ends']
      | block =>
          simp at same
  | @block comment rest unclosed =>
      generalize same : '/' :: '*' :: (comment ++ '*' :: '/' :: rest) = source at second
      cases second with
      | blank blank =>
          cases same
          cases blank
      | line =>
          simp at same
      | @block comment' rest' unclosed' =>
          simp only [List.cons.injEq, true_and] at same
          have closed : Reader.afterBlock? (comment ++ '*' :: '/' :: rest) = some rest :=
            Reader.afterBlock?_eq_some_iff.2 ⟨comment, unclosed, rfl⟩
          rw [same, Reader.afterBlock?_eq_some_iff.2 ⟨comment', unclosed', rfl⟩] at closed
          exact (Option.some.inj closed).symm

/-- Layout goes on behind its first piece. -/
theorem LayoutUnit.layout_iff {source middle rest : List Char} (piece : LayoutUnit source middle) :
    Layout source rest ↔ Layout middle rest := by
  refine ⟨fun layout => ?_, .more piece⟩
  cases layout with
  | done token =>
      cases piece with
      | blank blank =>
          exact absurd (.inl ⟨_, _, rfl, blank⟩) token
      | line | block =>
          exact absurd (.inr (by simp)) token
  | more piece' layout =>
      rw [piece.unique piece']
      exact layout

theorem layout_blank_iff {c : Char} {source rest : List Char} (blank : isBlank c = true) :
    Layout (c :: source) rest ↔ Layout source rest :=
  (LayoutUnit.blank blank).layout_iff

theorem layout_line_iff {comment source rest : List Char} (inside : '\n' ∉ comment) :
    Layout ('/' :: '/' :: (comment ++ '\n' :: source)) rest ↔ Layout source rest := by
  have ends : EndsBefore (· != '\n') ('\n' :: source) := by
    rintro _ ⟨⟩
    rfl
  rw [(LayoutUnit.line inside ends).layout_iff, layout_blank_iff rfl]

theorem layout_block_iff {comment source rest : List Char} (unclosed : ¬ ['*', '/'] <:+: comment) :
    Layout ('/' :: '*' :: (comment ++ '*' :: '/' :: source)) rest ↔ Layout source rest :=
  (LayoutUnit.block unclosed).layout_iff

theorem LayoutText.layout_iff {text : List Char} (complete : LayoutText text)
    (tail rest : List Char) : Layout (text ++ tail) rest ↔ Layout tail rest := by
  induction complete with
  | nil =>
      rfl
  | blank blank _ inductionHypothesis =>
      exact (layout_blank_iff blank).trans inductionHypothesis
  | line inside _ inductionHypothesis =>
      simp only [List.cons_append, List.append_assoc]
      exact (layout_line_iff inside).trans inductionHypothesis
  | block unclosed _ inductionHypothesis =>
      simp only [List.cons_append, List.append_assoc]
      exact (layout_block_iff unclosed).trans inductionHypothesis

/-- The text begins with a token, whatever blank follows it. -/
def BeginsToken (text : List Char) : Prop :=
  (∃ c rest, text = c :: rest ∧ isBlank c = false) ∧ ¬ OpensComment text

theorem BeginsToken.not_beginsLayout {text tail : List Char} (begins : BeginsToken text)
    (blank : ∃ c rest, tail = c :: rest ∧ isBlank c = true) : ¬ BeginsLayout (text ++ tail) := by
  obtain ⟨⟨c, rest, rfl, notBlank⟩, noComment⟩ := begins
  obtain ⟨d, tail, rfl, blank⟩ := blank
  rintro (⟨_, _, ⟨rfl, -⟩, isBlank⟩ | opens)
  · rw [notBlank] at isBlank
    cases isBlank
  · obtain ⟨_, opened⟩ := opensComment_iff.1 opens
    cases rest with
    | nil =>
        rcases opened with ⟨⟨⟩⟩ | ⟨⟨⟩⟩ <;> cases blank
    | cons e rest =>
        refine noComment (opensComment_iff.2 ⟨rest, ?_⟩)
        rcases opened with ⟨⟨⟩⟩ | ⟨⟨⟩⟩
        · exact .inl rfl
        · exact .inr rfl

/-- One piece of layout can be taken from the front of a text that ends outside
comments. -/
theorem EndsOutside.behind_piece {text : List Char} (outside : EndsOutside text)
    (nonempty : text ≠ []) (noToken : ¬ BeginsToken text) :
    ∃ behind, behind.length < text.length ∧ EndsOutside behind ∧
      ∀ tail rest, Layout (text ++ tail) rest ↔ Layout (behind ++ tail) rest := by
  by_cases opens : OpensComment text
  · obtain ⟨text, rfl | rfl⟩ := opensComment_iff.1 opens
    · obtain ⟨comment, behind, rfl, inside, outsideBehind⟩ := exists_line_of_outside outside
      refine ⟨behind, ?_, outsideBehind, fun tail rest => ?_⟩
      · simp only [List.length_cons, List.length_append]
        omega
      · simp only [List.cons_append, List.append_assoc]
        exact layout_line_iff inside
    · obtain ⟨comment, behind, rfl, unclosed, outsideBehind⟩ := exists_block_of_outside outside
      refine ⟨behind, ?_, outsideBehind, fun tail rest => ?_⟩
      · simp only [List.length_cons, List.length_append]
        omega
      · simp only [List.cons_append, List.append_assoc]
        exact layout_block_iff unclosed
  · obtain ⟨c, behind, rfl⟩ := List.exists_cons_of_ne_nil nonempty
    have blank : isBlank c = true := by
      by_contra notBlank
      exact noToken ⟨⟨c, behind, rfl, Bool.eq_false_iff.2 notBlank⟩, opens⟩
    exact ⟨behind, Nat.lt_succ_self _, (endsOutside_cons_iff opens).1 outside,
      fun tail rest => layout_blank_iff blank⟩

/-- A text that ends outside comments begins with layout, and then either ends or goes
on with a token. -/
theorem EndsOutside.exists_token {text : List Char} (outside : EndsOutside text) :
    ∃ token, EndsOutside token ∧ (token = [] ∨ BeginsToken token) ∧
      ∀ tail rest, Layout (text ++ tail) rest ↔ Layout (token ++ tail) rest := by
  induction size : text.length using Nat.strong_induction_on generalizing text with
  | _ bound inductionHypothesis =>
      by_cases begins : text = [] ∨ BeginsToken text
      · exact ⟨text, outside, begins, fun _ _ => Iff.rfl⟩
      · obtain ⟨nonempty, noToken⟩ := not_or.1 begins
        obtain ⟨behind, shorter, outsideBehind, taken⟩ := outside.behind_piece nonempty noToken
        obtain ⟨token, outsideToken, beginsToken, others⟩ :=
          inductionHypothesis behind.length (size ▸ shorter) outsideBehind rfl
        exact ⟨token, outsideToken, beginsToken,
          fun tail rest => (taken tail rest).trans (others tail rest)⟩

theorem IsGap.begins {gap : List Char} (isGap : IsGap gap) (tail : List Char) :
    ∃ c rest, gap ++ tail = c :: rest ∧ isBlank c = true := by
  obtain ⟨c, rest, rfl, blank⟩ := isGap.blank
  exact ⟨c, rest ++ tail, rfl, blank⟩

/-- A gap in front of the end of a text, and another gap that takes its place. -/
structure GapExchange where
  gap : List Char
  gap' : List Char
  behind : List Char
  isGap : IsGap gap
  isGap' : IsGap gap'

/-- A character that is no blank and begins no comment. -/
def isSolid (c : Char) : Bool :=
  !isBlank c && c != '/'

theorem isSolid_iff {c : Char} : isSolid c = true ↔ isBlank c = false ∧ c ≠ '/' := by
  simp [isSolid]

/-- A word reaches no further than to the first character of another class. -/
theorem isPrefix_of_endsBefore {isPart : Char → Bool} {word before tail : List Char}
    (inside : ∀ c ∈ word, isPart c = true) (ends : EndsBefore isPart tail)
    (front : word <+: before ++ tail) : word <+: before := by
  induction before generalizing word with
  | nil =>
      cases word with
      | nil =>
          exact List.nil_prefix
      | cons c word =>
          obtain ⟨others, rfl⟩ := front
          have outside := ends c rfl
          rw [inside c List.mem_cons_self] at outside
          cases outside
  | cons d before inductionHypothesis =>
      cases word with
      | nil =>
          exact List.nil_prefix
      | cons c word =>
          obtain ⟨rfl, others⟩ := List.cons_prefix_cons.1 front
          exact List.cons_prefix_cons.2 ⟨rfl,
            inductionHypothesis (fun e member => inside e (List.mem_cons_of_mem _ member)) others⟩

namespace GapExchange

variable {exchange : GapExchange} {source source' rest rest' : List Char}

/-- The second source has the other gap, unless the first one begins behind the gap. -/
def Moves (exchange : GapExchange) (source source' : List Char) : Prop :=
  source = source' ∨
    ∃ before, EndsOutside before ∧ source = before ++ (exchange.gap ++ exchange.behind) ∧
      source' = before ++ (exchange.gap' ++ exchange.behind)

theorem Moves.same : exchange.Moves source source :=
  .inl rfl

theorem Moves.of_outside {before : List Char} (outside : EndsOutside before) :
    exchange.Moves (before ++ (exchange.gap ++ exchange.behind))
      (before ++ (exchange.gap' ++ exchange.behind)) :=
  .inr ⟨before, outside, rfl, rfl⟩

/-- The end is no gap. -/
theorem Moves.of_end (moved : exchange.Moves [] source') : source' = [] := by
  rcases moved with rfl | ⟨before, -, empty, -⟩
  · rfl
  · obtain ⟨c, rest, gapBegins, -⟩ := exchange.isGap.begins exchange.behind
    rw [gapBegins] at empty
    simp at empty

/-- A character that is no blank and does not open a comment stands before the gap or
behind it. -/
theorem Moves.tail {c : Char} (notBlank : isBlank c = false)
    (noComment : ¬ OpensComment (c :: rest)) (moved : exchange.Moves (c :: rest) source') :
    ∃ rest', source' = c :: rest' ∧ exchange.Moves rest rest' := by
  rcases moved with rfl | ⟨before, outside, split, rfl⟩
  · exact ⟨rest, rfl, .same⟩
  · cases before with
    | nil =>
        obtain ⟨d, tail, gapBegins, blank⟩ := exchange.isGap.begins exchange.behind
        rw [List.nil_append, gapBegins] at split
        cases split
        rw [notBlank] at blank
        cases blank
    | cons d before =>
        obtain ⟨rfl, rfl⟩ := List.cons.inj split
        have outsideBehind : EndsOutside before :=
          (endsOutside_cons_iff fun opens => noComment (opens.append _)).1 outside
        exact ⟨_, rfl, .of_outside outsideBehind⟩

/-- The other gap makes no room for a longer word. -/
theorem Moves.isPrefix {word : List Char} (solid : ∀ c ∈ word, isSolid c = true)
    (moved : exchange.Moves source source') (front : word <+: source') : word <+: source := by
  rcases moved with rfl | ⟨before, -, rfl, rfl⟩
  · exact front
  · have ends : EndsBefore isSolid (exchange.gap' ++ exchange.behind) := by
      obtain ⟨c, tail, gapBegins, blank⟩ := exchange.isGap'.begins exchange.behind
      rw [gapBegins]
      rintro _ ⟨⟩
      simp [isSolid, blank]
    exact (isPrefix_of_endsBefore solid ends front).trans (List.prefix_append _ _)

/-- A word that ends before a gap ends before the other one. -/
theorem Moves.endsBefore {isPart : Char → Bool} (moved : exchange.Moves rest rest')
    (noBlank : ∀ c, isBlank c = true → isPart c = false) (ends : EndsBefore isPart rest) :
    EndsBefore isPart rest' := by
  rcases moved with rfl | ⟨before, -, rfl, rfl⟩
  · exact ends
  · cases before with
    | nil =>
        obtain ⟨c, tail, gapBegins, blank⟩ := exchange.isGap'.begins exchange.behind
        rw [List.nil_append, gapBegins]
        rintro _ ⟨⟩
        exact noBlank c blank
    | cons c before =>
        exact ends

/-- Layout that reaches the gap ends behind it. -/
theorem Moves.layout (layout : Layout source rest) (moved : exchange.Moves source source') :
    ∃ rest', Layout source' rest' ∧ exchange.Moves rest rest' := by
  rcases moved with rfl | ⟨before, outside, rfl, rfl⟩
  · exact ⟨rest, layout, .same⟩
  · obtain ⟨token, outsideToken, rfl | begins, through⟩ := outside.exists_token
    · -- The layout reaches the gap, and so it ends behind it.
      rw [through, List.nil_append, exchange.isGap.layout.layout_iff] at layout
      refine ⟨rest, ?_, .same⟩
      rw [through, List.nil_append, exchange.isGap'.layout.layout_iff]
      exact layout
    · have stops := begins.not_beginsLayout (exchange.isGap.begins exchange.behind)
      have stops' := begins.not_beginsLayout (exchange.isGap'.begins exchange.behind)
      rw [through] at layout
      rw [layout.eq_of_not_beginsLayout stops]
      exact ⟨_, (through _ _).2 (.done stops'), .of_outside outsideToken⟩

end GapExchange

end Grammar

end RewardFormula
