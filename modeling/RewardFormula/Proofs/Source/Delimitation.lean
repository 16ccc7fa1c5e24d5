import RewardFormula.Proofs.Source.Lexemes
import RewardFormula.Proofs.Source.Locations
import RewardFormula.Proofs.Source.Spelling

/-!
# Errors delimit what they speak of

What is derived from the front of a source does not depend on where the source ends
behind it. So the source in front of leftovers can be read alone, and a term of the
wrong kind can be read alone as a term of its own kind.
-/

namespace RewardFormula

namespace Grammar

/-- The step leads from the source to the rest, and still does when some of the rest is
cut off. -/
def Cuts (step : List Char → List Char → Prop) (source rest : List Char) : Prop :=
  ∃ taken, source = taken ++ rest ∧ ∀ ⦃behind⦄, behind <+: rest → step (taken ++ behind) behind

variable {source middle rest : List Char} {step step' : List Char → List Char → Prop}

namespace Cuts

theorem imp (cuts : Cuts step source rest)
    (implies : ∀ ⦃source' rest'⦄, step source' rest' → step' source' rest') :
    Cuts step' source rest := by
  obtain ⟨taken, split, cut⟩ := cuts
  exact ⟨taken, split, fun _ front => implies (cut front)⟩

/-- A cut behind the second step leaves the first one all that it looks at. -/
theorem comp (first : Cuts step source middle) (second : Cuts step' middle rest) :
    Cuts (fun source' rest' => ∃ middle', step source' middle' ∧ step' middle' rest')
      source rest := by
  obtain ⟨taken, rfl, cut⟩ := first
  obtain ⟨taken', rfl, cut'⟩ := second
  refine ⟨taken ++ taken', (List.append_assoc _ _ _).symm, ?_⟩
  intro behind front
  have frontOfMiddle : taken' ++ behind <+: taken' ++ rest :=
    (List.prefix_append_right_inj taken').2 front
  rw [List.append_assoc]
  exact ⟨taken' ++ behind, cut frontOfMiddle, cut' front⟩

end Cuts

theorem BeginsLayout.mono {front : List Char} (begins : BeginsLayout front)
    (isFront : front <+: source) : BeginsLayout source := by
  obtain ⟨tail, rfl⟩ := isFront
  rcases begins with ⟨c, rest, rfl, blank⟩ | line | block
  · exact .inl ⟨c, rest ++ tail, rfl, blank⟩
  · exact .inr (.inl (line.trans (List.prefix_append _ _)))
  · exact .inr (.inr (block.trans (List.prefix_append _ _)))

theorem LayoutUnit.cuts (piece : LayoutUnit source rest) : Cuts LayoutUnit source rest := by
  cases piece with
  | @blank c rest blank =>
      exact ⟨[c], rfl, fun _ _ => .blank blank⟩
  | @line comment rest inside ends =>
      refine ⟨'/' :: '/' :: comment, rfl, ?_⟩
      intro behind front
      exact .line inside (ends.mono front)
  | @block comment rest unclosed =>
      refine ⟨'/' :: '*' :: (comment ++ ['*', '/']), by simp, ?_⟩
      intro behind _
      simpa using @LayoutUnit.block comment behind unclosed

theorem Layout.cuts (layout : Layout source rest) : Cuts Layout source rest := by
  induction layout with
  | done token =>
      exact ⟨[], rfl, fun _ front => .done fun begins => token (begins.mono front)⟩
  | more piece _ inductionHypothesis =>
      refine (piece.cuts.comp inductionHypothesis).imp ?_
      rintro source' rest' ⟨middle', piece', layout'⟩
      exact .more piece' layout'

theorem Literal.cuts {value : Float} (written : Literal source value rest) :
    Cuts (Literal · value ·) source rest := by
  obtain ⟨numeral, decimal, rfl, isNumeral, longest, ends, rfl⟩ := written
  refine ⟨numeral, rfl, ?_⟩
  intro behind front
  refine ⟨numeral, decimal, rfl, isNumeral, ?_, ends.mono front, rfl⟩
  -- A shorter source has no longer numerals in front.
  intro longer decimal' isLonger inFront
  have frontOfWhole : numeral ++ behind <+: numeral ++ rest :=
    (List.prefix_append_right_inj numeral).2 front
  exact longest longer decimal' isLonger (inFront.trans frontOfWhole)

theorem Lexeme.Stands.cuts {lexeme : Lexeme} (stands : lexeme.Stands source rest) :
    Cuts lexeme.Stands source rest := by
  cases lexeme with
  | layout =>
      exact Layout.cuts stands
  | marked c =>
      obtain ⟨taken, split, cut⟩ := Layout.cuts stands
      refine ⟨taken ++ [c], by simpa using split, ?_⟩
      intro behind front
      simpa [Stands] using cut ((List.prefix_cons_inj c).2 front)
  | sign c =>
      obtain ⟨rfl, solid⟩ := stands
      exact ⟨[c], rfl, fun _ _ => ⟨rfl, solid⟩⟩
  | word letters =>
      obtain ⟨rfl, solid, ends⟩ := stands
      exact ⟨letters, rfl, fun _ front => ⟨rfl, solid, ends.mono front⟩⟩
  | literal value =>
      exact Literal.cuts stands

theorem AllStand.cuts {lexemes : List Lexeme} (stand : AllStand lexemes source rest) :
    Cuts (AllStand lexemes) source rest := by
  induction lexemes generalizing source with
  | nil =>
      obtain rfl : source = rest := stand
      exact ⟨[], rfl, fun _ _ => rfl⟩
  | cons first others inductionHypothesis =>
      obtain ⟨middle, stands, others⟩ := stand
      exact stands.cuts.comp (inductionHypothesis others)

theorem Lexical.cuts (lexical : Lexical step source rest) : Cuts step source rest := by
  obtain ⟨lexemes, stand, steps⟩ := lexical
  exact stand.cuts.imp steps

/-- What is derived from the front of a source is derived from the front alone. -/
theorem LexicalAs.alone {α : Type} {rule rule' : Rule α} {value : α}
    (lexical : LexicalAs rule rule') {taken : List Char}
    (derived : rule (taken ++ rest) value rest) : rule' taken value [] := by
  obtain ⟨taken', split, cut⟩ := (lexical derived).cuts
  obtain rfl := List.append_cancel_right split
  simpa using cut List.nil_prefix

end Grammar

open Grammar

/-- The stretch of the error delimits what the error speaks of. Leftovers reach up to the
end of the source, and what is before them is read by the same parser. A stretch that is
not arithmetic is a condition, and one that is no condition is arithmetic. -/
structure SourceError.Delimits {α : Type} (error : SourceError)
    (parse : String → Except SourceError α) (source : String) : Prop where
  leftovers : error.cause = .leftovers →
    error.location.stop = source.utf8ByteSize ∧
      ∃ before covered, error.location.Covers source before covered "" ∧
        ∃ value, parse before = .ok value
  condition : error.cause = .expectedArithmetic →
    ∃ before covered after, error.location.Covers source before covered after ∧
      ∃ test, parseCondition covered = .ok test
  expression : error.cause = .expectedCondition →
    ∃ before covered after, error.location.Covers source before covered after ∧
      ∃ tree, parseExpr covered = .ok tree

/-- A stretch that ends where the source ends. -/
theorem Location.Covers.stop_eq {location : Location} {source before covered : String}
    (covers : location.Covers source before covered "") :
    location.stop = source.utf8ByteSize := by
  rw [covers.split, Location.stop, covers.offset, covers.length, String.append_empty,
    String.utf8ByteSize_append]

variable {α : Type}

/-- The fault is met in the source, or is that of the characters behind what the rule
derives. -/
def Fault.FoundBy (rule : Rule α) (source : List Char) (fault : Fault) : Prop :=
  fault.MetIn source ∨
    ∃ value rest, Spaced rule source value rest ∧ fault = ⟨.leftovers, none, rest, []⟩

theorem Fault.FoundBy.liesIn {rule : Rule α} {source : List Char} {fault : Fault}
    (found : fault.FoundBy rule source) (lexical : IsLexical rule) : fault.LiesIn source := by
  rcases found with met | ⟨value, rest, derived, rfl⟩
  · exact met.toLiesIn
  · obtain ⟨taken, rfl, -⟩ := (lexical.spaced derived).cuts
    exact ⟨List.nil_suffix, List.suffix_append taken rest⟩

/-- A term in a source is the whole of a text when its stretch is cut out. -/
theorem derives_of_stretch {rule : Rule α} {covered stop : List Char} {value : α}
    (lexical : IsLexical rule)
    (begins : ∀ {source rest}, rule source value rest → BeginsOperand source)
    (derived : rule (covered ++ stop) value stop) : Derives rule (String.ofList covered) value := by
  have alone := lexical.alone derived
  rw [Derives, String.toList_ofList]
  exact ⟨covered, [], (begins alone).layout, alone, .done (by simp [BeginsLayout])⟩

/-- The fault of a rule becomes an error that delimits what it speaks of. -/
theorem delimits_of_foundBy {rule : Rule α} {parse : String → Except SourceError α}
    {source : List Char} {fault : Fault} (lexical : IsLexical rule)
    (accepts : ∀ {text value}, parse text = .ok value ↔ IsAscii text ∧ Derives rule text value)
    (ascii : ∀ c ∈ source, Source.isAscii c = true) (found : fault.FoundBy rule source) :
    (SourceError.ofFault source fault).Delimits parse (String.ofList source) := by
  obtain ⟨before, covered, split, splitStart, covers⟩ := (found.liesIn lexical).covers ascii
  have asciiBefore : IsAscii (String.ofList before) := fun c member =>
    ascii c (by rw [split]; simp [String.toList_ofList ▸ member])
  have asciiCovered : IsAscii (String.ofList covered) := fun c member =>
    ascii c (by rw [split, splitStart]; simp [String.toList_ofList ▸ member])
  refine ⟨fun cause => ?_, fun cause => ?_, fun cause => ?_⟩
  · rcases found with met | ⟨value, rest, derived, rfl⟩
    · exact absurd cause met.notLeftovers
    · subst split
      have accepted : parse (String.ofList before) = .ok value := by
        rw [accepts, Derives, String.toList_ofList]
        exact ⟨asciiBefore, lexical.spaced.alone derived⟩
      exact ⟨covers.stop_eq, _, _, covers, value, accepted⟩
  · rcases found with met | ⟨value, rest, derived, rfl⟩
    · obtain ⟨test, derived⟩ := met.condition cause
      rw [splitStart] at derived
      have accepted := parseCondition_eq_ok_iff.2
        ⟨asciiCovered, derives_of_stretch Logical.isLexical Logical.beginsOperand derived⟩
      exact ⟨_, _, _, covers, test, accepted⟩
    · cases cause
  · rcases found with met | ⟨value, rest, derived, rfl⟩
    · obtain ⟨tree, derived⟩ := met.expression cause
      rw [splitStart] at derived
      have accepted := parseExpr_eq_ok_iff.2
        ⟨asciiCovered, derives_of_stretch Expression.isLexical Expression.beginsOperand derived⟩
      exact ⟨_, _, _, covers, tree, accepted⟩
    · cases cause

/-- The faults of a parser over sources in ASCII come out as errors that delimit what they
speak of. -/
theorem readAscii_delimits {rule : Rule α} {read : List Char → Except Fault α} {source : String}
    {error : SourceError} (lexical : IsLexical rule)
    (accepts : ∀ {text value},
      Source.readAscii read text = .ok value ↔ IsAscii text ∧ Derives rule text value)
    (finds : ∀ {source fault}, read source = .error fault → fault.FoundBy rule source)
    (failed : Source.readAscii read source = .error error) :
    error.Delimits (Source.readAscii read) source := by
  rcases readAscii_eq_error.1 failed with ⟨location, -, rfl⟩ | ⟨ascii, fault, reading, rfl⟩
  · exact ⟨by simp, by simp, by simp⟩
  · have delimits := delimits_of_foundBy lexical accepts ascii (finds reading)
    rwa [String.ofList_toList] at delimits

namespace Source

variable {source : List Char} {fault : Fault}

theorem readAll_foundBy {reader : Reader α} {rule : Rule α}
    (accounts : reader.AccountsFor source fun _ => True) (sound : reader.Sound rule)
    (failed : readAll reader source = .error fault) : fault.FoundBy rule source := by
  rcases readAll_faulted accounts failed with met | ⟨value, rest, reading, rfl⟩
  · exact .inl met
  · exact .inr ⟨value, rest, sound.spaced reading, rfl⟩

theorem expression_foundBy
    (failed : readAll (Reader.expression (Reader.term (depth source))) source = .error fault) :
    fault.FoundBy Expression source :=
  readAll_foundBy (Reader.expression_accountsFor (Reader.term_accountsFor _) (Reader.term_sound _)
    (Reader.term_consumes _)) (Reader.expression_sound (Reader.term_sound _)) failed

theorem condition_foundBy
    (failed : readAll (Reader.condition (Reader.term (depth source))) source = .error fault) :
    fault.FoundBy Logical source :=
  readAll_foundBy (Reader.condition_accountsFor (Reader.term_accountsFor _) (Reader.term_sound _)
    (Reader.term_consumes _)) (Reader.condition_sound (Reader.term_sound _)) failed

/-- The layout behind the last semicolon is read with it, so the leftovers of a formula begin
where the layout behind what is derived ends. -/
theorem formula_foundBy
    (failed : (do
      notBlank source
      readAll (Reader.formula (Reader.term (depth source))) source) = .error fault) :
    fault.FoundBy FormulaRule source := by
  cases blank : notBlank source with
  | error blankFault =>
      rw [blank] at failed
      cases failed
      exact .inl (notBlank_met blank)
  | ok value =>
      rw [blank] at failed
      rcases readAll_faulted (Reader.formula_accountsFor (Reader.term_accountsFor _)
        (Reader.term_sound _) (Reader.term_consumes _)) failed with met | ⟨tree, rest, reading, rfl⟩
      · exact .inl met
      · obtain ⟨before, after, layoutBefore, reading, layoutAfter⟩ :=
          Reader.spaced_eq_read.1 reading
        obtain ⟨rest', derived, layout⟩ :=
          Reader.formula_sound (Reader.term_sound _) (Reader.term_consumes _) reading
        exact .inr
          ⟨tree, rest, ⟨before, rest', layoutBefore, derived, layout rest layoutAfter⟩, rfl⟩

end Source

/-- Each of the three parsers fails with errors that delimit what they speak of. -/
theorem parse_error_delimits (source : String) :
    (∀ error, parseFormula source = .error error → error.Delimits parseFormula source) ∧
    (∀ error, parseExpr source = .error error → error.Delimits parseExpr source) ∧
    (∀ error, parseCondition source = .error error → error.Delimits parseCondition source) := by
  refine ⟨fun error failed => ?_, fun error failed => ?_, fun error failed => ?_⟩
  · exact readAscii_delimits FormulaRule.isLexical parseFormula_eq_ok_iff Source.formula_foundBy
      failed
  · exact readAscii_delimits Expression.isLexical parseExpr_eq_ok_iff Source.expression_foundBy
      failed
  · exact readAscii_delimits Logical.isLexical parseCondition_eq_ok_iff Source.condition_foundBy
      failed

/-- Names behind an assignment, its semicolon and a comment. -/
def namesBehind : SourceError :=
  ⟨.leftovers, none, ⟨12, 1, 13, 3⟩⟩

/-- A condition in parentheses where a factor is due. -/
def testedFactor : SourceError :=
  ⟨.expectedArithmetic, none, ⟨4, 1, 5, 21⟩⟩

/-- A sum where the second of three conditions is due. -/
def summedCondition : SourceError :=
  ⟨.expectedCondition, none, ⟨8, 1, 9, 5⟩⟩

theorem parse_error_delimits_names_factor_and_sum :
    parseFormula "x = y; /**/ z y" = .error namesBehind ∧
    namesBehind.Delimits parseFormula "x = y; /**/ z y" ∧
    parseExpr "y * (a > b && true /**/ ) - z" = .error testedFactor ∧
    testedFactor.Delimits parseExpr "y * (a > b && true /**/ ) - z" ∧
    parseCondition "true && y + x /**/ || false" = .error summedCondition ∧
    summedCondition.Delimits parseCondition "true && y + x /**/ || false" := by
  have names : parseFormula "x = y; /**/ z y" = .error namesBehind := by
    cbv
  have factor : parseExpr "y * (a > b && true /**/ ) - z" = .error testedFactor := by
    cbv
  have sum : parseCondition "true && y + x /**/ || false" = .error summedCondition := by
    cbv
  have delimitsNames := (parse_error_delimits "x = y; /**/ z y").1 _ names
  have delimitsFactor := (parse_error_delimits "y * (a > b && true /**/ ) - z").2.1 _ factor
  have delimitsSum := (parse_error_delimits "true && y + x /**/ || false").2.2 _ sum
  exact ⟨names, delimitsNames, factor, delimitsFactor, sum, delimitsSum⟩

end RewardFormula
