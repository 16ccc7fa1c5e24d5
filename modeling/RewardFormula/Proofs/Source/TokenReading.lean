import RewardFormula.Proofs.Source.LayoutReading

/-!
# Tokens are read as the grammar has them

Each reader of a token reads it exactly where the grammar derives it. Only the
comparison signs need to know what follows: the longer of two signs is read.
-/

namespace RewardFormula

namespace Reader

open Grammar

theorem character_eq_read {c : Char} {source rest : List Char} {value : Unit} :
    character c source = .read value rest ↔ Sign c source value rest := by
  unfold character Sign
  split
  next =>
    simp
  next actual tail =>
    by_cases same : actual = c
    · simp [same]
    · simp [same]

theorem character_refuses {c : Char} {source : List Char} :
    (character c).Refuses source ↔ source.head? ≠ some c := by
  unfold Refuses character
  split
  next =>
    simp
  next actual tail =>
    by_cases same : actual = c
    · simp [same]
    · simp [same]

theorem afterWord?_eq_some_iff {word source rest : List Char} :
    afterWord? word source = some rest ↔ source = word ++ rest := by
  induction word generalizing source with
  | nil =>
      simp [afterWord?]
  | cons expected word inductionHypothesis =>
      cases source with
      | nil =>
          simp [afterWord?]
      | cons actual tail =>
          by_cases same : actual = expected
          · simp [afterWord?, same, inductionHypothesis]
          · simp [afterWord?, same]

theorem word_eq_read {expected : String} {source rest : List Char} {value : Unit} :
    word expected source = .read value rest ↔ source = expected.toList ++ rest := by
  rw [← afterWord?_eq_some_iff]
  unfold word
  cases afterWord? expected.toList source <;> simp

theorem word_refuses {expected : String} {source : List Char} :
    (word expected).Refuses source ↔ ¬ ∃ rest, source = expected.toList ++ rest := by
  simp only [← afterWord?_eq_some_iff]
  unfold Refuses word
  cases afterWord? expected.toList source <;> simp [refuse]

theorem notFollowedBy_eq_read
    {isExcluded : Char → Bool} {source rest : List Char} {value : Unit} :
    notFollowedBy isExcluded source = .read value rest ↔
      source = rest ∧ EndsBefore isExcluded source := by
  unfold notFollowedBy
  split
  next next tail =>
    by_cases excluded : isExcluded next = true
    · simp [excluded, EndsBefore]
    · simp [excluded, EndsBefore]
  next =>
    simp [EndsBefore]

theorem notFollowedBy_refuses {isExcluded : Char → Bool} {source : List Char} :
    (notFollowedBy isExcluded).Refuses source ↔ ¬ EndsBefore isExcluded source := by
  unfold Refuses notFollowedBy
  split
  next next tail =>
    by_cases excluded : isExcluded next = true
    · simp [excluded, EndsBefore, refuse]
    · simp [excluded, EndsBefore]
  next =>
    simp [EndsBefore]

theorem keyword_eq_read {expected : String} {source rest : List Char} {value : Unit} :
    keyword expected source = .read value rest ↔ Keyword expected source rest := by
  simp only [keyword, bind_eq_read, word_eq_read, notFollowedBy_eq_read, Keyword]
  constructor
  · rintro ⟨-, middle, rfl, rfl, ends⟩
    exact ⟨rfl, ends⟩
  · rintro ⟨rfl, ends⟩
    exact ⟨(), rest, rfl, rfl, ends⟩

theorem keyword_refuses {expected : String} {source : List Char} :
    (keyword expected).Refuses source ↔ ¬ ∃ rest, Keyword expected source rest := by
  simp only [keyword, bind_refuses, word_refuses, word_eq_read, notFollowedBy_refuses, Keyword]
  constructor
  · rintro (refusal | ⟨-, middle, rfl, notEnds⟩) ⟨rest, split, ends⟩
    · exact refusal ⟨rest, split⟩
    · rw [List.append_cancel_left split] at notEnds
      exact notEnds ends
  · intro refusal
    by_cases front : ∃ rest, source = expected.toList ++ rest
    · obtain ⟨rest, split⟩ := front
      exact .inr ⟨(), rest, split, fun ends => refusal ⟨rest, split, ends⟩⟩
    · exact .inl front

end Reader

/-- Reserved words are made of the characters of names. -/
theorem Name.exists_of_mem_reserved {word : String} (reserved : word ∈ Name.reserved) :
    ∃ first tail, word = String.ofList (first :: tail) ∧ ∀ c ∈ tail, Name.isPart c = true := by
  have shapes : ∀ word ∈ Name.reserved,
      word = String.ofList (word.toList.headD ' ' :: word.toList.tail) ∧
        word.toList.tail.all Name.isPart = true := by
    decide
  obtain ⟨letters, allParts⟩ := shapes word reserved
  exact ⟨_, _, letters, List.all_eq_true.1 allParts⟩

namespace Grammar

theorem isValid_ofList {first : Char} {tail : List Char} :
    Name.isValid (String.ofList (first :: tail)) = true ↔
      Name.isStart first = true ∧ (∀ c ∈ tail, Name.isPart c = true) ∧
        Name.reserved.contains (String.ofList (first :: tail)) = false := by
  simp [Name.isValid, String.toList_ofList, and_assoc]

theorem not_variableName_nil {name : String} {rest : List Char} :
    ¬ VariableName [] name rest := by
  rintro ⟨split, valid, -⟩
  have empty : name.toList = [] := (List.append_eq_nil_iff.1 split.symm).1
  simp [Name.isValid, empty] at valid

/-- The name in front of a source is the run of the characters of names there. -/
theorem variableName_cons_iff {first : Char} {tail rest : List Char} {name : String} :
    VariableName (first :: tail) name rest ↔
      Name.isStart first = true ∧ name = String.ofList (first :: tail.takeWhile Name.isPart) ∧
        rest = tail.dropWhile Name.isPart ∧ Name.reserved.contains name = false := by
  constructor
  · rintro ⟨split, valid, ends⟩
    obtain ⟨chars, rfl⟩ : ∃ chars, name = String.ofList chars := ⟨name.toList, by simp⟩
    rw [String.toList_ofList] at split
    cases chars with
    | nil =>
        simp [Name.isValid] at valid
    | cons c chars =>
        simp only [List.cons_append, List.cons.injEq] at split
        obtain ⟨rfl, split⟩ := split
        obtain ⟨start, parts, allowed⟩ := isValid_ofList.1 valid
        obtain ⟨rfl, rfl⟩ := run_iff.1 ⟨split, parts, ends⟩
        exact ⟨start, rfl, rfl, allowed⟩
  · rintro ⟨start, rfl, rfl, allowed⟩
    obtain ⟨split, parts, ends⟩ := run_spec Name.isPart tail
    refine ⟨?_, isValid_ofList.2 ⟨start, parts, allowed⟩, ends⟩
    rw [String.toList_ofList, List.cons_append, ← split]

/-- A reserved word is not the beginning of a name, and the longest name there
is no name. -/
theorem Keyword.not_variableName {word name : String} {source rest rest' : List Char}
    (keyword : Keyword word source rest) (reserved : word ∈ Name.reserved) :
    ¬ VariableName source name rest' := by
  obtain ⟨first, tail, rfl, parts⟩ := Name.exists_of_mem_reserved reserved
  obtain ⟨split, ends⟩ := keyword
  rw [String.toList_ofList, List.cons_append] at split
  rw [split, variableName_cons_iff]
  rintro ⟨-, rfl, -, allowed⟩
  rw [takeWhile_run parts ends, List.contains_iff_mem.2 reserved] at allowed
  cases allowed

end Grammar

namespace Reader

open Grammar

theorem name_eq_read {source rest : List Char} {found : String} :
    name source = .read found rest ↔ VariableName source found rest := by
  cases source with
  | nil =>
      simp [name, not_variableName_nil]
  | cons first tail =>
      rw [variableName_cons_iff]
      by_cases start : Name.isStart first = true
      · by_cases reserved :
            Name.reserved.contains (String.ofList (first :: tail.takeWhile Name.isPart)) = true
        · simp only [name, start, reserved, if_true, reduceCtorEq, true_and, false_iff]
          rintro ⟨rfl, -, allowed⟩
          rw [reserved] at allowed
          cases allowed
        · simp only [name, start, reserved, Bool.false_eq_true, if_true, if_false,
            Reply.read.injEq, true_and]
          constructor
          · rintro ⟨rfl, rfl⟩
            exact ⟨rfl, rfl, Bool.eq_false_iff.2 reserved⟩
          · rintro ⟨rfl, rfl, -⟩
            exact ⟨rfl, rfl⟩
      · simp [name, start]

theorem name_refuses {source : List Char} :
    name.Refuses source ↔ ¬ ∃ found rest, VariableName source found rest := by
  simp only [← name_eq_read]
  cases reading : name source with
  | read found rest =>
      simp [Refuses, reading]
  | refused fault =>
      simp [Refuses, reading]
  | broken fault =>
      unfold name at reading
      split at reading
      next first tail =>
        simp only at reading
        split at reading
        · split at reading <;> cases reading
        · cases reading
      next =>
        cases reading

theorem characterGiving_eq_read {c : Char} {given found : α} {source rest : List Char} :
    (do character c; return given : Reader α) source = .read found rest ↔
      source = c :: rest ∧ given = found := by
  simp [character_eq_read, Sign]

theorem characterGiving_refuses {c : Char} {given : α} {source : List Char} :
    (do character c; return given : Reader α).Refuses source ↔ source.head? ≠ some c := by
  simp [character_refuses]

theorem wordGiving_eq_read {expected : String} {given found : α} {source rest : List Char} :
    (do word expected; return given : Reader α) source = .read found rest ↔
      source = expected.toList ++ rest ∧ given = found := by
  simp only [bind_eq_read, word_eq_read, pure_eq_read]
  constructor
  · rintro ⟨-, middle, split, same, rfl⟩
    exact ⟨split, same⟩
  · rintro ⟨split, same⟩
    exact ⟨(), rest, split, same, rfl⟩

theorem wordGiving_refuses {expected : String} {given : α} {source : List Char} :
    (do word expected; return given : Reader α).Refuses source ↔
      ¬ ∃ rest, source = expected.toList ++ rest := by
  simp [word_refuses]

theorem keywordGiving_eq_read {expected : String} {given found : α} {source rest : List Char} :
    (do keyword expected; return given : Reader α) source = .read found rest ↔
      Keyword expected source rest ∧ given = found := by
  simp only [bind_eq_read, keyword_eq_read, pure_eq_read]
  constructor
  · rintro ⟨-, middle, found, same, rfl⟩
    exact ⟨found, same⟩
  · rintro ⟨found, same⟩
    exact ⟨(), rest, found, same, rfl⟩

theorem keywordGiving_refuses {expected : String} {given : α} {source : List Char} :
    (do keyword expected; return given : Reader α).Refuses source ↔
      ¬ ∃ rest, Keyword expected source rest := by
  simp [keyword_refuses]

theorem assignSign_eq_read {source rest : List Char} {value : Unit} :
    assignSign source = .read value rest ↔
      Sign '=' source value rest ∧ EndsBefore (· == '=') rest := by
  simp only [assignSign, bind_eq_read, character_eq_read, notFollowedBy_eq_read, Sign]
  constructor
  · rintro ⟨-, middle, rfl, rfl, ends⟩
    exact ⟨rfl, ends⟩
  · rintro ⟨rfl, ends⟩
    exact ⟨(), rest, rfl, rfl, ends⟩

theorem binaryOp_eq_read {source rest : List Char} {op : BinaryOp} :
    binaryOp source = .read op rest ↔ BinarySign source op rest := by
  simp only [binaryOp, orElse_eq_read, characterGiving_eq_read, characterGiving_refuses, BinarySign]
  constructor
  · rintro (⟨rfl, rfl⟩ | ⟨-, ⟨rfl, rfl⟩ | ⟨-, ⟨rfl, rfl⟩ | ⟨-, ⟨rfl, rfl⟩ | ⟨-, rfl, rfl⟩⟩⟩⟩) <;>
      rfl
  · rintro rfl
    cases op <;> simp [BinaryOp.symbol]

theorem binaryOp_refuses {source : List Char} :
    binaryOp.Refuses source ↔ ∀ c ∈ source.head?, c ∉ ['+', '-', '*', '/', '^'] := by
  simp only [binaryOp, orElse_refuses, characterGiving_refuses]
  cases source <;> simp

theorem comparison_sound {source rest : List Char} {op : Comparison}
    (reading : comparison source = .read op rest) : ComparisonSign source op rest := by
  simp only [comparison, orElse_eq_read, wordGiving_eq_read, wordGiving_refuses] at reading
  rcases reading with ⟨rfl, rfl⟩ | ⟨-, ⟨rfl, rfl⟩ | ⟨-, ⟨rfl, rfl⟩ | ⟨-, ⟨rfl, rfl⟩ |
    ⟨-, ⟨rfl, rfl⟩ | ⟨-, rfl, rfl⟩⟩⟩⟩⟩ <;> rfl

theorem comparison_complete {source rest : List Char} {op : Comparison}
    (sign : ComparisonSign source op rest) (ends : EndsBefore (· == '=') rest) :
    comparison source = .read op rest := by
  have notEqual : ∀ tail, rest ≠ '=' :: tail := by
    rintro tail rfl
    simpa using ends '=' rfl
  simp only [comparison, orElse_eq_read, wordGiving_eq_read, wordGiving_refuses]
  rw [sign]
  cases op <;> simp [Comparison.symbol, notEqual]

theorem comparison_refuses {source : List Char}
    (other : ∀ c ∈ source.head?, c ∉ ['<', '>', '=', '!']) : comparison.Refuses source := by
  simp only [comparison, orElse_refuses, wordGiving_refuses]
  cases source with
  | nil =>
      simp
  | cons c tail =>
      have different := other c rfl
      simp only [List.mem_cons, List.not_mem_nil, or_false, not_or] at different
      simp [different]

/-- The connectives begin with different characters. -/
theorem logicalOp_eq_read {source rest : List Char} {op : LogicalOp} :
    logicalOp source = .read op rest ↔ LogicalSign source op rest := by
  simp only [logicalOp, orElse_eq_read, wordGiving_eq_read, wordGiving_refuses,
    keywordGiving_eq_read, keywordGiving_refuses]
  constructor
  · rintro (⟨rfl, rfl⟩ | ⟨-, ⟨word, rfl⟩ | ⟨-, ⟨word, rfl⟩ | ⟨-, ⟨rfl, rfl⟩ | ⟨-, ⟨word, rfl⟩ |
      ⟨-, word, rfl⟩⟩⟩⟩⟩)
    · exact @LogicalSign.symbol .and rest
    · exact .smallAnd word
    · exact .capitalAnd word
    · exact @LogicalSign.symbol .or rest
    · exact .smallOr word
    · exact .capitalOr word
  · intro sign
    cases sign with
    | @symbol op rest =>
        cases op <;> simp [LogicalOp.symbol, Keyword]
    | smallAnd word =>
        obtain ⟨rfl, ends⟩ := word
        simp [Keyword, ends]
    | capitalAnd word =>
        obtain ⟨rfl, ends⟩ := word
        simp [Keyword, ends]
    | smallOr word =>
        obtain ⟨rfl, ends⟩ := word
        simp [Keyword, ends]
    | capitalOr word =>
        obtain ⟨rfl, ends⟩ := word
        simp [Keyword, ends]

theorem logicalOp_refuses {source : List Char}
    (other : ∀ c ∈ source.head?, c ∉ ['&', '|', 'a', 'A', 'o', 'O']) :
    logicalOp.Refuses source := by
  simp only [logicalOp, orElse_refuses, wordGiving_refuses, keywordGiving_refuses, Keyword]
  cases source with
  | nil =>
      simp
  | cons c tail =>
      have different := other c rfl
      simp only [List.mem_cons, List.not_mem_nil, or_false, not_or] at different
      simp [different]

/-- So do the truth values. -/
theorem boolean_eq_read {source rest : List Char} {value : Bool} :
    boolean source = .read value rest ↔ BooleanWord source value rest := by
  simp only [boolean, orElse_eq_read, keywordGiving_eq_read, keywordGiving_refuses]
  constructor
  · rintro (⟨word, rfl⟩ | ⟨-, ⟨word, rfl⟩ | ⟨-, ⟨word, rfl⟩ | ⟨-, word, rfl⟩⟩⟩)
    · exact .small word
    · exact .capital word
    · exact .smallFalse word
    · exact .capitalFalse word
  · intro word
    cases word with
    | small word =>
        obtain ⟨rfl, ends⟩ := word
        simp [Keyword, ends]
    | capital word =>
        obtain ⟨rfl, ends⟩ := word
        simp [Keyword, ends]
    | smallFalse word =>
        obtain ⟨rfl, ends⟩ := word
        simp [Keyword, ends]
    | capitalFalse word =>
        obtain ⟨rfl, ends⟩ := word
        simp [Keyword, ends]

theorem boolean_refuses {source : List Char}
    (other : ∀ word ∈ ["true", "TRUE", "false", "FALSE"], ¬ ∃ rest, Keyword word source rest) :
    boolean.Refuses source := by
  simp only [boolean, orElse_refuses, keywordGiving_refuses]
  exact ⟨other _ (by simp), other _ (by simp), other _ (by simp), other _ (by simp)⟩

end Reader

end RewardFormula
