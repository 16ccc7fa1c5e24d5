import RewardFormula.Arena.PlayerSpec
import RewardFormula.Proofs.Number.NumberReading

/-!
# Texts of player specs

The marks of a spec stand in no part that is accepted beside them, so that a text is taken apart
exactly as it is put together.
-/

namespace RewardFormula

namespace PlayerSpec

section Splitting

variable {mark : Char} {text before after : List Char}

theorem ne_of_not_mem (absent : mark ∉ text) : ∀ c ∈ text, (c != mark) = true := by
  intro c member
  rw [bne_iff_ne]
  rintro rfl
  exact absent member

theorem splitFirst?_append (notBefore : mark ∉ before) :
    splitFirst? mark (before ++ mark :: after) = some (before, after) := by
  have passes := ne_of_not_mem notBefore
  rw [splitFirst?, List.dropWhile_append_of_pos passes, List.takeWhile_append_of_pos passes]
  simp

theorem splitFirst?_eq_none (absent : mark ∉ text) : splitFirst? mark text = none := by
  rw [splitFirst?, List.dropWhile_eq_nil_iff.2 (ne_of_not_mem absent)]

theorem eq_append_of_splitFirst? (split : splitFirst? mark text = some (before, after)) :
    text = before ++ mark :: after := by
  by_cases present : mark ∈ text
  · obtain ⟨before', after', rfl, notBefore⟩ := List.eq_append_cons_of_mem present
    rw [splitFirst?_append notBefore] at split
    cases split
    rfl
  · rw [splitFirst?_eq_none present] at split
    cases split

theorem splitLast?_append (notAfter : mark ∉ after) :
    splitLast? mark (before ++ mark :: after) = some (before, after) := by
  have reversed : (before ++ mark :: after).reverse = after.reverse ++ mark :: before.reverse := by
    simp
  rw [splitLast?, reversed, splitFirst?_append (by rwa [List.mem_reverse])]
  simp

theorem splitLast?_eq_none (absent : mark ∉ text) : splitLast? mark text = none := by
  rw [splitLast?, splitFirst?_eq_none (by rwa [List.mem_reverse])]
  rfl

theorem eq_append_of_splitLast? (split : splitLast? mark text = some (before, after)) :
    text = before ++ mark :: after := by
  by_cases present : mark ∈ text.reverse
  · obtain ⟨after', before', same, notAfter⟩ := List.eq_append_cons_of_mem present
    have parts : text = before'.reverse ++ mark :: after'.reverse := by
      rw [← text.reverse_reverse, same]
      simp
    rw [parts, splitLast?_append (by rwa [List.mem_reverse])] at split
    cases split
    exact parts
  · rw [splitLast?, splitFirst?_eq_none present] at split
    cases split

end Splitting

theorem splitSpectator_mark (head : List Char) :
    splitSpectator (head ++ spectatorMark) = (head, true) := by
  have marked : spectatorMark.isSuffixOf (head ++ spectatorMark) = true :=
    List.isSuffixOf_iff_suffix.2 (List.suffix_append _ _)
  rw [splitSpectator, if_pos marked, List.length_append, Nat.add_sub_cancel, List.take_left]

theorem splitSpectator_none {text : List Char} (noColon : ':' ∉ text) :
    splitSpectator text = (text, false) := by
  have unmarked : ¬ spectatorMark.isSuffixOf text = true := by
    rw [List.isSuffixOf_iff_suffix]
    rintro ⟨head, rfl⟩
    exact noColon (List.mem_append_right _ (by decide))
  rw [splitSpectator, if_neg unmarked]

theorem eq_append_of_splitSpectator {text head : List Char} {spectator : Bool}
    (split : splitSpectator text = (head, spectator)) :
    text = head ++ (if spectator then spectatorMark else []) := by
  unfold splitSpectator at split
  split at split
  next marked =>
    obtain ⟨before, rfl⟩ := List.isSuffixOf_iff_suffix.1 marked
    rw [List.length_append, Nat.add_sub_cancel, List.take_left] at split
    cases split
    rfl
  next =>
    cases split
    exact (List.append_nil text).symm

/-- An optional part of a spec behind its mark. -/
def part (mark : Char) : Option (List Char) → List Char
  | none => []
  | some text => mark :: text

section OptionalParts

variable {mark : Char} {text head : List Char} {optional : Option (List Char)}

theorem optionalPart_splitFirst? (notBefore : mark ∉ head) :
    optionalPart (head ++ part mark optional) (splitFirst? mark (head ++ part mark optional)) =
      (head, optional) := by
  cases optional with
  | none =>
      rw [part, List.append_nil, splitFirst?_eq_none notBefore, optionalPart]
  | some after =>
      rw [part, splitFirst?_append notBefore, optionalPart]

theorem optionalPart_splitLast? (notBefore : mark ∉ head)
    (notAfter : ∀ after ∈ optional, mark ∉ after) :
    optionalPart (head ++ part mark optional) (splitLast? mark (head ++ part mark optional)) =
      (head, optional) := by
  cases optional with
  | none =>
      rw [part, List.append_nil, splitLast?_eq_none notBefore, optionalPart]
  | some after =>
      rw [part, splitLast?_append (notAfter after rfl), optionalPart]

theorem eq_append_of_optionalPart {split : Option (List Char × List Char)}
    (parts : ∀ before after, split = some (before, after) → text = before ++ mark :: after)
    (found : optionalPart text split = (head, optional)) : text = head ++ part mark optional := by
  cases split with
  | none =>
      cases found
      exact (List.append_nil text).symm
  | some pair =>
      cases found
      exact parts _ _ rfl

end OptionalParts

theorem mapError_eq_ok_iff {ε ε' α : Type} {result : Except ε α} {convert : ε → ε'} {value : α} :
    result.mapError convert = .ok value ↔ result = .ok value := by
  cases result with
  | error fault =>
      constructor
      · intro impossible
        cases impossible
      · intro impossible
        cases impossible
  | ok found =>
      exact ⟨fun same => by cases same; rfl, fun same => by cases same; rfl⟩

theorem readFreq_eq_ok_iff {spectator : Bool} {optional : Option (List Char)} {freq : Int32} :
    readFreq spectator optional = .ok freq ↔
      (∀ text ∈ optional, readInt32 (String.ofList text) = .ok freq) ∧
        (optional = none → freq = if spectator then spectatorFreq else 0) := by
  cases optional with
  | none =>
      simp [readFreq, eq_comm]
  | some text =>
      simp [readFreq, mapError_eq_ok_iff]

theorem readBounty_eq_ok_iff {optional : Option (List Char)} {bounty : Float} :
    readBounty optional = .ok bounty ↔
      (∀ text ∈ optional, readFloat (String.ofList text) = .ok bounty) ∧
        (optional = none → bounty = 0) := by
  cases optional with
  | none =>
      simp [readBounty, eq_comm]
  | some text =>
      simp [readBounty, mapError_eq_ok_iff]

theorem isName_iff {name : List Char} :
    isName name = true ↔ name ≠ [] ∧ ∀ c ∈ name, c.isAlphanum = true ∨ c = '_' := by
  simp [isName, isNameChar]

/-- The parts that a text is cut into have to be read one after the other. -/
theorem parse_eq_ok_iff_of_cuts {source : String} {head rest name : List Char} {spectator : Bool}
    {bountyText freqText : Option (List Char)}
    (bountyCut : optionalPart source.toList (splitLast? '/' source.toList) = (head, bountyText))
    (spectatorCut : splitSpectator head = (rest, spectator))
    (freqCut : optionalPart rest (splitFirst? '@' rest) = (name, freqText)) (spec : PlayerSpec) :
    parse source = .ok spec ↔
      readBounty bountyText = .ok spec.bounty ∧ readFreq spectator freqText = .ok spec.freq ∧
        isName name = true ∧ spec.name = String.ofList name ∧ spec.spectator = spectator := by
  unfold parse
  simp only [bountyCut, spectatorCut, freqCut]
  cases readBounty bountyText with
  | error fault =>
      simp [bind, Except.bind]
  | ok bounty =>
      cases readFreq spectator freqText with
      | error fault =>
          simp [bind, Except.bind]
      | ok freq =>
          obtain ⟨name', freq', spectator', bounty'⟩ := spec
          by_cases named : isName name = true
          · simp only [bind, Except.bind, named, if_true, Except.ok.injEq, PlayerSpec.mk.injEq]
            tauto
          · simp [bind, Except.bind, named]

/-- A text has the form `NAME[@FREQ][:spec][/BOUNTY]`, and the fields of a spec are its parts or
the defaults. -/
structure Describes (source : String) (spec : PlayerSpec)
    (freqText bountyText : Option (List Char)) : Prop where
  form : source.toList = spec.name.toList ++ part '@' freqText ++
    (if spec.spectator then spectatorMark else []) ++ part '/' bountyText
  nameNonempty : spec.name.toList ≠ []
  nameCharacters : ∀ c ∈ spec.name.toList, c.isAlphanum = true ∨ c = '_'
  freqRead : ∀ text ∈ freqText, readInt32 (String.ofList text) = .ok spec.freq
  freqDefault : freqText = none → spec.freq = if spec.spectator then 8025 else 0
  bountyRead : ∀ text ∈ bountyText, readFloat (String.ofList text) = .ok spec.bounty
  bountyDefault : bountyText = none → spec.bounty = 0

section Forms

variable {source : String} {spec : PlayerSpec}

theorem exists_describes_of_parse (accepted : parse source = .ok spec) :
    ∃ freqText bountyText, Describes source spec freqText bountyText := by
  obtain ⟨⟨head, bountyText⟩, bountyCut⟩ :
      ∃ cut, optionalPart source.toList (splitLast? '/' source.toList) = cut := ⟨_, rfl⟩
  obtain ⟨⟨rest, spectator⟩, spectatorCut⟩ : ∃ cut, splitSpectator head = cut := ⟨_, rfl⟩
  obtain ⟨⟨name, freqText⟩, freqCut⟩ :
      ∃ cut, optionalPart rest (splitFirst? '@' rest) = cut := ⟨_, rfl⟩
  obtain ⟨bounty, freq, named, sameName, sameMark⟩ :=
    (parse_eq_ok_iff_of_cuts bountyCut spectatorCut freqCut spec).1 accepted
  obtain ⟨nonempty, characters⟩ := isName_iff.1 named
  obtain ⟨bountyRead, bountyDefault⟩ := readBounty_eq_ok_iff.1 bounty
  obtain ⟨freqRead, freqDefault⟩ := readFreq_eq_ok_iff.1 freq
  have sameSource := eq_append_of_optionalPart (fun _ _ => eq_append_of_splitLast?) bountyCut
  have sameHead := eq_append_of_splitSpectator spectatorCut
  have sameRest := eq_append_of_optionalPart (fun _ _ => eq_append_of_splitFirst?) freqCut
  have characterList : spec.name.toList = name := by
    rw [sameName, String.toList_ofList]
  rw [← characterList] at nonempty characters sameRest
  rw [← sameMark] at freqDefault sameHead
  exact ⟨freqText, bountyText, by rw [sameSource, sameHead, sameRest], nonempty, characters,
    freqRead, freqDefault, bountyRead, bountyDefault⟩

section Marks

variable {freqText bountyText : Option (List Char)}
  (describes : Describes source spec freqText bountyText)

include describes

theorem Describes.not_mem_name {mark : Char} (notAlphanum : mark.isAlphanum = false)
    (notLine : mark ≠ '_') : mark ∉ spec.name.toList := by
  intro member
  rcases describes.nameCharacters mark member with isAlphanum | isLine
  · rw [isAlphanum] at notAlphanum
    cases notAlphanum
  · exact notLine isLine

theorem Describes.not_mem_freq {mark : Char} (notAt : mark ≠ '@') (notDigit : mark.isDigit = false)
    (notSign : mark ≠ '-' ∧ mark ≠ '+') : mark ∉ part '@' freqText := by
  cases freqText with
  | none =>
      exact List.not_mem_nil
  | some text =>
      rw [part, List.mem_cons, not_or]
      refine ⟨notAt, fun member => ?_⟩
      have characters := characters_of_readInt32 (describes.freqRead text rfl)
      rw [String.toList_ofList] at characters
      rcases characters mark member with isDigit | isMinus | isPlus
      · rw [isDigit] at notDigit
        cases notDigit
      · exact notSign.1 isMinus
      · exact notSign.2 isPlus

/-- A text of the form is taken apart into its parts. -/
theorem Describes.parse : PlayerSpec.parse source = .ok spec := by
  have noSlash : '/' ∉ spec.name.toList ++ part '@' freqText ++
      (if spec.spectator then spectatorMark else []) := by
    have notInMark : ∀ spectator : Bool, '/' ∉ if spectator then spectatorMark else [] := by
      decide
    rw [List.mem_append, List.mem_append, not_or, not_or]
    exact ⟨⟨describes.not_mem_name (by decide) (by decide),
      describes.not_mem_freq (by decide) (by decide) (by decide)⟩, notInMark _⟩
  have noSlashAfter : ∀ text ∈ bountyText, '/' ∉ text := by
    intro text same
    have absent := slash_not_mem_of_readFloat (describes.bountyRead text same)
    rwa [String.toList_ofList] at absent
  have noColon : ':' ∉ spec.name.toList ++ part '@' freqText := by
    rw [List.mem_append, not_or]
    exact ⟨describes.not_mem_name (by decide) (by decide),
      describes.not_mem_freq (by decide) (by decide) (by decide)⟩
  have bountyCut := optionalPart_splitLast? noSlash noSlashAfter
  rw [← describes.form] at bountyCut
  have spectatorCut : splitSpectator (spec.name.toList ++ part '@' freqText ++
      (if spec.spectator then spectatorMark else [])) =
        (spec.name.toList ++ part '@' freqText, spec.spectator) := by
    cases spec.spectator with
    | true =>
        exact splitSpectator_mark _
    | false =>
        rw [if_neg Bool.false_ne_true, List.append_nil]
        exact splitSpectator_none noColon
  have freqCut : optionalPart (spec.name.toList ++ part '@' freqText)
      (splitFirst? '@' (spec.name.toList ++ part '@' freqText)) = (spec.name.toList, freqText) :=
    optionalPart_splitFirst? (describes.not_mem_name (by decide) (by decide))
  rw [parse_eq_ok_iff_of_cuts bountyCut spectatorCut freqCut, readBounty_eq_ok_iff,
    readFreq_eq_ok_iff, isName_iff]
  exact ⟨⟨describes.bountyRead, describes.bountyDefault⟩,
    ⟨describes.freqRead, describes.freqDefault⟩,
    ⟨describes.nameNonempty, describes.nameCharacters⟩, (String.ofList_toList).symm, rfl⟩

end Marks

end Forms

theorem toList_text (spec : PlayerSpec) :
    (text spec).toList = spec.name.toList ++ part '@' (some (toString spec.freq.toInt).toList) ++
      (if spec.spectator then spectatorMark else []) ++
        part '/' (some (numberText spec.bounty).toList) := by
  have mark : (if spec.spectator then ":spec" else "").toList =
      if spec.spectator then spectatorMark else [] := by
    cases spec.spectator with
    | true => rfl
    | false => rfl
  simp [text, part, mark]

theorem text_congr {spec spec' : PlayerSpec} (name : spec.name = spec'.name)
    (freq : spec.freq = spec'.freq) (spectator : spec.spectator = spec'.spectator)
    (bounty : numberText spec.bounty = numberText spec'.bounty) : text spec = text spec' := by
  rw [text, text, name, freq, spectator, bounty]

/-- The spec that is read back from a text: a not-a-number has lost its bits. -/
def reread (spec : PlayerSpec) : PlayerSpec :=
  { spec with bounty := if spec.bounty.isNaN then Binary64.notANumber else spec.bounty }

theorem describes_text {spec : PlayerSpec} (nonempty : spec.name.toList ≠ [])
    (characters : ∀ c ∈ spec.name.toList, c.isAlphanum = true ∨ c = '_') :
    Describes (text spec) (reread spec) (some (toString spec.freq.toInt).toList)
      (some (numberText spec.bounty).toList) where
  form := toList_text spec
  nameNonempty := nonempty
  nameCharacters := characters
  freqRead := by
    intro written same
    cases same
    rw [String.ofList_toList]
    exact readInt32_toString spec.freq
  freqDefault := nofun
  bountyRead := by
    intro written same
    cases same
    rw [String.ofList_toList]
    exact readFloat_numberText spec.bounty
  bountyDefault := nofun

theorem text_reread (spec : PlayerSpec) : text (reread spec) = text spec := by
  refine text_congr rfl rfl rfl ?_
  change numberText (if spec.bounty.isNaN then Binary64.notANumber else spec.bounty) = _
  split
  next nan =>
    rw [numberText_of_isNaN nan]
    exact numberText_of_isNaN ((Binary64.isNaN_iff _).2 (by decide))
  next =>
    rfl

end PlayerSpec

open PlayerSpec

/-- The parser accepts exactly the texts of the form `NAME[@FREQ][:spec][/BOUNTY]`, with the parts
or the defaults as the fields. It gives back every spec from its text if the bounty is a number,
and a text that was read and written is not changed by reading and writing it again. -/
theorem parse_spec_iff_describes :
    (∀ source spec, parse source = .ok spec ↔
      ∃ freqText bountyText, Describes source spec freqText bountyText) ∧
    (∀ spec : PlayerSpec, spec.name.toList ≠ [] →
      (∀ c ∈ spec.name.toList, c.isAlphanum = true ∨ c = '_') → spec.bounty.isNaN = false →
        parse (text spec) = .ok spec) ∧
    ∀ source spec, parse source = .ok spec →
      ∃ spec', parse (text spec) = .ok spec' ∧ text spec' = text spec := by
  refine ⟨fun source spec => ⟨exists_describes_of_parse, ?_⟩, ?_, ?_⟩
  · rintro ⟨freqText, bountyText, describes⟩
    exact describes.parse
  · intro spec nonempty characters number
    have same : reread spec = spec := by
      rw [reread, number]
      rfl
    have describes := describes_text nonempty characters
    rw [same] at describes
    exact describes.parse
  · intro source spec accepted
    obtain ⟨_, _, describes⟩ := exists_describes_of_parse accepted
    exact ⟨reread spec, (describes_text describes.nameNonempty describes.nameCharacters).parse,
      text_reread spec⟩

theorem parse_spec_iff_describes_carol :
    let carol : PlayerSpec := ⟨"carol", 2, true, 7.5⟩
    (∀ c ∈ carol.name.toList, c.isAlphanum = true ∨ c = '_') ∧ carol.bounty.isNaN = false ∧
      parse (text carol) = .ok carol ∧
        ∃ spec, parse (text carol) = .ok spec ∧ text spec = text carol := by
  intro carol
  obtain ⟨-, reads, idempotent⟩ := parse_spec_iff_describes
  obtain ⟨nonempty, characters⟩ := isName_iff.1 (by decide : isName "carol".toList = true)
  have number : Float.isNaN 7.5 = false := by
    decide +kernel
  have accepted := reads carol nonempty characters number
  exact ⟨characters, number, accepted, idempotent _ _ accepted⟩

end RewardFormula
