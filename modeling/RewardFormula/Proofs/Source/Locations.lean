import Mathlib.Data.String.Basic
import RewardFormula.Proofs.Source.Faults
import RewardFormula.Proofs.Source.Parsing

/-!
# Errors point into their source

The location of an error is that of a stretch of the source: its offset and
length are those of the stretch in bytes, its line and column are counted from
the text before the stretch. So both its ends are boundaries of characters.
-/

namespace RewardFormula

open Grammar

namespace Source

variable {α : Type} {source : List Char} {fault : Fault}

/-- A source is faulted by a rule, or for what the rule leaves of it. -/
theorem readAll_faulted {reader : Reader α} (accounts : reader.AccountsFor source fun _ => True)
    (failed : readAll reader source = .error fault) :
    fault.MetIn source ∨ ∃ value rest, Reader.spaced reader source = .read value rest ∧
      fault = ⟨.leftovers, none, rest, []⟩ := by
  have reply := accounts.spaced (List.suffix_refl source)
  unfold readAll at failed
  split at failed
  next =>
    cases failed
  next value rest _ reading =>
    cases failed
    exact .inr ⟨value, rest, reading, rfl⟩
  next refusal =>
    cases failed
    rw [refusal] at reply
    exact .inl reply
  next breaking =>
    cases failed
    rw [breaking] at reply
    exact .inl reply

theorem notBlank_met (failed : notBlank source = .error fault) : fault.MetIn source := by
  have reply := Reader.layout_accountsFor (List.suffix_refl source)
  unfold notBlank at failed
  split at failed
  next =>
    cases failed
    exact .plain List.nil_suffix List.nil_suffix rfl
  next =>
    cases failed
  next refusal =>
    cases failed
    rw [refusal] at reply
    exact reply
  next breaking =>
    cases failed
    rw [breaking] at reply
    exact reply

end Source

/-- The errors of a source: one at its first character outside ASCII, or one for
a fault that covers a stretch of a source in ASCII. -/
inductive SourceError.ArisesIn (source : List Char) : SourceError → Prop
  | nonAscii {before after : List Char} {c : Char} :
      source = before ++ c :: after → (∀ earlier ∈ before, Source.isAscii earlier = true) →
        Source.isAscii c = false →
          ArisesIn source ⟨.nonAscii, none, .after before c.utf8Size⟩
  | fault {fault : Fault} :
      (∀ c ∈ source, Source.isAscii c = true) → fault.AccountedIn source →
        ArisesIn source (.ofFault source fault)

namespace Source

variable {α : Type} {source : String} {error : SourceError}

end Source

/-- Characters in ASCII take one byte each. -/
theorem utf8ByteSize_of_ascii {characters : List Char}
    (ascii : ∀ c ∈ characters, Source.isAscii c = true) :
    (String.ofList characters).utf8ByteSize = characters.length := by
  rw [String.utf8ByteSize_ofList]
  induction characters with
  | nil =>
      rfl
  | cons c characters inductionHypothesis =>
      rw [List.forall_mem_cons] at ascii
      have below : c.toNat < 128 := of_decide_eq_true ascii.1
      have oneByte : c.utf8Size = 1 :=
        Char.utf8Size_eq_one_iff.2 (UInt32.le_iff_toNat_le.2 (Nat.le_of_lt_succ below))
      rw [String.utf8Len_cons, inductionHypothesis ascii.2, oneByte, List.length_cons]

namespace Location

/-- The location is that of a text in a source. Offset and length count the
bytes before and in the text, the line counts the newlines before it in 32 bits,
and the column the bytes of the line that is begun before it. -/
structure Covers (location : Location) (source before covered after : String) : Prop where
  split : source = before ++ covered ++ after
  offset : location.offset = before.utf8ByteSize
  length : location.length = covered.utf8ByteSize
  line : (location.line : Nat) = (1 + before.toList.count '\n') % UInt32.size
  column : ∃ earlier begun : String, before = earlier ++ begun ∧
    (earlier = "" ∨ ∃ lines, earlier = lines ++ "\n") ∧ '\n' ∉ begun.toList ∧
      location.column = 1 + begun.utf8ByteSize

/-- A text is its full lines and the line that is begun after them. -/
theorem exists_begun_line (before : List Char) :
    ∃ earlier begun, before = earlier ++ begun ∧
      (earlier = [] ∨ ∃ lines, earlier = lines ++ ['\n']) ∧ '\n' ∉ begun ∧
        begun.length = (before.reverse.takeWhile (· != '\n')).length := by
  refine ⟨(before.reverse.dropWhile (· != '\n')).reverse,
    (before.reverse.takeWhile (· != '\n')).reverse, ?_, ?_, ?_, List.length_reverse⟩
  · rw [← List.reverse_append, List.takeWhile_append_dropWhile, List.reverse_reverse]
  · cases atFront : before.reverse.dropWhile (· != '\n') with
    | nil =>
        exact .inl List.reverse_nil
    | cons c lines =>
        have isNewline := List.head?_dropWhile_not (· != '\n') before.reverse
        rw [atFront] at isNewline
        obtain rfl : c = '\n' := by simpa using isNewline
        exact .inr ⟨lines.reverse, List.reverse_cons⟩
  · intro member
    have passed := List.mem_takeWhile_imp (List.mem_reverse.1 member)
    simp at passed

/-- Behind a text in ASCII, bytes are counted by characters. -/
theorem covers_after {before covered after : List Char}
    (ascii : ∀ c ∈ before, Source.isAscii c = true) {length : Nat}
    (bytes : length = (String.ofList covered).utf8ByteSize) :
    (Location.after before length).Covers (String.ofList (before ++ covered ++ after))
      (String.ofList before) (String.ofList covered) (String.ofList after) where
  split := by simp only [String.ofList_append]
  offset := (utf8ByteSize_of_ascii ascii).symm
  length := bytes
  line := by
    rw [String.toList_ofList, Location.after, UInt32.toNat_add, UInt32.toNat_ofNat']
    exact Nat.add_mod_mod 1 (before.count '\n') UInt32.size
  column := by
    obtain ⟨earlier, begun, rfl, full, noNewline, sameLength⟩ := exists_begun_line before
    refine ⟨String.ofList earlier, String.ofList begun, String.ofList_append, ?_, ?_, ?_⟩
    · rcases full with rfl | ⟨lines, rfl⟩
      · exact .inl rfl
      · exact .inr ⟨String.ofList lines, String.ofList_append⟩
    · rwa [String.toList_ofList]
    · have asciiBegun : ∀ c ∈ begun, Source.isAscii c = true := fun c member =>
        ascii c (List.mem_append_right earlier member)
      rw [utf8ByteSize_of_ascii asciiBegun, sameLength]
      rfl

variable {location : Location} {source before covered after : String}

end Location

/-- No count is cut short when the location of a fault is found. -/
theorem Fault.LiesIn.covers {source : List Char} {fault : Fault} (lies : fault.LiesIn source)
    (ascii : ∀ c ∈ source, Source.isAscii c = true) :
    ∃ before covered, source = before ++ fault.start ∧ fault.start = covered ++ fault.stop ∧
      (SourceError.ofFault source fault).location.Covers (String.ofList source)
        (String.ofList before) (String.ofList covered) (String.ofList fault.stop) := by
  obtain ⟨⟨covered, fromStart⟩, ⟨before, fromSource⟩⟩ := lies
  have split : source = before ++ covered ++ fault.stop := by
    rw [List.append_assoc, fromStart, fromSource]
  have asciiBefore : ∀ c ∈ before, Source.isAscii c = true := fun c member =>
    ascii c (by rw [split]; simp [member])
  have asciiCovered : ∀ c ∈ covered, Source.isAscii c = true := fun c member =>
    ascii c (by rw [split]; simp [member])
  have found : (SourceError.ofFault source fault).location = .after before covered.length := by
    simp only [SourceError.ofFault, ← fromSource, ← fromStart, List.length_append,
      Nat.add_sub_cancel, List.take_left]
  refine ⟨before, covered, fromSource.symm, fromStart.symm, ?_⟩
  rw [found, split]
  exact Location.covers_after asciiBefore (utf8ByteSize_of_ascii asciiCovered).symm

theorem SourceError.ArisesIn.covers {source : String} {error : SourceError}
    (arises : error.ArisesIn source.toList) :
    ∃ before covered after, error.location.Covers source before covered after := by
  rw [← source.ofList_toList]
  generalize source.toList = characters at arises
  cases arises with
  | @nonAscii before after c split ascii outside =>
      have bytes : c.utf8Size = (String.ofList [c]).utf8ByteSize := by
        simp
      refine ⟨String.ofList before, String.ofList [c], String.ofList after, ?_⟩
      rw [split, ← List.singleton_append, ← List.append_assoc]
      exact Location.covers_after ascii bytes
  | fault ascii accounted =>
      obtain ⟨before, covered, -, -, covers⟩ := accounted.covers ascii
      exact ⟨_, _, _, covers⟩

end RewardFormula
