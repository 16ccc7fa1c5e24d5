/-!
# Classes of characters

A class of characters is written as the runs of code points that it holds. Since
the runs are in ascending order, the question for a character stops at the first
run behind it; `contains_iff` says that nothing is missed.
-/

namespace RewardFormula

namespace CharClass

/-- Whether runs, each given by its first and last code point, are in ascending
order and begin no earlier than at `start`. -/
def areAscending (start : Nat) : List (Nat × Nat) → Bool
  | [] => true
  | (first, last) :: rest => start ≤ first && first ≤ last && areAscending (last + 1) rest

end CharClass

structure CharClass where
  runs : List (Nat × Nat)
  ascending : CharClass.areAscending 0 runs = true := by decide +kernel

namespace CharClass

/-- Whether a code point is in one of the runs. -/
def isInRuns (code : Nat) : List (Nat × Nat) → Bool
  | [] => false
  | (first, last) :: rest => first ≤ code && (code ≤ last || isInRuns code rest)

def contains (characters : CharClass) (c : Char) : Bool :=
  isInRuns c.toNat characters.runs

theorem le_first_of_mem {start : Nat} {runs : List (Nat × Nat)} {run : Nat × Nat}
    (ascending : areAscending start runs = true) (member : run ∈ runs) :
    start ≤ run.1 := by
  induction runs generalizing start with
  | nil => simp at member
  | cons head rest inductionHypothesis =>
    simp only [areAscending, Bool.and_eq_true, decide_eq_true_eq] at ascending
    rcases List.mem_cons.mp member with rfl | member
    · exact ascending.1.1
    · have := inductionHypothesis ascending.2 member
      omega

theorem isInRuns_iff {start code : Nat} {runs : List (Nat × Nat)}
    (ascending : areAscending start runs = true) :
    isInRuns code runs = true ↔ ∃ run ∈ runs, run.1 ≤ code ∧ code ≤ run.2 := by
  induction runs generalizing start with
  | nil => simp [isInRuns]
  | cons head rest inductionHypothesis =>
    simp only [areAscending, Bool.and_eq_true, decide_eq_true_eq] at ascending
    simp only [isInRuns, Bool.and_eq_true, Bool.or_eq_true, decide_eq_true_eq,
      inductionHypothesis ascending.2, List.mem_cons, exists_eq_or_imp]
    constructor
    · rintro ⟨firstLe, leLast | inRest⟩
      · exact Or.inl ⟨firstLe, leLast⟩
      · exact Or.inr inRest
    · rintro (⟨firstLe, leLast⟩ | ⟨run, member, inRun⟩)
      · exact ⟨firstLe, Or.inl leLast⟩
      · have := le_first_of_mem ascending.2 member
        exact ⟨by omega, Or.inr ⟨run, member, inRun⟩⟩

theorem contains_iff (characters : CharClass) (c : Char) :
    characters.contains c = true ↔
      ∃ run ∈ characters.runs, run.1 ≤ c.toNat ∧ c.toNat ≤ run.2 :=
  isInRuns_iff characters.ascending

end CharClass

/-- The white space of all scripts. -/
def isWhiteSpace (c : Char) : Bool :=
  let code := c.toNat
  (9 ≤ code && code ≤ 13) || code == 0x20 || code == 0x85 || code == 0xa0 || code == 0x1680 ||
    (0x2000 ≤ code && code ≤ 0x200a) || code == 0x2028 || code == 0x2029 || code == 0x202f ||
    code == 0x205f || code == 0x3000

/-- A text without the white space at its end. -/
def trimEnd (text : List Char) : List Char :=
  (text.reverse.dropWhile isWhiteSpace).reverse

/-- A text without the white space on both sides. -/
def trim (text : List Char) : List Char :=
  trimEnd (text.dropWhile isWhiteSpace)

end RewardFormula
