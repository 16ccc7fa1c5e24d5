import RewardFormula.Proofs.Number.Values

/-!
# Nearest integers

The integer nearest to a number, with a rule for the two integers next to a half.
-/

namespace RewardFormula

/-- Every other integer is further away, or as far away where this one is preferred. -/
def IsNearest (preferred : ℤ → Prop) (number : ℚ) (integer : ℤ) : Prop :=
  ∀ other, other ≠ integer → |number - integer| < |number - other| ∨
    |number - integer| = |number - other| ∧ preferred integer

/-- The nearest integer, the even one of two. -/
def IsNearestEven (number : ℚ) (integer : ℤ) : Prop :=
  IsNearest Even number integer

/-- The nearest integer, of two the one that is further away from zero. -/
def IsNearestAway (number : ℚ) (integer : ℤ) : Prop :=
  IsNearest (fun integer => |number| ≤ |(integer : ℚ)|) number integer

section Nearest

variable {preferred : ℤ → Prop} {number : ℚ} {integer : ℤ}

/-- Two different integers are together at least one away from a number. -/
theorem one_le_abs_sub_add_abs_sub (number : ℚ) {other : ℤ} (different : other ≠ integer) :
    1 ≤ |number - integer| + |number - other| := by
  have apart : (1 : ℚ) ≤ |(integer : ℚ) - other| := by
    exact_mod_cast Int.one_le_abs (sub_ne_zero.2 different.symm)
  have triangle := abs_sub_le (integer : ℚ) number other
  rw [abs_sub_comm (integer : ℚ) number] at triangle
  exact apart.trans triangle

theorem isNearest_of_half (near : |number - integer| ≤ 1 / 2)
    (tie : |number - integer| = 1 / 2 → preferred integer) :
    IsNearest preferred number integer := by
  intro other different
  have together := one_le_abs_sub_add_abs_sub number different
  rcases lt_or_eq_of_le near with below | half
  · exact .inl (by linarith)
  · rcases lt_or_eq_of_le (by linarith : |number - integer| ≤ |number - other|) with less | same
    · exact .inl less
    · exact .inr ⟨same, tie half⟩

theorem isNearest_self (preferred : ℤ → Prop) (integer : ℤ) :
    IsNearest preferred (integer : ℚ) integer := by
  intro other different
  rw [sub_self, abs_zero, abs_pos, sub_ne_zero]
  exact .inl (by exact_mod_cast different.symm)

theorem IsNearest.neg (nearest : IsNearest preferred number integer)
    (symmetric : ∀ integer, preferred integer → preferred (-integer)) :
    IsNearest preferred (-number) (-integer) := by
  have distance : ∀ integer : ℤ, |-number - integer| = |number - (-integer : ℤ)| := by
    intro integer
    rw [← abs_neg, Int.cast_neg]
    congr 1
    ring
  intro other different
  rw [distance, distance, neg_neg]
  exact (nearest (-other) (fun same => different (neg_eq_iff_eq_neg.1 same))).imp_right
    fun tie => ⟨tie.1, symmetric integer tie.2⟩

/-- The nearest integer is at most a half away, as one of its neighbours would be nearer. -/
theorem IsNearest.abs_sub_le (nearest : IsNearest preferred number integer) :
    |number - integer| ≤ 1 / 2 := by
  by_contra far
  rw [not_le, lt_abs] at far
  have neighbour : ∃ other : ℤ, other ≠ integer ∧ |number - other| < |number - integer| := by
    rcases far with above | below
    · refine ⟨integer + 1, by omega, ?_⟩
      rw [abs_of_nonneg (by linarith : 0 ≤ number - integer), abs_lt]
      push_cast
      constructor
      · linarith
      · linarith
    · refine ⟨integer - 1, by omega, ?_⟩
      rw [abs_of_nonpos (by linarith : number - integer ≤ 0), abs_lt]
      push_cast
      constructor
      · linarith
      · linarith
  obtain ⟨other, different, nearer⟩ := neighbour
  rcases nearest other different with less | ⟨same, -⟩
  · exact absurd less (not_lt.2 nearer.le)
  · exact absurd same nearer.ne'

end Nearest

section Away

variable {number number' : ℚ} {integer integer' : ℤ}

/-- Of the two integers next to a half only one is further away from zero. -/
theorem abs_lt_of_half {integer : ℤ} (half : 2 * number = 2 * integer + 1) :
    |number| ≤ |(integer : ℚ)| → ¬ |number| ≤ |((integer + 1 : ℤ) : ℚ)| := by
  intro away away'
  rcases le_or_gt 0 integer with nonneg | negative
  · have cast : (0 : ℚ) ≤ integer := by
      exact_mod_cast nonneg
    rw [abs_of_nonneg cast, abs_le] at away
    linarith
  · have cast : (integer : ℚ) + 1 ≤ 0 := by
      exact_mod_cast negative
    rw [Int.cast_add, Int.cast_one, abs_of_nonpos cast, abs_le] at away'
    linarith

theorem IsNearestAway.unique (nearest : IsNearestAway number integer)
    (nearest' : IsNearestAway number integer') : integer = integer' := by
  by_contra different
  have tie : |number - integer| = |number - integer'| ∧ |number| ≤ |(integer : ℚ)| ∧
      |number| ≤ |(integer' : ℚ)| := by
    rcases nearest integer' (Ne.symm different) with less | ⟨same, away⟩
    · rcases nearest' integer different with less' | ⟨same', -⟩
      · exact absurd less less'.not_gt
      · exact absurd same' less.ne'
    · rcases nearest' integer different with less' | ⟨-, away'⟩
      · exact absurd same less'.ne'
      · exact ⟨same, away, away'⟩
  obtain ⟨same, away, away'⟩ := tie
  have near := abs_le.1 nearest.abs_sub_le
  have near' := abs_le.1 nearest'.abs_sub_le
  have between : 2 * number = integer + integer' := by
    rcases abs_eq_abs.1 same with equal | opposite
    · exact absurd (by exact_mod_cast sub_right_injective equal) different
    · linarith
  have upper : integer ≤ integer' + 1 := by
    exact_mod_cast (by linarith : (integer : ℚ) ≤ integer' + 1)
  have lower : integer' ≤ integer + 1 := by
    exact_mod_cast (by linarith : (integer' : ℚ) ≤ integer + 1)
  rcases lt_or_gt_of_ne different with below | above
  · obtain rfl : integer' = integer + 1 := by
      omega
    refine abs_lt_of_half ?_ away away'
    push_cast at between
    linarith
  · obtain rfl : integer = integer' + 1 := by
      omega
    refine abs_lt_of_half ?_ away' away
    push_cast at between
    linarith

theorem IsNearestAway.mono (nearest : IsNearestAway number integer)
    (nearest' : IsNearestAway number' integer') (notMore : number ≤ number') :
    integer ≤ integer' := by
  by_contra above
  have apart : (integer' : ℚ) + 1 ≤ integer := by
    exact_mod_cast (by omega : integer' + 1 ≤ integer)
  have near := abs_le.1 nearest.abs_sub_le
  have near' := abs_le.1 nearest'.abs_sub_le
  obtain rfl : number = number' := by
    linarith
  exact above (nearest.unique nearest').le

theorem isNearestAway_down (whole : Nat) {fraction : ℚ} (nonneg : 0 ≤ fraction)
    (below : fraction < 1 / 2) : IsNearestAway (whole + fraction) whole := by
  have distance : |(whole + fraction - ((whole : Int) : ℚ))| = fraction := by
    rw [Int.cast_natCast, add_sub_cancel_left]
    exact abs_of_nonneg nonneg
  refine isNearest_of_half ?_ fun half => ?_
  · rw [distance]
    exact below.le
  · rw [distance] at half
    exact absurd half below.ne

theorem isNearestAway_up (whole : Nat) {fraction : ℚ} (half : 1 / 2 ≤ fraction)
    (less : fraction < 1) : IsNearestAway (whole + fraction) (whole + 1 : Nat) := by
  have distance : |(whole + fraction - (((whole + 1 : Nat) : Int) : ℚ))| = 1 - fraction := by
    rw [Int.cast_natCast, Nat.cast_succ, add_sub_add_left_eq_sub, abs_sub_comm]
    exact abs_of_pos (sub_pos.2 less)
  refine isNearest_of_half ?_ fun _ => ?_
  · rw [distance]
    linarith
  · have positive : (0 : ℚ) ≤ whole := by
      positivity
    rw [Int.cast_natCast, Nat.cast_succ, abs_of_pos (by linarith), abs_of_pos (by linarith)]
    linarith

end Away

namespace Binary64

/-- A count with the sign of a quotient. -/
def signedCount (negative : Bool) (count : Nat) : ℤ :=
  if negative then -count else count

theorem cast_signedCount (negative : Bool) (count : Nat) :
    (signedCount negative count : ℚ) = signed negative count := by
  cases negative
  · exact Int.cast_natCast count
  · exact (Int.cast_neg _).trans (congrArg _ (Int.cast_natCast count))

theorem ofScaled_signedCount_standsFor (negative : Bool) {count : Nat} (short : count < 2 ^ 53) :
    StandsFor (ofScaled negative count 0) (signedCount negative count) := by
  rw [cast_signedCount]
  exact ofScaled_whole_standsFor negative short

theorem isNearestEven_signed {number : ℚ} {count : Nat} (nearest : IsNearestEven number count)
    (negative : Bool) : IsNearestEven (signed negative number) (signedCount negative count) := by
  cases negative
  · exact nearest
  · exact nearest.neg fun integer => even_neg.2

theorem isNearestAway_signed {number : ℚ} {count : Nat} (nearest : IsNearestAway number count)
    (negative : Bool) : IsNearestAway (signed negative number) (signedCount negative count) := by
  cases negative
  · exact nearest
  · have opposite := nearest.neg fun integer away => by rwa [Int.cast_neg, abs_neg]
    rw [← abs_neg number] at opposite
    exact opposite

end Binary64

end RewardFormula
