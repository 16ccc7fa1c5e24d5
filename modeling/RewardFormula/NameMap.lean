/-!
# Values by name

A map from names to values is kept as a list in ascending order of the names.
A map is therefore determined by what it holds under each name, and listing it
needs no sorting.
-/

namespace RewardFormula

/-- Values under names, in ascending order of the names. -/
structure NameMap (α : Type) where
  entries : List (String × α)
  ascending : entries.Pairwise (·.1 < ·.1)

namespace NameMap

def empty : NameMap α := ⟨[], .nil⟩

instance : Inhabited (NameMap α) := ⟨empty⟩

instance : EmptyCollection (NameMap α) := ⟨empty⟩

instance [BEq α] : BEq (NameMap α) := ⟨fun left right => left.entries == right.entries⟩

/-- The value of the first entry with the wanted name. -/
def findEntry (wanted : String) : List (String × α) → Option α
  | [] => none
  | (name, value) :: rest => if wanted = name then some value else findEntry wanted rest

def get? (map : NameMap α) (name : String) : Option α :=
  findEntry name map.entries

def contains (map : NameMap α) (name : String) : Bool :=
  (map.get? name).isSome

/-- The names in ascending order. -/
def names (map : NameMap α) : List String :=
  map.entries.map (·.1)

def size (map : NameMap α) : Nat :=
  map.entries.length

/-- Puts a value at its place in an ascending list. -/
def insertEntry (name : String) (value : α) : List (String × α) → List (String × α)
  | [] => [(name, value)]
  | (other, old) :: rest =>
    if name < other then (name, value) :: (other, old) :: rest
    else if name = other then (name, value) :: rest
    else (other, old) :: insertEntry name value rest

theorem insertEntry_name_mem
    {name : String} {value : α} {entries : List (String × α)} {entry : String × α}
    (member : entry ∈ insertEntry name value entries) :
    entry.1 = name ∨ entry ∈ entries := by
  induction entries with
  | nil => simp_all [insertEntry]
  | cons head rest inductionHypothesis =>
    obtain ⟨other, old⟩ := head
    simp only [insertEntry] at member
    split at member
    · rcases List.mem_cons.1 member with rfl | member
      · exact Or.inl rfl
      · exact Or.inr member
    · split at member
      · rcases List.mem_cons.1 member with rfl | member
        · exact Or.inl rfl
        · exact Or.inr (List.mem_cons_of_mem _ member)
      · rcases List.mem_cons.1 member with rfl | member
        · exact Or.inr List.mem_cons_self
        · exact (inductionHypothesis member).imp id (List.mem_cons_of_mem _)

theorem insertEntry_ascending
    (name : String) (value : α) {entries : List (String × α)}
    (ascending : entries.Pairwise (·.1 < ·.1)) :
    (insertEntry name value entries).Pairwise (·.1 < ·.1) := by
  induction entries with
  | nil => simp [insertEntry]
  | cons head rest inductionHypothesis =>
    obtain ⟨other, old⟩ := head
    have bounds := List.pairwise_cons.1 ascending
    simp only [insertEntry]
    split
    next below =>
      refine List.pairwise_cons.2 ⟨fun entry member => ?_, ascending⟩
      rcases List.mem_cons.1 member with rfl | member
      · exact below
      · exact String.lt_trans below (bounds.1 entry member)
    next notBelow =>
      split
      next same =>
        subst same
        exact List.pairwise_cons.2 ⟨bounds.1, bounds.2⟩
      next different =>
        refine List.pairwise_cons.2 ⟨fun entry member => ?_, inductionHypothesis bounds.2⟩
        rcases insertEntry_name_mem member with same | member
        · rw [same]
          exact (Std.lt_trichotomy name other).elim (absurd · notBelow)
            (fun order => order.elim (absurd · different) id)
        · exact bounds.1 entry member

/-- Puts a value under a name, in place of the one that was there. -/
def insert (map : NameMap α) (name : String) (value : α) : NameMap α :=
  ⟨insertEntry name value map.entries, insertEntry_ascending name value map.ascending⟩

def erase (map : NameMap α) (name : String) : NameMap α :=
  ⟨map.entries.filter (·.1 != name), map.ascending.filter _⟩

def eraseAll (map : NameMap α) (names : List String) : NameMap α :=
  names.foldl erase map

/-- Puts values under names in order, so that the last of a name remains. -/
def insertAll (map : NameMap α) (entries : List (String × α)) : NameMap α :=
  entries.foldl (fun map entry => map.insert entry.1 entry.2) map

def ofList (entries : List (String × α)) : NameMap α :=
  empty.insertAll entries

@[simp] theorem get?_empty (name : String) : (empty : NameMap α).get? name = none := rfl

theorem findEntry_insertEntry
    (entries : List (String × α)) (name : String) (value : α) (wanted : String) :
    findEntry wanted (insertEntry name value entries) =
      if wanted = name then some value else findEntry wanted entries := by
  induction entries with
  | nil => rfl
  | cons head rest inductionHypothesis =>
    obtain ⟨other, old⟩ := head
    simp only [insertEntry]
    split
    · rfl
    · split
      next equal => simp only [findEntry, equal]; split <;> rfl
      next different =>
        simp only [findEntry, inductionHypothesis]
        split <;> split <;> simp_all

theorem get?_insert (map : NameMap α) (name : String) (value : α) (wanted : String) :
    (map.insert name value).get? wanted =
      if wanted = name then some value else map.get? wanted :=
  findEntry_insertEntry map.entries name value wanted

theorem contains_insert (map : NameMap α) (name : String) (value : α) (wanted : String) :
    (map.insert name value).contains wanted = (decide (wanted = name) || map.contains wanted) := by
  simp only [contains, get?_insert]
  split <;> simp_all

theorem findEntry_filter (entries : List (String × α)) (name wanted : String) :
    findEntry wanted (entries.filter (·.1 != name)) =
      if wanted = name then none else findEntry wanted entries := by
  induction entries with
  | nil => simp [findEntry]
  | cons head rest inductionHypothesis =>
    obtain ⟨other, old⟩ := head
    by_cases removed : other = name
    · simp only [List.filter_cons, removed, bne_self_eq_false, Bool.false_eq_true, if_false,
        inductionHypothesis, findEntry]
      split <;> rfl
    · have kept : (other != name) = true := by simp [removed]
      simp only [List.filter_cons, kept, if_true, findEntry, inductionHypothesis]
      split <;> split <;> simp_all

theorem get?_erase (map : NameMap α) (name wanted : String) :
    (map.erase name).get? wanted = if wanted = name then none else map.get? wanted :=
  findEntry_filter map.entries name wanted

theorem contains_erase (map : NameMap α) (name wanted : String) :
    (map.erase name).contains wanted = (!decide (wanted = name) && map.contains wanted) := by
  simp only [contains, get?_erase]
  split <;> simp_all

theorem findEntry_eq_none_of_below {name : String} {entries : List (String × α)}
    (below : ∀ entry ∈ entries, name < entry.1) : findEntry name entries = none := by
  induction entries with
  | nil => rfl
  | cons head rest inductionHypothesis =>
    have different : name ≠ head.1 := fun same =>
      String.lt_irrefl head.1 (same ▸ below head List.mem_cons_self)
    rw [findEntry, if_neg different]
    exact inductionHypothesis fun entry member => below entry (List.mem_cons_of_mem _ member)

/-- A list whose first name is found in an ascending list does not begin before it. -/
theorem not_below_of_findEntry_eq {head head' : String × α} {rest rest' : List (String × α)}
    (bounds : ∀ entry ∈ rest', head'.1 < entry.1)
    (same : findEntry head.1 (head :: rest) = findEntry head.1 (head' :: rest')) :
    ¬ head.1 < head'.1 := by
  intro before
  have absent : findEntry head.1 (head' :: rest') = none := by
    apply findEntry_eq_none_of_below
    intro entry member
    rcases List.mem_cons.1 member with rfl | member
    · exact before
    · exact String.lt_trans before (bounds entry member)
  rw [← same] at absent
  simp [findEntry] at absent

/-- An ascending list is determined by what is found in it. -/
theorem eq_of_findEntry_eq {left right : List (String × α)}
    (leftAscending : left.Pairwise (·.1 < ·.1)) (rightAscending : right.Pairwise (·.1 < ·.1))
    (same : ∀ name, findEntry name left = findEntry name right) : left = right := by
  induction left generalizing right with
  | nil =>
    cases right with
    | nil => rfl
    | cons head rest =>
      have found := same head.1
      simp [findEntry] at found
  | cons head rest inductionHypothesis =>
    cases right with
    | nil =>
      have found := same head.1
      simp [findEntry] at found
    | cons head' rest' =>
      obtain ⟨bounds, restAscending⟩ := List.pairwise_cons.1 leftAscending
      obtain ⟨bounds', restAscending'⟩ := List.pairwise_cons.1 rightAscending
      have sameName : head.1 = head'.1 := by
        rcases Std.lt_trichotomy head.1 head'.1 with before | equal | behind
        · exact absurd before (not_below_of_findEntry_eq bounds' (same _))
        · exact equal
        · exact absurd behind (not_below_of_findEntry_eq bounds (same _).symm)
      have sameValue : head.2 = head'.2 := by
        have found := same head.1
        simpa [findEntry, sameName] using found
      have sameRest : rest = rest' := by
        apply inductionHypothesis restAscending restAscending'
        intro name
        by_cases first : name = head.1
        · rw [first, findEntry_eq_none_of_below bounds, sameName,
            findEntry_eq_none_of_below bounds']
        · have found := same name
          rwa [findEntry, findEntry, if_neg first, if_neg (sameName ▸ first)] at found
      rw [sameRest, Prod.ext sameName sameValue]

@[ext] theorem ext {map other : NameMap α} (same : ∀ name, map.get? name = other.get? name) :
    map = other := by
  obtain ⟨entries, ascending⟩ := map
  obtain ⟨entries', ascending'⟩ := other
  obtain rfl : entries = entries' := eq_of_findEntry_eq ascending ascending' same
  rfl

end NameMap

end RewardFormula
