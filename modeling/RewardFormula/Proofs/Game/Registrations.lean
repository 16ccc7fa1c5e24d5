import Mathlib.Data.List.Induction
import Mathlib.Data.List.Pairwise
import RewardFormula.Evaluation

/-!
# The registry is a log of live registrations

Whatever was registered and taken back, what the registry holds under a name are the
registrations of that name that were not taken back, the newest first. What is visible,
which names are listed and which properties are found all follow from those.
-/

namespace RewardFormula

variable {G : Game}

namespace NameMap

theorem mem_names {α : Type} {map : NameMap α} {name : String} :
    name ∈ map.names ↔ map.get? name ≠ none := by
  unfold names get?
  generalize map.entries = entries
  induction entries with
  | nil =>
      simp [findEntry]
  | cons entry entries inductionHypothesis =>
      obtain ⟨other, value⟩ := entry
      rw [List.map_cons, List.mem_cons, inductionHypothesis, findEntry]
      by_cases same : name = other
      · simp [same]
      · simp [same]

theorem names_ascending {α : Type} (map : NameMap α) : map.names.Pairwise (· < ·) :=
  List.pairwise_map.2 map.ascending

end NameMap

namespace PropertyTable

variable {Handle : Type} (table : PropertyTable G Handle)

theorem stack_withStack (name : String) (newest : Registration G Handle)
    (older : List (Registration G Handle)) (wanted : String) :
    (table.withStack name newest older).stack wanted =
      if wanted = name then newest :: older else table.stack wanted := by
  unfold stack withStack
  rw [NameMap.get?_insert]
  split <;> rfl

theorem stack_withoutStack (name wanted : String) :
    (table.withoutStack name).stack wanted = if wanted = name then [] else table.stack wanted := by
  unfold stack withoutStack
  rw [NameMap.get?_erase]
  split <;> rfl

theorem stack_register (name : String) (registration : Registration G Handle) (wanted : String) :
    (table.register name registration).stack wanted =
      if wanted = name then registration :: table.stack wanted else table.stack wanted := by
  rw [register, stack_withStack]
  split
  next same =>
    rw [same]
  next =>
    rfl

theorem mem_names {name : String} : name ∈ table.names ↔ table.stack name ≠ [] := by
  have notEmpty := table.inhabited name
  rw [names, NameMap.mem_names, stack]
  cases held : table.byName.get? name with
  | none =>
      simp
  | some stack =>
      rw [held] at notEmpty
      simpa using notEmpty

theorem visible?_eq_none_iff {name : String} : table.visible? name = none ↔ name ∉ table.names := by
  simp [visible?, table.mem_names]

end PropertyTable

/-- A property of one of the three kinds. -/
inductive Property (G : Game) where
  | arena (property : G.State → G.Arena → Value G)
  | freq (property : G.State → Freq G → Value G)
  | player (property : G.State → G.Player → Value G)

def Property.kind : Property G → PropertyKind
  | arena _ => .arena
  | freq _ => .freq
  | player _ => .player

/-- The property of a value, if the value is of the kind of the property. -/
def Property.apply? (state : G.State) : Property G → Value G → Option (Value G)
  | arena property, .arena handle => some (property state handle)
  | freq property, .freq handle => some (property state handle)
  | player property, .player handle => some (property state handle)
  | _, _ => none

/-- The type of the values that have properties of the kind. -/
def PropertyKind.type : PropertyKind → ValueType
  | arena => .arena
  | freq => .freq
  | player => .player

theorem PropertyKind.type_injective {kind kind' : PropertyKind} (same : kind.type = kind'.type) :
    kind = kind' := by
  cases kind <;> cases kind' <;> simp_all [PropertyKind.type]

/-- What a host asks of a registry. Each registration has a ticket of its own, which is
the number of the registrations before it. -/
inductive Call (G : Game) where
  | register (name : String) (property : Property G)
  | unregister (kind : PropertyKind) (name : String) (ticket : Nat)

def Call.isRegister : Call G → Bool
  | register _ _ => true
  | unregister _ _ _ => false

namespace Registry

/-- The registry after a call. A call to take back what is not there changes nothing. -/
def apply (registry : Registry G) : Call G → Registry G
  | .register name (.arena property) => registry.registerArena name property
  | .register name (.freq property) => registry.registerFreq name property
  | .register name (.player property) => registry.registerPlayer name property
  | .unregister kind name ticket => (registry.unregister? kind name ticket).getD registry

/-- The registry after calls, from the first one on. -/
def run (calls : List (Call G)) : Registry G :=
  calls.foldl apply empty

theorem run_append_singleton (calls : List (Call G)) (call : Call G) :
    run (calls ++ [call]) = (run calls).apply call := by
  rw [run, List.foldl_append]
  rfl

end Registry

/-! ## What a registry holds -/

namespace PropertyTable

variable {Handle : Type} (table : PropertyTable G Handle)
    (wrap : (G.State → Handle → Value G) → Property G)

/-- The tickets and properties under a name, the newest first. -/
def listed (name : String) : List (Nat × Property G) :=
  (table.stack name).map fun registration => (registration.ticket, wrap registration.property)

theorem listed_register (name : String) (registration : Registration G Handle) (wanted : String) :
    (table.register name registration).listed wrap wanted =
      if wanted = name then
        (registration.ticket, wrap registration.property) :: table.listed wrap wanted
      else table.listed wrap wanted := by
  unfold listed
  rw [stack_register]
  split <;> rfl

/-- Only a registration that is there can be taken back, and it is all that goes. -/
theorem unregister?_cases (name : String) (ticket : Nat) :
    (table.unregister? name ticket = none ∧ ∀ entry ∈ table.listed wrap name, entry.1 ≠ ticket) ∨
      ∃ table', table.unregister? name ticket = some table' ∧
        (∃ entry ∈ table.listed wrap name, entry.1 = ticket) ∧
        ∀ wanted, table'.listed wrap wanted =
          if wanted = name then (table.listed wrap name).eraseP (·.1 == ticket)
          else table.listed wrap wanted := by
  have erasedList : (table.listed wrap name).eraseP (·.1 == ticket) =
      ((table.stack name).eraseP (·.ticket == ticket)).map
        fun registration => (registration.ticket, wrap registration.property) :=
    List.eraseP_map ..
  rw [erasedList]
  unfold unregister? listed
  dsimp only
  split
  next present =>
    have present' : ∃ registration ∈ table.stack name, registration.ticket = ticket := by
      simpa using present
    refine .inr ?_
    split
    next erased =>
      refine ⟨_, rfl, by simpa using present', fun wanted => ?_⟩
      rw [stack_withoutStack, erased]
      split <;> rfl
    next newest older erased =>
      refine ⟨_, rfl, by simpa using present', fun wanted => ?_⟩
      rw [stack_withStack, erased]
      split <;> rfl
  next absent =>
    exact .inl ⟨rfl, by simpa using absent⟩

end PropertyTable

namespace Registry

variable (registry : Registry G)

/-- The registrations of a kind under a name, the newest first. -/
def registrations (kind : PropertyKind) (name : String) : List (Nat × Property G) :=
  match kind with
  | .arena => registry.arena.listed .arena name
  | .freq => registry.freq.listed .freq name
  | .player => registry.player.listed .player name

/-- The visible property of a kind under a name. -/
def visible? (kind : PropertyKind) (name : String) : Option (Property G) :=
  match kind with
  | .arena => (registry.arena.visible? name).map .arena
  | .freq => (registry.freq.visible? name).map .freq
  | .player => (registry.player.visible? name).map .player

theorem visible?_eq (kind : PropertyKind) (name : String) :
    registry.visible? kind name = (registry.registrations kind name).head?.map (·.2) := by
  cases kind <;>
    simp only [visible?, registrations, PropertyTable.visible?, PropertyTable.listed,
      List.head?_map, Option.map_map] <;>
    rfl

theorem mem_names {kind : PropertyKind} {name : String} :
    name ∈ registry.names kind.type ↔ registry.registrations kind name ≠ [] := by
  cases kind <;>
    simp only [PropertyKind.type, names, registrations, PropertyTable.mem_names,
      PropertyTable.listed, ne_eq, List.map_eq_nil_iff]

theorem registrations_empty (kind : PropertyKind) (name : String) :
    (empty : Registry G).registrations kind name = [] := by
  cases kind <;> rfl

/-- A registration comes in front of those of its kind and name. -/
theorem registrations_register (name : String) (property : Property G) (kind : PropertyKind)
    (wanted : String) :
    (registry.apply (.register name property)).registrations kind wanted =
      if kind = property.kind ∧ wanted = name then
        (registry.nextTicket, property) :: registry.registrations kind wanted
      else registry.registrations kind wanted := by
  cases property <;> cases kind <;>
    simp [apply, registerArena, registerFreq, registerPlayer, registrations, Property.kind,
      PropertyTable.listed_register]

variable {registry}

/-- Taking back is the same for the three kinds: the table of the kind is put in place of the
one that was there. -/
theorem registrations_unregister_of_table {Handle : Type} (table : PropertyTable G Handle)
    (wrap : (G.State → Handle → Value G) → Property G) (put : PropertyTable G Handle → Registry G)
    {kind : PropertyKind} {name : String} {ticket : Nat}
    (result : registry.unregister? kind name ticket = (table.unregister? name ticket).map put)
    (before : ∀ wanted, registry.registrations kind wanted = table.listed wrap wanted)
    (after : ∀ table wanted, (put table).registrations kind wanted = table.listed wrap wanted)
    (others : ∀ table kind' wanted, kind' ≠ kind →
      (put table).registrations kind' wanted = registry.registrations kind' wanted) :
    (registry.unregister? kind name ticket = none ∧
        ∀ entry ∈ registry.registrations kind name, entry.1 ≠ ticket) ∨
      ∃ table, registry.unregister? kind name ticket = some (put table) ∧
        (∃ entry ∈ registry.registrations kind name, entry.1 = ticket) ∧
        ∀ kind' wanted, (put table).registrations kind' wanted =
          if kind' = kind ∧ wanted = name then
            (registry.registrations kind name).eraseP (·.1 == ticket)
          else registry.registrations kind' wanted := by
  rw [result, before]
  rcases table.unregister?_cases wrap name ticket with
    ⟨refused, absent⟩ | ⟨table', erased, present, listed⟩
  · exact .inl ⟨by rw [refused, Option.map_none], absent⟩
  · refine .inr ⟨table', by rw [erased, Option.map_some], present, ?_⟩
    intro kind' wanted
    by_cases same : kind' = kind
    · rw [same, after, listed, before]
      simp only [true_and]
    · rw [others table' kind' wanted same, if_neg fun both => same both.1]

/-- Only a registration that is there can be taken back, and it is all that goes. -/
theorem registrations_unregister_cases (kind : PropertyKind) (name : String) (ticket : Nat) :
    (registry.unregister? kind name ticket = none ∧
        ∀ entry ∈ registry.registrations kind name, entry.1 ≠ ticket) ∨
      ∃ registry', registry.unregister? kind name ticket = some registry' ∧
        registry'.nextTicket = registry.nextTicket ∧
        (∃ entry ∈ registry.registrations kind name, entry.1 = ticket) ∧
        ∀ kind' wanted, registry'.registrations kind' wanted =
          if kind' = kind ∧ wanted = name then
            (registry.registrations kind name).eraseP (·.1 == ticket)
          else registry.registrations kind' wanted := by
  cases kind with
  | arena =>
      refine Or.imp_right ?_ (registrations_unregister_of_table registry.arena .arena
        (fun table => { registry with arena := table }) rfl (fun _ => rfl) (fun _ _ => rfl) ?_)
      · rintro ⟨table, erased, left⟩
        exact ⟨_, erased, rfl, left⟩
      · rintro _ (_ | _ | _) _ other
        · exact absurd rfl other
        · rfl
        · rfl
  | freq =>
      refine Or.imp_right ?_ (registrations_unregister_of_table registry.freq .freq
        (fun table => { registry with freq := table }) rfl (fun _ => rfl) (fun _ _ => rfl) ?_)
      · rintro ⟨table, erased, left⟩
        exact ⟨_, erased, rfl, left⟩
      · rintro _ (_ | _ | _) _ other
        · rfl
        · exact absurd rfl other
        · rfl
  | player =>
      refine Or.imp_right ?_ (registrations_unregister_of_table registry.player .player
        (fun table => { registry with player := table }) rfl (fun _ => rfl) (fun _ _ => rfl) ?_)
      · rintro ⟨table, erased, left⟩
        exact ⟨_, erased, rfl, left⟩
      · rintro _ (_ | _ | _) _ other
        · rfl
        · rfl
        · exact absurd rfl other

end Registry

/-! ## Live registrations -/

/-- The number of registrations, which is the ticket of the next one. -/
def registered (calls : List (Call G)) : Nat :=
  calls.countP Call.isRegister

/-- The property was registered under the ticket and was not taken back afterwards. -/
def IsLive (calls : List (Call G)) (kind : PropertyKind) (name : String) (ticket : Nat)
    (property : Property G) : Prop :=
  ∃ before after, calls = before ++ .register name property :: after ∧ property.kind = kind ∧
    registered before = ticket ∧ .unregister kind name ticket ∉ after

variable {calls : List (Call G)} {kind : PropertyKind} {name : String} {ticket : Nat}
    {property : Property G}

theorem not_isLive_nil : ¬ IsLive ([] : List (Call G)) kind name ticket property := by
  rintro ⟨before, after, split, -⟩
  simp at split

/-- What is live after one more call: what that registers, and what was live and is not
taken back. -/
theorem isLive_append_singleton {call : Call G} :
    IsLive (calls ++ [call]) kind name ticket property ↔
      (call = .register name property ∧ property.kind = kind ∧ registered calls = ticket) ∨
        IsLive calls kind name ticket property ∧ call ≠ .unregister kind name ticket := by
  constructor
  · rintro ⟨before, after, split, sameKind, sameTicket, kept⟩
    rcases List.eq_nil_or_concat after with rfl | ⟨after', last, rfl⟩
    · obtain ⟨rfl, rfl⟩ := List.append_singleton_inj.1 split
      exact .inl ⟨rfl, sameKind, sameTicket⟩
    · rw [List.concat_eq_append] at split kept
      rw [← List.cons_append, ← List.append_assoc] at split
      obtain ⟨rfl, rfl⟩ := List.append_singleton_inj.1 split
      rw [List.mem_append, not_or] at kept
      refine .inr ⟨⟨before, after', rfl, sameKind, sameTicket, kept.1⟩, fun same => kept.2 ?_⟩
      exact List.mem_singleton.2 same.symm
  · rintro (⟨rfl, sameKind, sameTicket⟩ | ⟨⟨before, after, rfl, sameKind, sameTicket, kept⟩, other⟩)
    · exact ⟨calls, [], rfl, sameKind, sameTicket, List.not_mem_nil⟩
    · refine ⟨before, after ++ [call], ?_, sameKind, sameTicket, ?_⟩
      · rw [List.append_assoc, List.cons_append]
      · rw [List.mem_append, List.mem_singleton, not_or]
        exact ⟨kept, other.symm⟩

/-- Tickets are counted from zero. -/
theorem IsLive.ticket_lt (live : IsLive calls kind name ticket property) :
    ticket < registered calls := by
  obtain ⟨before, after, rfl, -, rfl, -⟩ := live
  simp [registered, Call.isRegister]

/-- The registry holds what is live, in the order of the tickets, the newest first. -/
structure Registry.Logs (registry : Registry G) (calls : List (Call G)) : Prop where
  nextTicket : registry.nextTicket = registered calls
  descending : ∀ kind name, (registry.registrations kind name).Pairwise (·.1 > ·.1)
  live : ∀ {kind name ticket property},
    (ticket, property) ∈ registry.registrations kind name ↔ IsLive calls kind name ticket property

namespace Registry.Logs

variable {registry : Registry G}

theorem empty : (Registry.empty : Registry G).Logs [] where
  nextTicket := rfl
  descending kind name := by
    rw [registrations_empty]
    exact .nil
  live := by
    intro kind name ticket property
    simp only [registrations_empty, List.not_mem_nil, not_isLive_nil]

theorem register (logs : registry.Logs calls) (name : String) (property : Property G) :
    (registry.apply (.register name property)).Logs (calls ++ [.register name property]) where
  nextTicket := by
    have counted : (registry.apply (.register name property)).nextTicket =
        registry.nextTicket + 1 := by
      cases property <;> rfl
    rw [counted, logs.nextTicket]
    simp [registered, Call.isRegister]
  descending kind wanted := by
    rw [registrations_register]
    split
    · refine List.pairwise_cons.2 ⟨?_, logs.descending kind wanted⟩
      rintro ⟨ticket, other⟩ member
      rw [logs.nextTicket]
      exact (logs.live.1 member).ticket_lt
    · exact logs.descending kind wanted
  live := by
    intro kind wanted ticket found
    rw [registrations_register, isLive_append_singleton, ← logs.live, ← logs.nextTicket]
    split
    next same =>
      obtain ⟨rfl, rfl⟩ := same
      simp only [List.mem_cons, Prod.mk.injEq, Call.register.injEq, true_and, ne_eq, reduceCtorEq,
        not_false_eq_true, and_true]
      refine or_congr_left ⟨?_, ?_⟩
      · rintro ⟨rfl, rfl⟩
        exact ⟨rfl, rfl, rfl⟩
      · rintro ⟨rfl, -, rfl⟩
        exact ⟨rfl, rfl⟩
    next different =>
      simp only [Call.register.injEq, ne_eq, reduceCtorEq, not_false_eq_true, and_true]
      refine (or_iff_right ?_).symm
      rintro ⟨⟨rfl, rfl⟩, rfl, -⟩
      exact different ⟨rfl, rfl⟩

/-- Tickets in descending order stand for one registration each. -/
theorem eraseP_eq_filter (logs : registry.Logs calls) (kind : PropertyKind) (name : String)
    (ticket : Nat) :
    (registry.registrations kind name).eraseP (·.1 == ticket) =
      (registry.registrations kind name).filter (·.1 != ticket) := by
  have descending := logs.descending kind name
  generalize registry.registrations kind name = entries at descending
  induction entries with
  | nil =>
      rfl
  | cons entry entries inductionHypothesis =>
      obtain ⟨above, descending⟩ := List.pairwise_cons.1 descending
      by_cases found : entry.1 = ticket
      · have others : ∀ other ∈ entries, (other.1 != ticket) = true := by
          intro other member
          have below := above other member
          simp only [bne_iff_ne, ne_eq]
          omega
        simp [found, List.filter_eq_self.2 others]
      · simp [found, inductionHypothesis descending]

/-- Only what is live can be taken back. Then it is gone, and all else stays. -/
theorem unregister?_cases (logs : registry.Logs calls) (kind : PropertyKind) (name : String)
    (ticket : Nat) :
    (registry.unregister? kind name ticket = none ∧
        ¬ ∃ property, IsLive calls kind name ticket property) ∨
      ∃ registry', registry.unregister? kind name ticket = some registry' ∧
        registry'.nextTicket = registry.nextTicket ∧
        (∃ property, IsLive calls kind name ticket property) ∧
        ∀ kind' wanted, registry'.registrations kind' wanted =
          if kind' = kind ∧ wanted = name then
            (registry.registrations kind name).filter (·.1 != ticket)
          else registry.registrations kind' wanted := by
  rw [← logs.eraseP_eq_filter]
  rcases registry.registrations_unregister_cases kind name ticket with
    ⟨refused, absent⟩ | ⟨registry', erased, sameTicket, ⟨⟨ticket', property⟩, member, rfl⟩, left⟩
  · refine .inl ⟨refused, ?_⟩
    rintro ⟨property, live⟩
    exact absent _ (logs.live.2 live) rfl
  · exact .inr ⟨registry', erased, sameTicket, ⟨property, logs.live.1 member⟩, left⟩

theorem unregister (logs : registry.Logs calls) (kind : PropertyKind) (name : String)
    (ticket : Nat) :
    (registry.apply (.unregister kind name ticket)).Logs
      (calls ++ [.unregister kind name ticket]) := by
  have counted : registered (calls ++ [.unregister kind name ticket]) = registered calls := by
    simp [registered, Call.isRegister]
  rcases logs.unregister?_cases kind name ticket with
    ⟨refused, notLive⟩ | ⟨registry', erased, sameTicket, -, left⟩
  · have same : registry.apply (.unregister kind name ticket) = registry := by
      rw [apply, refused, Option.getD_none]
    rw [same]
    refine ⟨logs.nextTicket.trans counted.symm, logs.descending, ?_⟩
    intro kind' name' ticket' property
    rw [logs.live, isLive_append_singleton]
    simp only [reduceCtorEq, false_and, false_or, iff_self_and]
    intro live same
    cases same
    exact notLive ⟨property, live⟩
  · have changed : registry.apply (.unregister kind name ticket) = registry' := by
      rw [apply, erased, Option.getD_some]
    rw [changed]
    refine ⟨sameTicket.trans (logs.nextTicket.trans counted.symm), ?_, ?_⟩
    · intro kind' wanted
      rw [left]
      split
      · exact (logs.descending kind name).filter _
      · exact logs.descending kind' wanted
    · intro kind' wanted ticket' property
      rw [left, isLive_append_singleton, ← logs.live]
      split
      next same =>
        obtain ⟨rfl, rfl⟩ := same
        simp only [List.mem_filter, bne_iff_ne, ne_eq, Call.unregister.injEq, true_and,
          reduceCtorEq, false_and, false_or]
        exact and_congr_right fun _ => not_congr eq_comm
      next different =>
        simp only [reduceCtorEq, false_and, false_or, iff_self_and]
        intro _ same
        cases same
        exact different ⟨rfl, rfl⟩

/-- Every call keeps the registry a log of the calls. -/
theorem apply (logs : registry.Logs calls) (call : Call G) :
    (registry.apply call).Logs (calls ++ [call]) := by
  cases call with
  | register name property =>
      exact logs.register name property
  | unregister kind name ticket =>
      exact logs.unregister kind name ticket

theorem run (calls : List (Call G)) : (Registry.run calls).Logs calls := by
  induction calls using List.reverseRecOn with
  | nil =>
      exact empty
  | append_singleton calls call inductionHypothesis =>
      rw [run_append_singleton]
      exact inductionHypothesis.apply call

/-- The newest live registration is visible. -/
theorem visible?_eq_some_iff (logs : registry.Logs calls) :
    registry.visible? kind name = some property ↔
      ∃ ticket, IsLive calls kind name ticket property ∧
        ∀ ticket' property', IsLive calls kind name ticket' property' → ticket' ≤ ticket := by
  have descending := logs.descending kind name
  rw [visible?_eq]
  simp only [← logs.live]
  cases held : registry.registrations kind name with
  | nil =>
      simp
  | cons newest older =>
      rw [held] at descending
      have below := (List.pairwise_cons.1 descending).1
      simp only [List.head?_cons, Option.map_some, Option.some.injEq]
      constructor
      · rintro rfl
        refine ⟨newest.1, List.mem_cons_self, fun ticket' property' member => ?_⟩
        rcases List.mem_cons.1 member with same | member
        · exact Nat.le_of_eq (congrArg Prod.fst same)
        · exact Nat.le_of_lt (below _ member)
      · rintro ⟨ticket, member, latest⟩
        rcases List.mem_cons.1 member with same | member
        · rw [← same]
        · have above := below _ member
          have notAbove := latest newest.1 newest.2 List.mem_cons_self
          exact absurd above (Nat.not_lt.2 notAbove)

/-- The names with a live registration are listed. -/
theorem mem_names_iff (logs : registry.Logs calls) :
    name ∈ registry.names kind.type ↔
      ∃ ticket property, IsLive calls kind name ticket property := by
  rw [registry.mem_names]
  constructor
  · intro notNil
    obtain ⟨⟨ticket, property⟩, member⟩ := List.exists_mem_of_ne_nil _ notNil
    exact ⟨ticket, property, logs.live.1 member⟩
  · rintro ⟨ticket, property, live⟩
    exact List.ne_nil_of_mem (logs.live.2 live)

end Registry.Logs

namespace Registry

variable (registry : Registry G)

theorem names_ascending (type : ValueType) : (registry.names type).Pairwise (· < ·) := by
  cases type with
  | arena =>
      exact NameMap.names_ascending _
  | freq =>
      exact NameMap.names_ascending _
  | player =>
      exact NameMap.names_ascending _
  | _ =>
      exact .nil

/-- Values of a type without a kind have no properties. -/
theorem exists_kind_of_mem_names {type : ValueType} {name : String}
    (member : name ∈ registry.names type) : ∃ kind : PropertyKind, kind.type = type := by
  cases type with
  | arena =>
      exact ⟨.arena, rfl⟩
  | freq =>
      exact ⟨.freq, rfl⟩
  | player =>
      exact ⟨.player, rfl⟩
  | _ =>
      cases member

/-- A value has exactly the properties that are listed for its type. -/
theorem dereference?_eq_none_iff (state : G.State) (value : Value G) (field : String) :
    registry.dereference? state value field = none ↔ field ∉ registry.names value.type := by
  cases value <;>
    simp [dereference?, names, Value.type, PropertyTable.visible?_eq_none_iff]

/-- The property of a value is what is visible for its kind. -/
theorem dereference?_of_visible? {kind : PropertyKind} {field : String} {property : Property G}
    (visible : registry.visible? kind field = some property) (state : G.State) {value : Value G}
    (typed : value.type = kind.type) :
    registry.dereference? state value field = property.apply? state value := by
  cases value with
  | arena handle =>
      obtain rfl : kind = .arena := PropertyKind.type_injective typed.symm
      obtain ⟨found, held, rfl⟩ := Option.map_eq_some_iff.1 visible
      simp only [dereference?, held, Option.map_some, Property.apply?]
  | freq handle =>
      obtain rfl : kind = .freq := PropertyKind.type_injective typed.symm
      obtain ⟨found, held, rfl⟩ := Option.map_eq_some_iff.1 visible
      simp only [dereference?, held, Option.map_some, Property.apply?]
  | player handle =>
      obtain rfl : kind = .player := PropertyKind.type_injective typed.symm
      obtain ⟨found, held, rfl⟩ := Option.map_eq_some_iff.1 visible
      simp only [dereference?, held, Option.map_some, Property.apply?]
  | _ =>
      cases kind <;> cases typed

end Registry

/-- The evaluator fails to take a property exactly if its name is not listed for the type of
the value. -/
theorem evalValue_deref_iff (registry : Registry G) (state : G.State) {base : Expr}
    {progress after : Progress G} {value : Value G} (field : String)
    (found : evalValue registry state base progress = (some value, after)) :
    evalValue registry state (.deref base field) progress =
        (none, after.report (.cannotDereference value.type field)) ↔
      field ∉ registry.names value.type := by
  rw [← registry.dereference?_eq_none_iff state, evalValue, found, RewardFormula.property]
  cases registry.dereference? state value field <;> simp

/-- After any calls, the registry holds for each kind and name what was registered and not
taken back since, with the newest on top and visible. Taking back succeeds exactly on what is
held. The names that are listed for a type are those under which something is held, and a
property of a value cannot be taken exactly if its name is not among them. -/
theorem registry_logs_calls (calls : List (Call G)) :
    let registry := Registry.run calls
    (∀ kind name,
      (registry.registrations kind name).Pairwise (·.1 > ·.1) ∧
      (∀ ticket property, (ticket, property) ∈ registry.registrations kind name ↔
        IsLive calls kind name ticket property) ∧
      ∀ property, registry.visible? kind name = some property ↔
        ∃ ticket, IsLive calls kind name ticket property ∧
          ∀ ticket' property', IsLive calls kind name ticket' property' → ticket' ≤ ticket) ∧
    (∀ name property kind' name',
      (registry.apply (.register name property)).registrations kind' name' =
        if kind' = property.kind ∧ name' = name then
          (registered calls, property) :: registry.registrations kind' name'
        else registry.registrations kind' name') ∧
    (∀ kind name ticket,
      (registry.unregister? kind name ticket = none ∧
        (¬ ∃ property, IsLive calls kind name ticket property) ∧
        registry.apply (.unregister kind name ticket) = registry) ∨
      ∃ registry', registry.unregister? kind name ticket = some registry' ∧
        (∃ property, IsLive calls kind name ticket property) ∧
        registry.apply (.unregister kind name ticket) = registry' ∧
        ∀ kind' name', registry'.registrations kind' name' =
          if kind' = kind ∧ name' = name then
            (registry.registrations kind name).filter (·.1 != ticket)
          else registry.registrations kind' name') ∧
    (∀ type,
      (registry.names type).Pairwise (· < ·) ∧
      ∀ name, name ∈ registry.names type ↔
        ∃ kind : PropertyKind, kind.type = type ∧
          ∃ ticket property, IsLive calls kind name ticket property) ∧
    (∀ kind name property, registry.visible? kind name = some property →
      ∀ state value, value.type = kind.type →
        registry.dereference? state value name = property.apply? state value) ∧
    ∀ state base progress value after field,
      evalValue registry state base progress = (some value, after) →
        (evalValue registry state (.deref base field) progress =
            (none, after.report (.cannotDereference value.type field)) ↔
          field ∉ registry.names value.type) := by
  intro registry
  have logs : registry.Logs calls := .run calls
  refine ⟨fun kind name => ⟨logs.descending kind name, fun _ _ => logs.live,
      fun _ => logs.visible?_eq_some_iff⟩, ?_, ?_, ?_, ?_, ?_⟩
  · intro name property kind' name'
    rw [registry.registrations_register, logs.nextTicket]
  · intro kind name ticket
    rcases logs.unregister?_cases kind name ticket with
      ⟨refused, notLive⟩ | ⟨registry', erased, -, live, left⟩
    · exact .inl ⟨refused, notLive, by rw [Registry.apply, refused, Option.getD_none]⟩
    · exact .inr ⟨registry', erased, live, by rw [Registry.apply, erased, Option.getD_some], left⟩
  · intro type
    refine ⟨registry.names_ascending type, fun name => ⟨fun member => ?_, ?_⟩⟩
    · obtain ⟨kind, rfl⟩ := registry.exists_kind_of_mem_names member
      exact ⟨kind, rfl, logs.mem_names_iff.1 member⟩
    · rintro ⟨kind, rfl, live⟩
      exact logs.mem_names_iff.2 live
  · intro kind name property visible state value typed
    exact registry.dereference?_of_visible? visible state typed
  · intro state base progress value after field found
    exact evalValue_deref_iff registry state field found

/-- A property of players that is shadowed, and one of arenas of the same name. The shadowed
one is taken back, after an attempt under another name. -/
def shadowedCalls : List (Call ⟨Unit, Unit, Unit⟩) :=
  [.register "bounty" (.player fun _ _ => .number 1),
    .register "bounty" (.arena fun _ _ => .number 2),
    .register "bounty" (.player fun _ _ => .number 3), .unregister .player "exp" 0,
    .unregister .player "bounty" 0]

theorem registry_logs_shadowed_calls :
    let registry := Registry.run shadowedCalls
    let progress := .start (.ofList [("killer", .player ())])
    IsLive shadowedCalls .player "bounty" 2 (.player fun _ _ => .number 3) ∧
    registry.visible? .player "bounty" = some (.player fun _ _ => .number 3) ∧
    registry.dereference? () (.player ()) "bounty" = some (.number 3) ∧
    registry.unregister? .player "bounty" 0 = none ∧
    evalValue registry () (.var "killer") progress = (some (.player ()), progress) ∧
    evalValue registry () (.deref (.var "killer") "exp") progress =
      (none, progress.report (.cannotDereference .player "exp")) := by
  intro registry progress
  obtain ⟨held, -, -, -, dereferenced, failing⟩ := registry_logs_calls shadowedCalls
  have live : IsLive shadowedCalls .player "bounty" 2 (.player fun _ _ => .number 3) :=
    ((held .player "bounty").2.1 2 _).1 List.mem_cons_self
  have visible : registry.visible? .player "bounty" = some (.player fun _ _ => .number 3) := rfl
  have found : evalValue registry () (.var "killer") progress = (some (.player ()), progress) := rfl
  have unlisted : "exp" ∉ registry.names .player := by
    decide
  exact ⟨live, visible, dereferenced .player "bounty" _ visible () (.player ()) rfl, rfl, found,
    (failing () _ progress _ progress "exp" found).2 unlisted⟩

end RewardFormula
