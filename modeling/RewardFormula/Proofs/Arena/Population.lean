import RewardFormula.Arena.Simulated
import RewardFormula.Evaluation
import RewardFormula.Proofs.Game.Rosters

/-!
# The population of a simulated arena

No two players of an arena share a name, so that a name leads to one record only. What formulas see
of a player is therefore the same in the variables and in the properties.
-/

namespace RewardFormula

theorem firstRepeated?_eq_none_iff {earlier names : List String} :
    firstRepeated? earlier names = none ↔ names.Nodup ∧ ∀ name ∈ names, name ∉ earlier := by
  refine ⟨nodup_of_firstRepeated?_eq_none, ?_⟩
  induction names generalizing earlier with
  | nil =>
      intro
      rfl
  | cons first rest inductionHypothesis =>
      rintro ⟨distinct, fresh⟩
      obtain ⟨absent, distinct'⟩ := List.nodup_cons.1 distinct
      rw [firstRepeated?, if_neg (fresh first List.mem_cons_self)]
      refine inductionHypothesis ⟨distinct', fun name member => ?_⟩
      rw [List.mem_cons, not_or]
      refine ⟨?_, fresh name (List.mem_cons_of_mem _ member)⟩
      rintro rfl
      exact absent member

/-- Different names are passed over. -/
theorem firstRepeated?_append {earlier before rest : List String} (distinct : before.Nodup)
    (fresh : ∀ name ∈ before, name ∉ earlier) :
    firstRepeated? earlier (before ++ rest) = firstRepeated? (before.reverse ++ earlier) rest := by
  induction before generalizing earlier with
  | nil =>
      rfl
  | cons first before inductionHypothesis =>
      obtain ⟨absent, distinct'⟩ := List.nodup_cons.1 distinct
      rw [List.cons_append, firstRepeated?, if_neg (fresh first List.mem_cons_self),
        inductionHypothesis distinct', List.reverse_cons, List.append_assoc]
      · rfl
      · intro name member
        rw [List.mem_cons, not_or]
        refine ⟨?_, fresh name (List.mem_cons_of_mem _ member)⟩
        rintro rfl
        exact absent member

theorem exists_of_firstRepeated?_eq_some {earlier names : List String} {repeated : String}
    (found : firstRepeated? earlier names = some repeated) :
    ∃ before after, names = before ++ repeated :: after ∧ before.Nodup ∧
      (∀ name ∈ before, name ∉ earlier) ∧ (repeated ∈ before ∨ repeated ∈ earlier) := by
  induction names generalizing earlier with
  | nil =>
      cases found
  | cons first rest inductionHypothesis =>
      rw [firstRepeated?] at found
      split at found
      next known =>
        cases found
        exact ⟨[], rest, rfl, .nil, by simp, .inr known⟩
      next new =>
        obtain ⟨before, after, rfl, distinct, fresh, known⟩ := inductionHypothesis found
        refine ⟨first :: before, after, rfl, ?_, ?_, ?_⟩
        · exact List.nodup_cons.2
            ⟨fun member => fresh first member List.mem_cons_self, distinct⟩
        · intro name member
          rcases List.mem_cons.1 member with rfl | member
          · exact new
          · exact fun known => fresh name member (List.mem_cons_of_mem _ known)
        · rw [List.mem_cons] at known ⊢
          tauto

/-- The repeated name is the first one that is there before: all names in front of it are
different. -/
theorem firstRepeated?_eq_some_iff {names : List String} {repeated : String} :
    firstRepeated? [] names = some repeated ↔
      ∃ before after, names = before ++ repeated :: after ∧ before.Nodup ∧ repeated ∈ before := by
  constructor
  · intro found
    obtain ⟨before, after, same, distinct, -, known⟩ := exists_of_firstRepeated?_eq_some found
    exact ⟨before, after, same, distinct, known.resolve_right List.not_mem_nil⟩
  · rintro ⟨before, after, rfl, distinct, known⟩
    rw [firstRepeated?_append distinct (fun _ _ => List.not_mem_nil), firstRepeated?,
      if_pos (by simpa using known)]

namespace SimulatedArena

section Creation

variable {name : String} {jackpot : Float} {specs : List PlayerSpec}

theorem create_eq_noPlayers_iff : create name jackpot specs = .error .noPlayers ↔ specs = [] := by
  unfold create
  split
  next none =>
    simp [none]
  next some =>
    split
    next =>
      simp [some]
    next =>
      simp [some]

theorem create_eq_duplicatePlayer_iff {repeated : String} :
    create name jackpot specs = .error (.duplicatePlayer repeated) ↔
      firstRepeated? [] (specs.map (·.name)) = some repeated := by
  unfold create
  split
  next none =>
    simp [none, firstRepeated?]
  next some =>
    split
    next found =>
      simp [found]
    next found =>
      simp [found]

theorem create_eq_ok_iff {arena : SimulatedArena} :
    create name jackpot specs = .ok arena ↔ arena.name = name ∧ arena.jackpot = jackpot ∧
      arena.players = specs.map .beginner := by
  constructor
  · intro created
    unfold create at created
    split at created
    · cases created
    · split at created
      · cases created
      · cases created
        exact ⟨rfl, rfl, rfl⟩
  · obtain ⟨name', jackpot', players, inhabited, distinct⟩ := arena
    rintro ⟨rfl, rfl, rfl⟩
    rw [List.map_map] at distinct
    have unrepeated : firstRepeated? [] (specs.map (·.name)) = none :=
      firstRepeated?_eq_none_iff.2 ⟨distinct, fun _ _ => List.not_mem_nil⟩
    unfold create
    rw [dif_neg fun none => inhabited (by rw [none]; rfl)]
    split
    next found =>
      rw [unrepeated] at found
      cases found
    next =>
      rfl

theorem exists_create_eq_ok_iff :
    (∃ arena, create name jackpot specs = .ok arena) ↔
      specs ≠ [] ∧ (specs.map (·.name)).Nodup := by
  constructor
  · rintro ⟨arena, created⟩
    obtain ⟨-, -, same⟩ := create_eq_ok_iff.1 created
    have inhabited := arena.inhabited
    have distinct := arena.distinct
    rw [same, Ne, List.map_eq_nil_iff] at inhabited
    rw [same, List.map_map] at distinct
    exact ⟨inhabited, distinct⟩
  · rintro ⟨inhabited, distinct⟩
    have inhabited' : specs.map PlayerRecord.beginner ≠ [] := mt List.map_eq_nil_iff.1 inhabited
    have distinct' : ((specs.map PlayerRecord.beginner).map (·.spec.name)).Nodup := by
      rwa [List.map_map]
    exact ⟨⟨name, jackpot, specs.map .beginner, inhabited', distinct'⟩,
      create_eq_ok_iff.2 ⟨rfl, rfl, rfl⟩⟩

/-- There is an arena unless nobody is in it or two players share a name. -/
theorem exists_create_eq_error_iff :
    (∃ error, create name jackpot specs = .error error) ↔
      specs = [] ∨ ¬ (specs.map (·.name)).Nodup := by
  have fits : (∃ arena, create name jackpot specs = .ok arena) ↔ _ := exists_create_eq_ok_iff
  have unfit : specs = [] ∨ ¬ (specs.map (·.name)).Nodup ↔
      ¬ ∃ arena, create name jackpot specs = .ok arena := by
    rw [fits]
    tauto
  rw [unfit]
  cases create name jackpot specs with
  | error error =>
      exact ⟨fun _ => nofun, fun _ => ⟨error, rfl⟩⟩
  | ok arena =>
      exact ⟨nofun, fun none => absurd ⟨arena, rfl⟩ none⟩

end Creation

section Players

variable {arena : SimulatedArena} {player : PlayerRecord} (listed : player ∈ arena.players)

include listed

/-- A name leads to the record of the player who has it. -/
theorem player?_eq_some : arena.player? player.spec.name = some player := by
  obtain ⟨before, after, same⟩ := List.append_of_mem listed
  have distinct := arena.distinct
  rw [same, List.map_append, List.map_cons, List.nodup_append] at distinct
  rw [player?, List.find?_eq_some_iff_append]
  refine ⟨beq_self_eq_true _, before, after, same, fun other member => ?_⟩
  have different := distinct.2.2 other.spec.name (List.mem_map_of_mem member) player.spec.name
    List.mem_cons_self
  simpa using different

theorem count_playerNames : arena.playerNames.count player.spec.name = 1 :=
  List.count_eq_one_of_mem arena.distinct (List.mem_map_of_mem listed)

end Players

/-- A property of a variable is found, without an error and with nothing changed. -/
def Yields (arena : SimulatedArena) (table : Variables game) (name field : String)
    (value : Value game) : Prop :=
  evalValue registry arena (.deref (.var name) field) (.start table) = (some value, .start table)

theorem yields_of_dereference? {arena : SimulatedArena} {table : Variables game}
    {name field : String} {base value : Value game} (held : table.get? name = some base)
    (found : registry.dereference? arena base field = some value) :
    Yields arena table name field value := by
  have looked : (Progress.start table).lookup name = (some base, .start table) := by
    simp only [Progress.lookup, Progress.start, held]
  rw [Yields, evalValue, evalValue, looked]
  simp only [property, found]

/-- With the variables of a player, the variables and the properties tell the same of the player,
and the lists of players have the player in the right places. -/
structure Agrees (arena : SimulatedArena) (player : PlayerRecord) (table : Variables game) :
    Prop where
  own_record : arena.player? player.spec.name = some player
  arena_variable : table.get? "arena" = some (.arena arena.name)
  arena_property : Yields arena table "me" "arena" (.arena arena.name)
  freq_variable : table.get? "freq" = some (.freq ⟨arena.name, player.spec.freq⟩)
  freq_property : Yields arena table "me" "freq" (.freq ⟨arena.name, player.spec.freq⟩)
  bounty_variable : table.get? "bounty" = some (.number player.spec.bounty)
  bounty_property : Yields arena table "me" "bounty" (.number player.spec.bounty)
  once_in_arena : ∃ everyone : List String,
    Yields arena table "arena" "everyone" (.players everyone) ∧
      everyone.count player.spec.name = 1
  once_in_freq : ∃ everyone : List String,
    Yields arena table "freq" "everyone" (.players everyone) ∧
      everyone.count player.spec.name = 1
  plays : ∃ players : List String, Yields arena table "freq" "players" (.players players) ∧
    (player.spec.name ∈ players ↔ player.spec.spectator = false)
  watches : ∃ specs : List String, Yields arena table "freq" "specs" (.players specs) ∧
    (player.spec.name ∈ specs ↔ player.spec.spectator = true)

theorem lists_registry_arena (arena : SimulatedArena) (name : String) :
    registry.Lists arena (roster.isSpectator arena) (.arena name)
      (roster.arenaMembers .playing arena name) (roster.arenaMembers .spectating arena name)
      (roster.arenaMembers .everyone arena name) := by
  obtain ⟨players, specs, everyone, size, splits⟩ := roster.lists_arena .empty arena name
  exact ⟨players, specs, everyone, size, splits⟩

theorem lists_registry_freq (arena : SimulatedArena) (freq : Freq game) :
    registry.Lists arena (roster.isSpectator arena) (.freq freq)
      (roster.freqMembers .playing arena freq) (roster.freqMembers .spectating arena freq)
      (roster.freqMembers .everyone arena freq) := by
  obtain ⟨players, specs, everyone, size, splits⟩ := roster.lists_freq .empty arena freq
  exact ⟨players, specs, everyone, size, splits⟩

section Agreement

variable {arena : SimulatedArena} {player : PlayerRecord} (listed : player ∈ arena.players)

include listed

theorem get?_contextFor (wanted : String) :
    (arena.contextFor player.spec.name).get? wanted =
      if wanted = "bounty" then some (.number player.spec.bounty)
      else if wanted = "freq" then some (.freq ⟨arena.name, player.spec.freq⟩)
      else if wanted = "arena" then some (.arena arena.name)
      else if wanted = "me" then some (.player player.spec.name)
      else none := by
  rw [contextFor, player?_eq_some listed]
  simp only [NameMap.insertAll, NameMap.ofList, List.foldl_cons, List.foldl_nil,
    NameMap.get?_insert, NameMap.get?_empty]

theorem dereference?_freq :
    registry.dereference? arena (.player player.spec.name) "freq" =
      some (.freq ⟨arena.name, player.spec.freq⟩) := by
  simp [registry, Roster.registerBaseline, roster, Roster.freqOf, player?_eq_some listed]

theorem dereference?_bounty :
    registry.dereference? arena (.player player.spec.name) "bounty" =
      some (.number player.spec.bounty) := by
  simp [registry, Roster.registerBaseline, roster, player?_eq_some listed]

omit listed in
theorem dereference?_arena (name : String) :
    registry.dereference? arena (.player name) "arena" = some (.arena arena.name) := by
  simp [registry, Roster.registerBaseline, roster]

omit listed in
theorem arenaPlayers_self (arena : SimulatedArena) :
    roster.arenaPlayers arena arena.name = arena.playerNames :=
  if_pos (beq_self_eq_true _)

theorem playerFreq_eq : roster.playerFreq arena player.spec.name = player.spec.freq := by
  simp [roster, player?_eq_some listed]

theorem isSpectator_eq :
    roster.isSpectator arena player.spec.name = player.spec.spectator := by
  simp [roster, player?_eq_some listed]

theorem count_arenaMembers :
    List.count player.spec.name (roster.arenaMembers .everyone arena arena.name) = 1 := by
  rw [roster.arenaMembers_everyone, arenaPlayers_self]
  exact count_playerNames listed

theorem count_freqMembers :
    List.count player.spec.name
      (roster.freqMembers .everyone arena ⟨arena.name, player.spec.freq⟩) = 1 := by
  rw [roster.freqMembers_everyone, arenaPlayers_self, ← count_playerNames listed]
  refine List.count_filter ?_
  rw [playerFreq_eq listed, beq_self_eq_true]

/-- A player is on the freq of the record. -/
theorem mem_freqMembers_iff (membership : Membership) :
    player.spec.name ∈ roster.freqMembers membership arena ⟨arena.name, player.spec.freq⟩ ↔
      roster.belongs arena player.spec.name membership = true := by
  have known : player.spec.name ∈ arena.playerNames := List.mem_map_of_mem listed
  rw [Roster.freqMembers, List.mem_filter, arenaPlayers_self, Bool.and_eq_true,
    playerFreq_eq listed, beq_self_eq_true]
  tauto

/-- Whoever is in an arena is seen alike in the variables and in the properties. -/
theorem agrees : Agrees arena player (arena.contextFor player.spec.name) := by
  have held := get?_contextFor listed
  have inArena := lists_registry_arena arena arena.name
  have inFreq := lists_registry_freq arena ⟨arena.name, player.spec.freq⟩
  constructor
  case own_record => exact player?_eq_some listed
  case arena_variable => exact held "arena"
  case arena_property => exact yields_of_dereference? (held "me") (dereference?_arena _)
  case freq_variable => exact held "freq"
  case freq_property => exact yields_of_dereference? (held "me") (dereference?_freq listed)
  case bounty_variable => exact held "bounty"
  case bounty_property => exact yields_of_dereference? (held "me") (dereference?_bounty listed)
  case once_in_arena =>
    exact ⟨_, yields_of_dereference? (held "arena") inArena.lists_everyone,
      count_arenaMembers listed⟩
  case once_in_freq =>
    exact ⟨_, yields_of_dereference? (held "freq") inFreq.lists_everyone, count_freqMembers listed⟩
  case plays =>
    refine ⟨_, yields_of_dereference? (held "freq") inFreq.lists_players, ?_⟩
    rw [mem_freqMembers_iff listed, Roster.belongs, isSpectator_eq listed, Bool.not_eq_true']
  case watches =>
    refine ⟨_, yields_of_dereference? (held "freq") inFreq.lists_specs, ?_⟩
    rw [mem_freqMembers_iff listed, Roster.belongs, isSpectator_eq listed]

end Agreement

end SimulatedArena

open SimulatedArena

/-- There is an arena unless nobody is in it or two of its players share a name, where the error
names the first player whose name is that of an earlier one. In every arena that there is, the
variables of each player agree with the properties. -/
theorem create_agrees (name : String) (jackpot : Float) (specs : List PlayerSpec) :
    ((∃ error, create name jackpot specs = .error error) ↔
      specs = [] ∨ ¬ (specs.map (·.name)).Nodup) ∧
    (create name jackpot specs = .error .noPlayers ↔ specs = []) ∧
    (∀ repeated, create name jackpot specs = .error (.duplicatePlayer repeated) ↔
      ∃ earlier spec later, specs = earlier ++ spec :: later ∧ spec.name = repeated ∧
        (earlier.map (·.name)).Nodup ∧ spec.name ∈ earlier.map (·.name)) ∧
    ∀ arena, create name jackpot specs = .ok arena →
      arena.name = name ∧ arena.jackpot = jackpot ∧ arena.players = specs.map .beginner ∧
        ∀ player ∈ arena.players,
          Agrees arena player (arena.contextFor player.spec.name) := by
  refine ⟨exists_create_eq_error_iff, create_eq_noPlayers_iff, fun repeated => ?_, ?_⟩
  · rw [create_eq_duplicatePlayer_iff, firstRepeated?_eq_some_iff]
    constructor
    · rintro ⟨before, after, same, distinct, known⟩
      obtain ⟨earlier, rest, rfl, rfl, sameRest⟩ := List.map_eq_append_iff.1 same
      obtain ⟨spec, later, rfl, rfl, rfl⟩ := List.map_eq_cons_iff.1 sameRest
      exact ⟨earlier, spec, later, rfl, rfl, distinct, known⟩
    · rintro ⟨earlier, spec, later, rfl, rfl, distinct, known⟩
      exact ⟨earlier.map (·.name), later.map (·.name), by rw [List.map_append, List.map_cons],
        distinct, known⟩
  · intro arena created
    obtain ⟨sameName, sameJackpot, samePlayers⟩ := create_eq_ok_iff.1 created
    exact ⟨sameName, sameJackpot, samePlayers, fun player listed => agrees listed⟩

theorem create_agrees_two_players :
    let gina : PlayerSpec := ⟨"gina", -3, false, 0.25⟩
    let hal : PlayerSpec := ⟨"hal", -3, true, 99⟩
    create "pub" 500 [gina, hal, gina] = .error (.duplicatePlayer "gina") ∧
      ∃ arena, create "pub" 500 [gina, hal] = .ok arena ∧
        Agrees arena (.beginner hal) (arena.contextFor "hal") := by
  intro gina hal
  obtain ⟨-, -, repeats, -⟩ := create_agrees "pub" 500 [gina, hal, gina]
  obtain ⟨-, -, -, fits⟩ := create_agrees "pub" 500 [gina, hal]
  obtain ⟨arena, created⟩ : ∃ arena, create "pub" 500 [gina, hal] = .ok arena :=
    exists_create_eq_ok_iff.2 ⟨by simp, by decide⟩
  obtain ⟨-, -, players, agree⟩ := fits arena created
  have listed : .beginner hal ∈ arena.players := by
    rw [players]
    exact List.mem_map_of_mem (by simp)
  exact ⟨(repeats "gina").2 ⟨[gina, hal], gina, [], rfl, rfl, by decide, by decide⟩,
    arena, created, agree _ listed⟩

end RewardFormula
