import RewardFormula.Game.Roster
import RewardFormula.Proofs.Game.Registrations
import RewardFormula.Proofs.Number.Counting

/-!
# The baseline properties agree

The properties of an arena and those of its freqs are found from one roster in several
ways: by filtering it for the arena and for each freq, by sorting the freqs on which
somebody plays, and by counting. Whatever the roster is, they fit together.
-/

namespace RewardFormula

theorem mem_insertAscending {number wanted : Int32} {numbers : List Int32} :
    wanted ∈ insertAscending number numbers ↔ wanted = number ∨ wanted ∈ numbers := by
  induction numbers with
  | nil =>
      rw [insertAscending, List.mem_singleton, or_iff_left (List.not_mem_nil)]
  | cons first rest inductionHypothesis =>
      rw [insertAscending]
      split
      next =>
        rw [List.mem_cons]
      next =>
        split
        next same =>
          rw [same, List.mem_cons, ← or_assoc, or_self]
        next =>
          rw [List.mem_cons, inductionHypothesis, List.mem_cons, or_left_comm]

theorem insertAscending_ascending (number : Int32) {numbers : List Int32}
    (ascending : numbers.Pairwise (· < ·)) : (insertAscending number numbers).Pairwise (· < ·) := by
  induction numbers with
  | nil =>
      exact List.pairwise_singleton _ _
  | cons first rest inductionHypothesis =>
      obtain ⟨above, ascending'⟩ := List.pairwise_cons.1 ascending
      rw [insertAscending]
      split
      next before =>
        refine List.pairwise_cons.2 ⟨fun other member => ?_, ascending⟩
        rcases List.mem_cons.1 member with rfl | member
        · exact before
        · exact Int32.lt_trans before (above other member)
      next notBefore =>
        split
        next =>
          exact ascending
        next different =>
          refine List.pairwise_cons.2 ⟨fun other member => ?_, inductionHypothesis ascending'⟩
          rcases mem_insertAscending.1 member with rfl | member
          · exact Int32.lt_of_le_of_ne (Int32.not_lt.1 notBefore) (Ne.symm different)
          · exact above other member

theorem mem_foldr_insertAscending {wanted : Int32} {numbers : List Int32} :
    wanted ∈ numbers.foldr insertAscending [] ↔ wanted ∈ numbers := by
  induction numbers with
  | nil =>
      rfl
  | cons number numbers inductionHypothesis =>
      rw [List.foldr_cons, mem_insertAscending, inductionHypothesis, List.mem_cons]

theorem foldr_insertAscending_ascending (numbers : List Int32) :
    (numbers.foldr insertAscending []).Pairwise (· < ·) := by
  induction numbers with
  | nil =>
      exact .nil
  | cons number numbers inductionHypothesis =>
      exact insertAscending_ascending number inductionHypothesis

/-- A list is split into those who play and those who watch. Both keep their order, and
nobody is lost, doubled or on both sides. -/
structure Splits {Player : Type} (watches : Player → Bool)
    (players specs everyone : List Player) : Prop where
  players_sublist : players.Sublist everyone
  specs_sublist : specs.Sublist everyone
  complete : (players ++ specs).Perm everyone
  disjoint : players.Disjoint specs
  playing : ∀ player ∈ players, watches player = false
  watching : ∀ player ∈ specs, watches player = true

theorem splits_filter {Player : Type} (watches : Player → Bool) (everyone : List Player) :
    Splits watches (everyone.filter (!watches ·)) (everyone.filter watches) everyone := by
  have playing : ∀ player ∈ everyone.filter (!watches ·), watches player = false := by
    intro player member
    simpa using (List.mem_filter.1 member).2
  have watching : ∀ player ∈ everyone.filter watches, watches player = true := by
    intro player member
    exact (List.mem_filter.1 member).2
  refine ⟨List.filter_sublist, List.filter_sublist, ?_, ?_, playing, watching⟩
  · exact List.perm_append_comm.trans (List.filter_append_perm watches everyone)
  · intro player plays spectates
    have different := (playing player plays).symm.trans (watching player spectates)
    cases different

theorem Splits.filter {Player : Type} {watches : Player → Bool}
    {players specs everyone : List Player} (split : Splits watches players specs everyone)
    (wanted : Player → Bool) :
    Splits watches (players.filter wanted) (specs.filter wanted) (everyone.filter wanted) where
  players_sublist := split.players_sublist.filter wanted
  specs_sublist := split.specs_sublist.filter wanted
  complete := by
    rw [← List.filter_append]
    exact split.complete.filter wanted
  disjoint := fun _ plays spectates =>
    split.disjoint (List.mem_of_mem_filter plays) (List.mem_of_mem_filter spectates)
  playing := fun player member => split.playing player (List.mem_of_mem_filter member)
  watching := fun player member => split.watching player (List.mem_of_mem_filter member)

/-- The items with one of some distinct keys can be listed key by key. -/
theorem flatMap_filter_perm {Item Key : Type} [DecidableEq Key] (key : Item → Key)
    {keys : List Key} (distinct : keys.Nodup) (items : List Item) :
    (keys.flatMap fun wanted => items.filter (key · == wanted)).Perm
      (items.filter (key · ∈ keys)) := by
  induction keys with
  | nil =>
      simp
  | cons first rest inductionHypothesis =>
      obtain ⟨absent, distinct'⟩ := List.nodup_cons.1 distinct
      have firsts : (items.filter (key · ∈ first :: rest)).filter (key · == first) =
          items.filter (key · == first) := by
        rw [List.filter_filter]
        refine List.filter_congr fun item _ => ?_
        by_cases same : key item = first <;> simp [same]
      have others :
          (items.filter (key · ∈ first :: rest)).filter (fun item => !(key item == first)) =
            items.filter (key · ∈ rest) := by
        rw [List.filter_filter]
        refine List.filter_congr fun item _ => ?_
        by_cases same : key item = first
        · simp [same, absent]
        · simp [same]
      rw [List.flatMap_cons]
      refine ((inductionHypothesis distinct').append_left _).trans ?_
      rw [← firsts, ← others]
      exact List.filter_append_perm _ _

variable {G : Game}

namespace Roster

variable (roster : Roster G) (state : G.State)

theorem freqMembers_eq_filter (membership : Membership) (freq : Freq G) :
    roster.freqMembers membership state freq =
      (roster.arenaMembers membership state freq.arena).filter
        (roster.playerFreq state · == freq.number) := by
  rw [freqMembers, arenaMembers, List.filter_filter]

theorem arenaMembers_everyone (arena : G.Arena) :
    roster.arenaMembers .everyone state arena = roster.arenaPlayers state arena :=
  List.filter_true _

theorem freqMembers_everyone (freq : Freq G) :
    roster.freqMembers .everyone state freq =
      (roster.arenaPlayers state freq.arena).filter (roster.playerFreq state · == freq.number) := by
  rw [freqMembers_eq_filter, arenaMembers_everyone]

/-- Those who play and those who watch are told apart in an arena as in a freq. -/
theorem splits_arenaMembers (arena : G.Arena) :
    Splits (roster.isSpectator state) (roster.arenaMembers .playing state arena)
      (roster.arenaMembers .spectating state arena)
      (roster.arenaMembers .everyone state arena) := by
  rw [arenaMembers_everyone]
  exact splits_filter _ _

theorem splits_freqMembers (freq : Freq G) :
    Splits (roster.isSpectator state) (roster.freqMembers .playing state freq)
      (roster.freqMembers .spectating state freq)
      (roster.freqMembers .everyone state freq) := by
  simp only [freqMembers_eq_filter]
  exact (roster.splits_arenaMembers state freq.arena).filter _

theorem arena_of_mem_arenaFreqs {arena : G.Arena} {freq : Freq G}
    (member : freq ∈ roster.arenaFreqs state arena) : freq.arena = arena := by
  obtain ⟨number, -, rfl⟩ := List.mem_map.1 member
  rfl

theorem arenaFreqs_ascending (arena : G.Arena) :
    (roster.arenaFreqs state arena).Pairwise (·.number < ·.number) :=
  List.pairwise_map.2 (foldr_insertAscending_ascending _)

theorem mem_arenaFreqs {arena : G.Arena} {number : Int32} :
    ⟨arena, number⟩ ∈ roster.arenaFreqs state arena ↔
      ∃ player ∈ roster.arenaMembers .playing state arena,
        roster.playerFreq state player = number := by
  simp [arenaFreqs, mem_foldr_insertAscending]

/-- A freq is found if somebody plays on it. -/
theorem mem_arenaFreqs_iff {arena : G.Arena} {number : Int32} :
    ⟨arena, number⟩ ∈ roster.arenaFreqs state arena ↔
      1 ≤ (roster.freqMembers .playing state ⟨arena, number⟩).length := by
  rw [mem_arenaFreqs, freqMembers_eq_filter, Nat.one_le_iff_ne_zero, ← Nat.pos_iff_ne_zero,
    List.length_pos_iff_exists_mem]
  simp only [List.mem_filter, beq_iff_eq]

/-- Everybody who plays in an arena plays on one of its freqs. -/
theorem flatMap_freqMembers_perm (arena : G.Arena) :
    ((roster.arenaFreqs state arena).flatMap (roster.freqMembers .playing state)).Perm
      (roster.arenaMembers .playing state arena) := by
  obtain ⟨numbers, sameNumbers⟩ : ∃ numbers,
      ((roster.arenaMembers .playing state arena).map (roster.playerFreq state)).foldr
        insertAscending [] = numbers :=
    ⟨_, rfl⟩
  have distinct : numbers.Nodup := by
    rw [← sameNumbers]
    exact (foldr_insertAscending_ascending _).imp Int32.ne_of_lt
  have covered : (roster.arenaMembers .playing state arena).filter
      (roster.playerFreq state · ∈ numbers) = roster.arenaMembers .playing state arena := by
    refine List.filter_eq_self.2 fun player member => ?_
    rw [← sameNumbers, decide_eq_true_iff, mem_foldr_insertAscending]
    exact List.mem_map_of_mem member
  have grouped := flatMap_filter_perm (roster.playerFreq state) distinct
    (roster.arenaMembers .playing state arena)
  rw [covered] at grouped
  simpa only [arenaFreqs, sameNumbers, List.flatMap_map, freqMembers_eq_filter] using grouped

theorem sum_freqMembers_length (arena : G.Arena) :
    ((roster.arenaFreqs state arena).map fun freq =>
      (roster.freqMembers .playing state freq).length).sum =
      (roster.arenaMembers .playing state arena).length := by
  rw [← (roster.flatMap_freqMembers_perm state arena).length_eq, List.length_flatMap]

end Roster

theorem PropertyTable.visible?_register {Handle : Type} (table : PropertyTable G Handle)
    (name : String) (registration : Registration G Handle) (wanted : String) :
    (table.register name registration).visible? wanted =
      if wanted = name then some registration.property else table.visible? wanted := by
  unfold visible?
  rw [stack_register]
  split <;> rfl

namespace Registry

variable (registry : Registry G) (state : G.State) (name field : String)

@[simp]
theorem dereference?_registerArena_arena (property : G.State → G.Arena → Value G)
    (arena : G.Arena) :
    (registry.registerArena name property).dereference? state (.arena arena) field =
      if field = name then some (property state arena)
      else registry.dereference? state (.arena arena) field := by
  rw [registerArena, dereference?, PropertyTable.visible?_register]
  split <;> rfl

@[simp]
theorem dereference?_registerFreq_freq (property : G.State → Freq G → Value G) (freq : Freq G) :
    (registry.registerFreq name property).dereference? state (.freq freq) field =
      if field = name then some (property state freq)
      else registry.dereference? state (.freq freq) field := by
  rw [registerFreq, dereference?, PropertyTable.visible?_register]
  split <;> rfl

@[simp]
theorem dereference?_registerArena_freq (property : G.State → G.Arena → Value G)
    (freq : Freq G) :
    (registry.registerArena name property).dereference? state (.freq freq) field =
      registry.dereference? state (.freq freq) field :=
  rfl

@[simp]
theorem dereference?_registerFreq_arena (property : G.State → Freq G → Value G)
    (arena : G.Arena) :
    (registry.registerFreq name property).dereference? state (.arena arena) field =
      registry.dereference? state (.arena arena) field :=
  rfl

@[simp]
theorem dereference?_registerPlayer_arena (property : G.State → G.Player → Value G)
    (arena : G.Arena) :
    (registry.registerPlayer name property).dereference? state (.arena arena) field =
      registry.dereference? state (.arena arena) field :=
  rfl

@[simp]
theorem dereference?_registerPlayer_freq (property : G.State → G.Player → Value G)
    (freq : Freq G) :
    (registry.registerPlayer name property).dereference? state (.freq freq) field =
      registry.dereference? state (.freq freq) field :=
  rfl

@[simp]
theorem dereference?_registerPlayer_player (property : G.State → G.Player → Value G)
    (player : G.Player) :
    (registry.registerPlayer name property).dereference? state (.player player) field =
      if field = name then some (property state player)
      else registry.dereference? state (.player player) field := by
  rw [registerPlayer, dereference?, PropertyTable.visible?_register]
  split <;> rfl

/-- The properties of an arena or freq that list its players, and the one that counts those
who play. -/
structure Lists (watches : G.Player → Bool) (value : Value G)
    (players specs everyone : List G.Player) : Prop where
  lists_players : registry.dereference? state value "players" = some (.players players)
  lists_specs : registry.dereference? state value "specs" = some (.players specs)
  lists_everyone : registry.dereference? state value "everyone" = some (.players everyone)
  counts_players : registry.dereference? state value "size" =
    some (.number (Float.ofNat players.length))
  splits : Splits watches players specs everyone

end Registry

namespace Roster

variable (roster : Roster G) (registry : Registry G) (state : G.State)

theorem lists_arena (arena : G.Arena) :
    (roster.registerBaseline registry).Lists state (roster.isSpectator state) (.arena arena)
      (roster.arenaMembers .playing state arena) (roster.arenaMembers .spectating state arena)
      (roster.arenaMembers .everyone state arena) := by
  constructor
  case splits =>
    exact roster.splits_arenaMembers state arena
  all_goals
    simp [registerBaseline, registerMembers, count]

theorem lists_freq (freq : Freq G) :
    (roster.registerBaseline registry).Lists state (roster.isSpectator state) (.freq freq)
      (roster.freqMembers .playing state freq) (roster.freqMembers .spectating state freq)
      (roster.freqMembers .everyone state freq) := by
  constructor
  case splits =>
    exact roster.splits_freqMembers state freq
  all_goals
    simp [registerBaseline, registerMembers, count]

theorem dereference?_freqs (arena : G.Arena) :
    (roster.registerBaseline registry).dereference? state (.arena arena) "freqs" =
      some (.freqs (roster.arenaFreqs state arena)) := by
  simp [registerBaseline]

/-- Counts of players are added without rounding. -/
theorem foldl_sizes (arena : G.Arena)
    (small : (roster.arenaMembers .playing state arena).length < 2 ^ 53) :
    ((roster.arenaFreqs state arena).map fun freq =>
      Float.ofNat (roster.freqMembers .playing state freq).length).foldl (· + ·) 0 =
      Float.ofNat (roster.arenaMembers .playing state arena).length := by
  have total := roster.sum_freqMembers_length state arena
  have summed := Binary64.foldl_add_ofNat ((roster.arenaFreqs state arena).map fun freq =>
    (roster.freqMembers .playing state freq).length) (by rwa [Nat.zero_add, total])
  rw [List.foldl_map, Nat.zero_add, total] at summed
  rw [List.foldl_map]
  exact summed

end Roster

/-- Whatever the roster, the players and the spectators of an arena or freq are everybody in
it, told apart, and its size is the number of its players. The freqs of an arena are in
ascending order, and are those of its freqs that have a size of at least one. Their players
are the players of the arena, and their sizes add up to that of the arena. -/
theorem baseline_agrees (roster : Roster G) (registry : Registry G) (state : G.State)
    (arena : G.Arena) :
    let baseline := roster.registerBaseline registry
    (∀ freq, ∃ players specs everyone,
      baseline.Lists state (roster.isSpectator state) (.freq freq) players specs everyone ∧
      everyone = (roster.arenaPlayers state freq.arena).filter
        (roster.playerFreq state · == freq.number)) ∧
    ∃ (players specs everyone : List G.Player) (freqs : List (Freq G)),
      baseline.Lists state (roster.isSpectator state) (.arena arena) players specs everyone ∧
      everyone = roster.arenaPlayers state arena ∧
      baseline.dereference? state (.arena arena) "freqs" = some (.freqs freqs) ∧
      freqs.Pairwise (·.number < ·.number) ∧
      (∀ freq ∈ freqs, freq.arena = arena) ∧
      (∀ number, ⟨arena, number⟩ ∈ freqs ↔
        ∃ size, baseline.dereference? state (.freq ⟨arena, number⟩) "size" = some (.number size) ∧
          1 ≤ size) ∧
      (∃ teams : List (List G.Player),
        freqs.map (fun freq => baseline.dereference? state (.freq freq) "players") =
          teams.map (fun team => some (.players team)) ∧
        teams.flatten.Perm players) ∧
      ∃ sizes : List Float,
        freqs.map (fun freq => baseline.dereference? state (.freq freq) "size") =
          sizes.map (fun size => some (.number size)) ∧
        (players.length < 2 ^ 53 →
          baseline.dereference? state (.arena arena) "size" =
            some (.number (sizes.foldl (· + ·) 0))) := by
  intro baseline
  have ofFreq := roster.lists_freq registry state
  have ofArena := roster.lists_arena registry state arena
  refine ⟨fun freq => ⟨_, _, _, ofFreq freq, roster.freqMembers_everyone state freq⟩, _, _, _,
    roster.arenaFreqs state arena, ofArena, roster.arenaMembers_everyone state arena,
    roster.dereference?_freqs registry state arena, roster.arenaFreqs_ascending state arena,
    fun _ => roster.arena_of_mem_arenaFreqs state, fun number => ?_, ?_, ?_⟩
  · rw [roster.mem_arenaFreqs_iff, ← Binary64.one_le_ofNat_iff]
    constructor
    · intro playedOn
      exact ⟨_, (ofFreq _).counts_players, playedOn⟩
    · rintro ⟨size, found, playedOn⟩
      rw [(ofFreq _).counts_players] at found
      cases found
      exact playedOn
  · refine ⟨(roster.arenaFreqs state arena).map (roster.freqMembers .playing state), ?_, ?_⟩
    · rw [List.map_map]
      exact List.map_congr_left fun freq _ => (ofFreq freq).lists_players
    · rw [← List.flatMap_def]
      exact roster.flatMap_freqMembers_perm state arena
  · refine ⟨(roster.arenaFreqs state arena).map fun freq =>
      Float.ofNat (roster.freqMembers .playing state freq).length, ?_, ?_⟩
    · rw [List.map_map]
      exact List.map_congr_left fun freq _ => (ofFreq freq).counts_players
    · intro small
      rw [roster.foldl_sizes state arena small]
      exact ofArena.counts_players

/-- An arena in which a player is listed twice, and one watches on a freq of others. -/
def skirmish : Roster ⟨Unit, Unit, Nat⟩ where
  arenaPlayers _ _ := [0, 1, 2, 1, 3]
  playerArena _ _ := ()
  playerFreq _ player := if player = 1 then -3 else 5
  isSpectator _ player := player == 2
  bounty _ _ := 0
  jackpot _ _ := 0

theorem baseline_agrees_in_skirmish :
    let baseline := skirmish.registerBaseline .empty
    let freqs : List (Freq ⟨Unit, Unit, Nat⟩) := [⟨(), -3⟩, ⟨(), 5⟩]
    baseline.dereference? () (.arena ()) "players" = some (.players [0, 1, 1, 3]) ∧
    baseline.dereference? () (.arena ()) "freqs" = some (.freqs freqs) ∧
    ⟨(), -3⟩ ∈ freqs ∧
    (∃ size, baseline.dereference? () (.freq ⟨(), -3⟩) "size" = some (.number size) ∧ 1 ≤ size) ∧
    [0, 1, 1, 3].length < 2 ^ 53 ∧
    ∃ sizes : List Float,
      freqs.map (fun freq => baseline.dereference? () (.freq freq) "size") =
        sizes.map (fun size => some (.number size)) ∧
      baseline.dereference? () (.arena ()) "size" =
        some (.number (sizes.foldl (· + ·) 0)) := by
  intro baseline freqs
  obtain ⟨-, players, specs, everyone, freqs', lists, -, held, -, -, found, -, sizes, sized,
    summed⟩ := baseline_agrees skirmish .empty () ()
  have playing : baseline.dereference? () (.arena ()) "players" = some (.players [0, 1, 1, 3]) :=
    rfl
  have onFreqs : baseline.dereference? () (.arena ()) "freqs" = some (.freqs freqs) :=
    rfl
  obtain rfl : players = [0, 1, 1, 3] := by
    have same := lists.lists_players.symm.trans playing
    injection same with same
    injection same
  obtain rfl : freqs' = freqs := by
    have same := held.symm.trans onFreqs
    injection same with same
    injection same
  have member : ⟨(), -3⟩ ∈ freqs := List.mem_cons_self
  have short : [0, 1, 1, 3].length < 2 ^ 53 := by
    decide
  exact ⟨playing, onFreqs, member, (found (-3)).1 member, short, sizes, sized, summed short⟩

end RewardFormula
