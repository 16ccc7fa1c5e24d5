import RewardFormula.Arena.PlayerSpec
import RewardFormula.Game.Roster

/-!
# The simulated arena

A single arena with named players, against which formulas can be tried.
-/

namespace RewardFormula

/-- Why there is no such arena, or no such player in it. -/
inductive ArenaError where
  | noPlayers
  | duplicatePlayer (name : String)
  | unknownPlayer (name : String) (known : List String)
  deriving DecidableEq, Repr

namespace ArenaError

def message : ArenaError → String
  | noPlayers => "arena must contain at least one player"
  | duplicatePlayer name => "duplicate player `" ++ name ++ "`"
  | unknownPlayer name known =>
    "unknown player `" ++ name ++ "`; known players are: " ++ String.intercalate ", " known

end ArenaError

/-- A player of an arena, with what the player owns and has learnt. -/
structure PlayerRecord where
  spec : PlayerSpec
  money : Float
  experience : Float

/-- All players begin with the same money and without experience. -/
def PlayerRecord.beginner (spec : PlayerSpec) : PlayerRecord :=
  ⟨spec, 1000, 0⟩

/-- An arena with its players. At least one is there, and no two share a name. -/
structure SimulatedArena where
  name : String
  jackpot : Float
  players : List PlayerRecord
  inhabited : players ≠ []
  distinct : (players.map (·.spec.name)).Nodup

/-- The first name that occurs in a list and before it. -/
def firstRepeated? (earlier : List String) : List String → Option String
  | [] => none
  | first :: rest =>
    if first ∈ earlier then some first else firstRepeated? (first :: earlier) rest

theorem nodup_of_firstRepeated?_eq_none
    {earlier names : List String} (unrepeated : firstRepeated? earlier names = none) :
    names.Nodup ∧ ∀ name ∈ names, name ∉ earlier := by
  induction names generalizing earlier with
  | nil => simp
  | cons first rest inductionHypothesis =>
    simp only [firstRepeated?] at unrepeated
    split at unrepeated
    · simp at unrepeated
    next fresh =>
      obtain ⟨nodup, separate⟩ := inductionHypothesis unrepeated
      refine ⟨List.nodup_cons.2 ⟨fun member => ?_, nodup⟩, fun name member => ?_⟩
      · exact separate first member List.mem_cons_self
      · rcases List.mem_cons.1 member with rfl | member
        · exact fresh
        · exact fun earlierMember =>
            separate name member (List.mem_cons_of_mem _ earlierMember)

namespace SimulatedArena

/-- The game of a simulated arena. Arenas and players are known by their
names. -/
abbrev game : Game := ⟨SimulatedArena, String, String⟩

/-- The players of an arena for which none are given. -/
def defaultPlayers : List PlayerSpec :=
  [⟨"alice", 0, false, 10⟩, ⟨"bob", 0, false, 25⟩, ⟨"carol", 1, false, 40⟩,
    ⟨"dave", 1, false, 5⟩, ⟨"eve", spectatorFreq, true, 0⟩]

def create (name : String) (jackpot : Float) (players : List PlayerSpec) :
    Except ArenaError SimulatedArena :=
  if inhabited : players = [] then .error .noPlayers
  else
    match unrepeated : firstRepeated? [] (players.map (·.name)) with
    | some name => .error (.duplicatePlayer name)
    | none =>
      .ok {
        name, jackpot
        players := players.map .beginner
        inhabited := mt List.map_eq_nil_iff.1 inhabited
        distinct := by
          rw [List.map_map]
          exact (nodup_of_firstRepeated?_eq_none unrepeated).1 }

def player? (arena : SimulatedArena) (name : String) : Option PlayerRecord :=
  arena.players.find? (·.spec.name == name)

def contains (arena : SimulatedArena) (name : String) : Bool :=
  (arena.player? name).isSome

def playerNames (arena : SimulatedArena) : List String :=
  arena.players.map (·.spec.name)

def firstPlayer (arena : SimulatedArena) : String :=
  (arena.players.head arena.inhabited).spec.name

theorem contains_firstPlayer (arena : SimulatedArena) :
    arena.contains arena.firstPlayer = true := by
  simp only [contains, player?, firstPlayer, List.find?_isSome]
  exact ⟨_, List.head_mem arena.inhabited, by simp⟩

/-- The variables with which a player starts. -/
def contextFor (arena : SimulatedArena) (name : String) : Variables game :=
  let context : Variables game :=
    .ofList [("me", .player name), ("arena", .arena arena.name)]
  match arena.player? name with
  | some player =>
    context.insertAll
      [("freq", .freq ⟨arena.name, player.spec.freq⟩), ("bounty", .number player.spec.bounty)]
  | none => context

/-- There is nobody in other arenas. Players who are not known are on freq zero
without a bounty. -/
def roster : Roster game where
  arenaPlayers arena name := if name == arena.name then arena.playerNames else []
  playerArena arena _ := arena.name
  playerFreq arena name := ((arena.player? name).map (·.spec.freq)).getD 0
  isSpectator arena name := ((arena.player? name).map (·.spec.spectator)).getD false
  bounty arena name := ((arena.player? name).map (·.spec.bounty)).getD 0
  jackpot arena name := if name == arena.name then arena.jackpot else 0

/-- The baseline properties, and the money and experience of players. -/
def registry : Registry game :=
  let registry := roster.registerBaseline .empty
  let registry := registry.registerPlayer "money" fun arena name =>
    .number (((arena.player? name).map (·.money)).getD 0)
  registry.registerPlayer "exp" fun arena name =>
    .number (((arena.player? name).map (·.experience)).getD 0)

end SimulatedArena

end RewardFormula
