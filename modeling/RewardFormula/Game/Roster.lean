import RewardFormula.Game.Registry

/-!
# Rosters

A roster tells who is in an arena and what there is to know about each player.
The baseline properties of arenas, freqs and players are found from it.
-/

namespace RewardFormula

/-- A read-only view of the state of a game. -/
structure Roster (G : Game) where
  /-- All players in an arena, playing or not, in a fixed order. -/
  arenaPlayers : G.State → G.Arena → List G.Player
  playerArena : G.State → G.Player → G.Arena
  playerFreq : G.State → G.Player → Int32
  isSpectator : G.State → G.Player → Bool
  bounty : G.State → G.Player → Float
  jackpot : G.State → G.Arena → Float

/-- Which players of an arena or freq are meant. -/
inductive Membership where
  | playing
  | spectating
  | everyone
  deriving DecidableEq, Repr

/-- Puts a number at its place in a strictly ascending list, unless it is
there. -/
def insertAscending (number : Int32) : List Int32 → List Int32
  | [] => [number]
  | first :: rest =>
    if number < first then number :: first :: rest
    else if number = first then first :: rest
    else first :: insertAscending number rest

namespace Roster

variable (roster : Roster G)

def belongs (state : G.State) (player : G.Player) : Membership → Bool
  | .playing => !roster.isSpectator state player
  | .spectating => roster.isSpectator state player
  | .everyone => true

def arenaMembers (membership : Membership) (state : G.State) (arena : G.Arena) : List G.Player :=
  (roster.arenaPlayers state arena).filter (roster.belongs state · membership)

def freqMembers (membership : Membership) (state : G.State) (freq : Freq G) : List G.Player :=
  (roster.arenaPlayers state freq.arena).filter fun player =>
    roster.playerFreq state player == freq.number && roster.belongs state player membership

/-- The freqs of an arena on which somebody plays, in ascending order. -/
def arenaFreqs (state : G.State) (arena : G.Arena) : List (Freq G) :=
  let numbers := (roster.arenaMembers .playing state arena).map (roster.playerFreq state)
  (numbers.foldr insertAscending []).map (⟨arena, ·⟩)

/-- The freq of a player. -/
def freqOf (state : G.State) (player : G.Player) : Freq G :=
  ⟨roster.playerArena state player, roster.playerFreq state player⟩

def count (players : List G.Player) : Value G :=
  .number (Float.ofNat players.length)

/-- Lists of the players of arenas and freqs. -/
def registerMembers (registry : Registry G) (name : String) (membership : Membership) :
    Registry G :=
  (registry.registerArena name fun state arena =>
      .players (roster.arenaMembers membership state arena)).registerFreq name
    fun state freq => .players (roster.freqMembers membership state freq)

/-- The baseline properties of arenas, freqs and players. -/
def registerBaseline (registry : Registry G) : Registry G :=
  let registry := roster.registerMembers registry "players" .playing
  let registry := roster.registerMembers registry "specs" .spectating
  let registry := roster.registerMembers registry "everyone" .everyone
  let registry := registry.registerArena "freqs" fun state arena =>
    .freqs (roster.arenaFreqs state arena)
  let registry := registry.registerArena "jackpot" fun state arena =>
    .number (roster.jackpot state arena)
  let registry := registry.registerArena "size" fun state arena =>
    count (roster.arenaMembers .playing state arena)
  let registry := registry.registerFreq "arena" fun _ freq => .arena freq.arena
  let registry := registry.registerFreq "size" fun state freq =>
    count (roster.freqMembers .playing state freq)
  let registry := registry.registerPlayer "arena" fun state player =>
    .arena (roster.playerArena state player)
  let registry := registry.registerPlayer "freq" fun state player =>
    .freq (roster.freqOf state player)
  registry.registerPlayer "bounty" fun state player => .number (roster.bounty state player)

end Roster

end RewardFormula
