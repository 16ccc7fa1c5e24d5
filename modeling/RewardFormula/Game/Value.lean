import RewardFormula.NameMap
import RewardFormula.Number.Text
import RewardFormula.Text.Outline
import RewardFormula.Text.Quoted

/-!
# Games and values

Formulas refer to a game of arenas and players. They handle arenas and players
by identifiers only; what there is to know about them is in the state of the
game.
-/

namespace RewardFormula

/-- A game: its states, and the identifiers of its arenas and players. -/
structure Game where
  State : Type
  Arena : Type
  Player : Type
  [sameArena : BEq Arena]
  [samePlayer : BEq Player]

namespace Game

instance (G : Game) : BEq G.Arena := G.sameArena

instance (G : Game) : BEq G.Player := G.samePlayer

end Game

/-- A team of players in an arena. -/
structure Freq (G : Game) where
  arena : G.Arena
  number : Int32

instance : BEq (Freq G) :=
  ⟨fun left right => left.number == right.number && left.arena == right.arena⟩

/-- What a variable or a property can hold. -/
inductive Value (G : Game) where
  | number (value : Float)
  | arena (handle : G.Arena)
  | freq (handle : Freq G)
  | freqs (handles : List (Freq G))
  | player (handle : G.Player)
  | players (handles : List G.Player)

/-- The variables that a formula sees. -/
abbrev Variables (G : Game) := NameMap (Value G)

inductive ValueType where
  | number
  | arena
  | freq
  | freqList
  | player
  | playerList
  deriving DecidableEq, Repr

namespace ValueType

def all : List ValueType := [number, arena, freq, freqList, player, playerList]

def name : ValueType → String
  | number => "number"
  | arena => "arena"
  | freq => "freq"
  | freqList => "freq list"
  | player => "player"
  | playerList => "player list"

/-- The type of the elements of a list. -/
def element? : ValueType → Option ValueType
  | freqList => some freq
  | playerList => some player
  | _ => none

end ValueType

namespace Value

def type : Value G → ValueType
  | number _ => .number
  | arena _ => .arena
  | freq _ => .freq
  | freqs _ => .freqList
  | player _ => .player
  | players _ => .playerList

def number? : Value G → Option Float
  | number value => some value
  | _ => none

/-- The elements of a list as values. -/
def elements? : Value G → Option (List (Value G))
  | .freqs items => some (items.map .freq)
  | .players items => some (items.map .player)
  | _ => none

/-- Values of one type are compared by what they hold. Numbers are compared as
numbers, so a not-a-number differs from itself. -/
def beq : Value G → Value G → Bool
  | number left, number right => left == right
  | arena left, arena right => left == right
  | freq left, freq right => left == right
  | freqs left, freqs right => left == right
  | player left, player right => left == right
  | players left, players right => left == right
  | _, _ => false

instance : BEq (Value G) := ⟨beq⟩

end Value

section Outlines

variable {G : Game} (arenaOutline : G.Arena → Outline) (playerOutline : G.Player → Outline)

/-- Identifiers are shown by the outlines that the game gives them. -/
def Freq.outline (freq : Freq G) : Outline :=
  .record "Freq" [.labelled "arena" (arenaOutline freq.arena),
    .labelled "freq" (.leaf (toString freq.number.toInt))]

def Value.outline : Value G → Outline
  | .number value => .tuple "Number" [.leaf (numberDump value)]
  | .arena handle => .tuple "Arena" [arenaOutline handle]
  | .freq handle => .tuple "Freq" [handle.outline arenaOutline]
  | .freqs handles => .tuple "FreqList" [.list (handles.map (·.outline arenaOutline))]
  | .player handle => .tuple "Player" [playerOutline handle]
  | .players handles => .tuple "PlayerList" [.list (handles.map playerOutline)]

end Outlines

/-- The outline of an identifier that is a text. -/
def quotedOutline (text : String) : Outline :=
  .leaf (quoted text)

end RewardFormula
