import RewardFormula.Game.Value

/-!
# The registry of properties

Properties of arenas, freqs and players are registered by the host under names.
Registrations under one name form a stack of which the newest is visible. Each
registration has a ticket, by which it can be taken back.
-/

namespace RewardFormula

/-- What is registered: a function of the state and of what the property is
asked of. -/
structure Registration (G : Game) (Handle : Type) where
  ticket : Nat
  property : G.State → Handle → Value G

/-- The registrations of one kind: stacks under names, the newest first. No
stack is empty. -/
structure PropertyTable (G : Game) (Handle : Type) where
  byName : NameMap (List (Registration G Handle))
  inhabited : ∀ name, byName.get? name ≠ some []

namespace PropertyTable

def empty : PropertyTable G Handle := ⟨.empty, by simp⟩

/-- The table with a stack under a name, in place of the one that was there. -/
def withStack
    (table : PropertyTable G Handle) (name : String) (newest : Registration G Handle)
    (older : List (Registration G Handle)) : PropertyTable G Handle where
  byName := table.byName.insert name (newest :: older)
  inhabited wanted := by
    rw [NameMap.get?_insert]
    split
    · simp
    · exact table.inhabited wanted

/-- The table without the stack under a name. -/
def withoutStack (table : PropertyTable G Handle) (name : String) : PropertyTable G Handle where
  byName := table.byName.erase name
  inhabited wanted := by
    rw [NameMap.get?_erase]
    split
    · simp
    · exact table.inhabited wanted

def stack (table : PropertyTable G Handle) (name : String) : List (Registration G Handle) :=
  (table.byName.get? name).getD []

def register
    (table : PropertyTable G Handle) (name : String) (registration : Registration G Handle) :
    PropertyTable G Handle :=
  table.withStack name registration (table.stack name)

/-- The table without the newest registration under the name that has the
ticket. There is none if no registration has it. -/
def unregister? (table : PropertyTable G Handle) (name : String) (ticket : Nat) :
    Option (PropertyTable G Handle) :=
  let stack := table.stack name
  if stack.any (·.ticket == ticket) then
    match stack.eraseP (·.ticket == ticket) with
    | [] => some (table.withoutStack name)
    | newest :: older => some (table.withStack name newest older)
  else none

/-- The visible property under a name. -/
def visible? (table : PropertyTable G Handle) (name : String) :
    Option (G.State → Handle → Value G) :=
  (table.stack name).head?.map (·.property)

/-- The names with a visible property, in ascending order. -/
def names (table : PropertyTable G Handle) : List String :=
  table.byName.names

end PropertyTable

/-- The kinds of what has properties. -/
inductive PropertyKind where
  | arena
  | freq
  | player
  deriving DecidableEq, Repr

/-- The properties of arenas, freqs and players. Tickets are counted, so that
no two registrations have the same. -/
structure Registry (G : Game) where
  arena : PropertyTable G G.Arena
  freq : PropertyTable G (Freq G)
  player : PropertyTable G G.Player
  nextTicket : Nat

namespace Registry

def empty : Registry G := ⟨.empty, .empty, .empty, 0⟩

/-- The ticket of the registration is the one that was next. -/
def registerArena (registry : Registry G) (name : String)
    (property : G.State → G.Arena → Value G) : Registry G :=
  { registry with
    arena := registry.arena.register name ⟨registry.nextTicket, property⟩
    nextTicket := registry.nextTicket + 1 }

def registerFreq (registry : Registry G) (name : String)
    (property : G.State → Freq G → Value G) : Registry G :=
  { registry with
    freq := registry.freq.register name ⟨registry.nextTicket, property⟩
    nextTicket := registry.nextTicket + 1 }

def registerPlayer (registry : Registry G) (name : String)
    (property : G.State → G.Player → Value G) : Registry G :=
  { registry with
    player := registry.player.register name ⟨registry.nextTicket, property⟩
    nextTicket := registry.nextTicket + 1 }

/-- Takes the registration with a ticket back. It has to be of this kind and
under this name; otherwise nothing changes, and there is no result. -/
def unregister? (registry : Registry G) (kind : PropertyKind) (name : String) (ticket : Nat) :
    Option (Registry G) :=
  match kind with
  | .arena => (registry.arena.unregister? name ticket).map ({ registry with arena := · })
  | .freq => (registry.freq.unregister? name ticket).map ({ registry with freq := · })
  | .player => (registry.player.unregister? name ticket).map ({ registry with player := · })

/-- The names of the properties of values of a type, in ascending order.
Numbers and lists have none. -/
def names (registry : Registry G) : ValueType → List String
  | .arena => registry.arena.names
  | .freq => registry.freq.names
  | .player => registry.player.names
  | _ => []

/-- The property of a value. -/
def dereference? (registry : Registry G) (state : G.State) (base : Value G) (field : String) :
    Option (Value G) :=
  match base with
  | .arena arena => (registry.arena.visible? field).map (· state arena)
  | .freq freq => (registry.freq.visible? field).map (· state freq)
  | .player player => (registry.player.visible? field).map (· state player)
  | _ => none

def outline (registry : Registry G) : Outline :=
  let listed (names : List String) : Outline := .list (names.map quotedOutline)
  .record "PropertyRegistry" [.labelled "arena" (listed registry.arena.names),
    .labelled "freq" (listed registry.freq.names),
    .labelled "player" (listed registry.player.names)]

end Registry

end RewardFormula
