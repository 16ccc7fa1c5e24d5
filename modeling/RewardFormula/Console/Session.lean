import RewardFormula.Arena.Simulated
import RewardFormula.Console.Diagnostic
import RewardFormula.Evaluation

/-!
# Sessions

A session evaluates formulas in a simulated arena for the player who is acting.
Every player has a table of variables, which is made when it is first used.
-/

namespace RewardFormula

open SimulatedArena (game)

/-- A diagnostic for a source that has a number. -/
structure Report where
  snippet : Nat
  source : String
  diagnostic : Diagnostic

namespace Report

def layOut (report : Report) : Styled :=
  report.diagnostic.layOut ("Snip #" ++ toString report.snippet) report.source.toList

end Report

/-- What a step of a session has to say. -/
inductive Output where
  | silent
  | shown (text : Styled)
  | reported (report : Report)

namespace Output

/-- What goes to the standard output. -/
def out : Output → Styled
  | shown text => text
  | _ => []

/-- What goes to the error output. -/
def err : Output → Styled
  | reported report => report.layOut
  | _ => []

end Output

/-- Whoever acts is in the arena, and so is every player who has a table. -/
structure Session where
  arena : SimulatedArena
  /-- The name of the player who is acting. -/
  acting : String
  actingPresent : arena.contains acting = true
  /-- Variables by the names of players. -/
  tables : NameMap (Variables game)
  ownersPresent : ∀ name, tables.contains name = true → arena.contains name = true
  /-- If it is given, values are rounded to integers, with this default. -/
  integerDefault? : Option Int32
  /-- How many sources were numbered so far. -/
  snippets : Nat

namespace Session

def start (arena : SimulatedArena) (integerDefault? : Option Int32) : Session where
  arena := arena
  acting := arena.firstPlayer
  actingPresent := arena.contains_firstPlayer
  tables := .empty
  ownersPresent _ present := absurd present Bool.false_ne_true
  integerDefault? := integerDefault?
  snippets := 0

/-- Lets another player act. -/
def switchTo (session : Session) (name : String) : Except ArenaError Session :=
  if present : session.arena.contains name then
    .ok { session with acting := name, actingPresent := present }
  else .error (.unknownPlayer name session.arena.playerNames)

/-- The variables of a player, as they are or as they would be made. -/
def tableOf (session : Session) (name : String) : Variables game :=
  (session.tables.get? name).getD (session.arena.contextFor name)

/-- The variables of the player who is acting. -/
def table (session : Session) : Variables game :=
  session.tableOf session.acting

/-- Replaces the variables of the player who is acting. -/
def withTable (session : Session) (table : Variables game) : Session :=
  { session with
    tables := session.tables.insert session.acting table
    ownersPresent := fun name present => by
      rw [NameMap.contains_insert, Bool.or_eq_true, decide_eq_true_iff] at present
      rcases present with rfl | present
      · exact session.actingPresent
      · exact session.ownersPresent name present }

/-- Gives the acting player the variables of the start. -/
def clear (session : Session) : Session :=
  session.withTable (session.arena.contextFor session.acting)

def hasTable (session : Session) (name : String) : Bool :=
  session.tables.contains name

/-- Drops the variables of a player. -/
def kick (session : Session) (name : String) : Session :=
  { session with
    tables := session.tables.erase name
    ownersPresent := fun other present => by
      rw [NameMap.contains_erase, Bool.and_eq_true] at present
      exact session.ownersPresent other present.2 }

/-- Gives the next source its number. -/
def countSnippet (session : Session) : Session :=
  { session with snippets := session.snippets + 1 }

/-- A diagnostic for the source that was numbered last. -/
def report (session : Session) (source : String) (diagnostic : Diagnostic) : Output :=
  .reported ⟨session.snippets, source, diagnostic⟩

def numberLine (name value : String) : Styled :=
  .plain (name ++ " = ") ++ Styled.inStyle .green value ++ .plain "\n"

/-- The text of a value that is not a number. -/
def valueText : Value game → String
  | .number value => numberText value
  | .arena arena => "arena " ++ arena
  | .freq freq => "freq " ++ toString freq.number.toInt ++ " in " ++ freq.arena
  | .freqs freqs =>
    "freqs [" ++ String.intercalate ", " (freqs.map fun freq => toString freq.number.toInt) ++ "]"
  | .player player => "player " ++ player
  | .players players => "players [" ++ String.intercalate ", " players ++ "]"

def valueLine (name : String) (value : Value game) : Styled :=
  match value with
  | .number number => numberLine name (numberText number)
  | value =>
    .plain (name ++ " = ") ++ Styled.inStyle .cyan (valueText value) ++ .plain "\n"

/-- The variables of the acting player, one on a line, in order of their
names. -/
def listing (session : Session) : Styled :=
  (session.table.entries.map fun entry => valueLine entry.1 entry.2).flatten

/-- A value as it is shown: rounded if the session rounds. -/
def resultText (session : Session) (value : Float) : String :=
  match session.integerDefault? with
  | some default => toString (roundToInt value default).toInt
  | none => numberText value

/-- Evaluates a source for the acting player. Reports whether it had a value. -/
def evaluateSource (session : Session) (retention : Retention) (source : String) :
    Session × Output × Bool :=
  let session := session.countSnippet
  match parseInput source with
  | .error error => (session, session.report source (.ofSourceError error), false)
  | .ok formula =>
    let outcome :=
      evaluateWith SimulatedArena.registry session.arena retention formula session.table
    let session := session.withTable outcome.table
    match outcome.result with
    | .ok evaluation =>
      (session, .shown (numberLine evaluation.name (session.resultText evaluation.value)), true)
    | .error error =>
      (session, session.report source (.ofEvalError source.toList error), false)

end Session

end RewardFormula
