import RewardFormula.Console.Program

/-!
# Transcripts of conversations

A conversation takes lines one after the other. What a line does depends on what
kind of line it is: a formula, a command, or neither.
-/

namespace RewardFormula

/-- What a line of a conversation is. -/
inductive LineKind where
  | blank
  | formula
  | command (command : Command)
  | wrongCommand (error : CommandError)
  deriving DecidableEq, Repr

namespace LineKind

def ofLine (line : String) : LineKind :=
  if (trim line.toList).isEmpty then blank
  else
    match Command.parse? line with
    | some (.ok found) => command found
    | some (.error error) => wrongCommand error
    | none => formula

/-- Formulas and the commands for variables use the table of whoever acts. -/
def usesTable : LineKind → Bool
  | .formula => true
  | .command .vars => true
  | .command .clear => true
  | _ => false

/-- A formula shows its value and `:vars` shows the table. -/
def showsTable : LineKind → Bool
  | .formula => true
  | .command .vars => true
  | _ => false

theorem showsTable_of_not_usesTable {kind : LineKind} (uses : kind.usesTable = false) :
    kind.showsTable = false := by
  rcases kind with _ | _ | (_ | _ | _ | _ | _ | _) | _ <;> first | rfl | cases uses

end LineKind

namespace Session

theorem takeLine_eq (session : Session) (line : String) :
    session.takeLine line =
      match LineKind.ofLine line with
      | .blank => (some session, .silent)
      | .formula =>
        (some (session.evaluateSource .retainCreated line).1,
          (session.evaluateSource .retainCreated line).2.1)
      | .command command => session.follow command
      | .wrongCommand error =>
        (some session.countSnippet,
          session.countSnippet.report line (.ofCommandError line.toList error.message)) := by
  unfold takeLine LineKind.ofLine
  split
  · rfl
  · cases Command.parse? line with
    | none =>
        rfl
    | some parsed =>
        cases parsed <;> rfl

/-- A line, the player who was acting when it was taken, and what it was
answered. -/
structure Turn where
  acting : String
  line : String
  output : Output

/-- The turns of a conversation, and the session after them, if they have not
ended it. -/
def converse (session : Session) : List String → List Turn × Option Session
  | [] => ([], some session)
  | line :: rest =>
    let (next, output) := session.takeLine line
    let (turns, final) :=
      match next with
      | some next => next.converse rest
      | none => ([], none)
    (⟨session.acting, line, output⟩ :: turns, final)

variable {session next : Session} {line : String} {output : Output}

theorem converse_cons (taken : session.takeLine line = (some next, output))
    (rest : List String) :
    session.converse (line :: rest) =
      (⟨session.acting, line, output⟩ :: (next.converse rest).1, (next.converse rest).2) := by
  simp only [converse, taken]

theorem converse_cons_of_ended (taken : session.takeLine line = (none, output))
    (rest : List String) :
    session.converse (line :: rest) = ([⟨session.acting, line, output⟩], none) := by
  simp only [converse, taken]

end Session

namespace Program

open Session (Turn)

/-- What the program writes is the prompt and the answer of each turn, and one
more prompt if the lines end before the session does. -/
theorem converseAll_eq (colored : Bool) (session : Session) (lines : List String) :
    let conversation := session.converse (lines.map TypedLine.clean)
    let written (turn : Turn) : String := turn.acting ++ "> " ++ turn.output.out.render colored
    converseAll colored session lines =
      ⟨0, (conversation.1.map written).foldr (· ++ ·) ((conversation.2.map prompt).getD ""),
        (conversation.1.map (·.output.err.render colored)).foldr (· ++ ·) ""⟩ := by
  induction lines generalizing session with
  | nil =>
      rfl
  | cons line rest inductionHypothesis =>
      simp only [List.map_cons, Session.converse, converseAll]
      cases session.takeLine (TypedLine.clean line) with
      | mk next output =>
          cases next with
          | none =>
              rfl
          | some next =>
              simp only [inductionHypothesis next, List.foldr_cons]
              rfl

end Program

end RewardFormula
