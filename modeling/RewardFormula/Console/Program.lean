import RewardFormula.Console.Command
import RewardFormula.Console.Options
import RewardFormula.Console.TypedLine
import RewardFormula.Formula.Outline
import RewardFormula.Formula.Text

/-!
# The program

What a command line does: it fails, it needs the text of the input, or it begins
an interactive session, which takes the input line by line.
-/

namespace RewardFormula

/-- The end of a run. -/
structure Completion where
  exitCode : Nat
  out : String
  err : String
  deriving DecidableEq, Repr

namespace Completion

def success (out : String) : Completion := ⟨0, out, ""⟩

/-- An arena that cannot be, or a player who is not in it. -/
def arenaFailure (text : String) : Completion := ⟨1, "", "Error: " ++ text ++ "\n"⟩

/-- A command line that cannot be understood. -/
def usage : Completion := ⟨2, "", "usage"⟩

end Completion

/-- What is left to do once a command line is read. -/
inductive Task where
  | complete (completion : Completion)
  | takeText (complete : String → Completion)
  | converse (colored : Bool) (session : Session)

namespace Task

/-- Uses a formula of the command line, or else the input. -/
def ofFormula (formula? : Option String) (complete : String → Completion) : Task :=
  match formula? with
  | some formula => .complete (complete formula)
  | none => takeText complete

end Task

namespace Program

/-- Shows the structure of a formula, and its canonical text. -/
def showStructure (source : String) : Completion :=
  match parseInput source with
  | .ok formula => .success (formula.outline.spread "" ++ "\n" ++ formula.text ++ "\n")
  | .error error =>
    let report : Report := ⟨1, source, .ofSourceError error⟩
    ⟨2, "", report.layOut.render false⟩

/-- Evaluates a formula; the variables that it creates are not kept. -/
def evaluateOnce (colored : Bool) (session : Session) (source : String) : Completion :=
  let (_, output, succeeded) := session.evaluateSource .removeCreated source
  ⟨if succeeded then 0 else 2, output.out.render colored, output.err.render colored⟩

def versionText : String := "0.1.0"

/-- What an interactive session begins with. -/
def greeting : Styled :=
  [.start .bold, .text ("arena-formula REPL v" ++ versionText ++ "\n"), .reset] ++
    Styled.line "CLI / REPL for evaluating arena formulas against a simulated arena." ++
    Styled.line "Type `:help` for the list of commands."

/-- What is written before a line is read. -/
def prompt (session : Session) : String :=
  session.acting ++ "> "

/-- The lines of a text, each with its end. -/
def linesOf (current : List Char) : List Char → List String
  | [] => if current.isEmpty then [] else [String.ofList current.reverse]
  | c :: rest =>
    if c = '\n' then String.ofList (c :: current).reverse :: linesOf [] rest
    else linesOf (c :: current) rest

/-- Takes lines until they or the session end. -/
def converseAll (colored : Bool) (session : Session) : List String → Completion
  | [] => ⟨0, prompt session, ""⟩
  | line :: rest =>
    let (next, output) := session.takeLine (TypedLine.clean line)
    let tail :=
      match next with
      | some session => converseAll colored session rest
      | none => .success ""
    ⟨tail.exitCode, prompt session ++ output.out.render colored ++ tail.out,
      output.err.render colored ++ tail.err⟩

/-- What stands before a line that belongs to the one above. -/
def margin : List Char := [' ', ' ', ' ', ' ']

/-- A text with the margin before each of its lines. -/
def indented (text : String) : String :=
  String.ofList (margin ++ text.toList.flatMap fun c => if c = '\n' then c :: margin else [c])

/-- The session in which the formulas of a command line are evaluated. -/
def sessionFor (options : EvalOptions) : Except Completion Session := do
  let players :=
    if options.players.isEmpty then SimulatedArena.defaultPlayers else options.players
  let arena ←
    (SimulatedArena.create (options.arena?.getD "pub") (options.jackpot?.getD 1000)
      players).mapError fun error => .arenaFailure error.message
  let session := Session.start arena options.integerDefault?
  match options.acting? with
  | none => return session
  | some name =>
    (session.switchTo name).mapError fun error =>
      .arenaFailure ("invalid `--as` player\n\nCaused by:\n" ++ indented error.message)

def taskFor (words : List String) : Task :=
  match Request.ofWords? words with
  | none => .complete .usage
  | some .version => .complete (.success ("arena-formula-cli " ++ versionText ++ "\n"))
  | some (.ast formula?) => .ofFormula formula? showStructure
  | some (.eval options) =>
    match sessionFor options with
    | .error completion => .complete completion
    | .ok session =>
      let colored := options.coloring? == some .always
      if options.interactive then .converse colored session
      else .ofFormula options.formula? (evaluateOnce colored session)

/-- Runs a command line on an input that is known as a whole. -/
def run (words : List String) (input : String) : Completion :=
  match taskFor words with
  | .complete completion => completion
  | .takeText complete => complete input
  | .converse colored session =>
    let rest := converseAll colored session (linesOf [] input.toList)
    { rest with out := greeting.render colored ++ rest.out }

end Program

end RewardFormula
