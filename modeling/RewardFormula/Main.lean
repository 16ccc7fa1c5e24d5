import RewardFormula.Console.Program

/-!
# The command

Runs the program on the arguments and the standard input.
-/

namespace RewardFormula

/-- Writes what is left of a run, and gives its exit code. -/
def finish (completion : Completion) : IO UInt32 := do
  IO.print completion.out
  IO.eprint completion.err
  return completion.exitCode.toUInt32

/-- Takes lines from the standard input until they or the session end. -/
partial def converse (colored : Bool) (session : Session) : IO UInt32 := do
  IO.print (Program.prompt session)
  (← IO.getStdout).flush
  let line ← (← IO.getStdin).getLine
  if line.isEmpty then return 0
  let (next, output) := session.takeLine (TypedLine.clean line)
  IO.print (output.out.render colored)
  IO.eprint (output.err.render colored)
  match next with
  | some session => converse colored session
  | none => return 0

end RewardFormula

open RewardFormula

def main (arguments : List String) : IO UInt32 := do
  match Program.taskFor arguments with
  | .complete completion => finish completion
  | .takeText complete =>
    let input ← (← IO.getStdin).readToEnd
    finish (complete input)
  | .converse colored session =>
    IO.print (Program.greeting.render colored)
    converse colored session
