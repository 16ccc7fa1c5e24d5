import RewardFormula.Console.Session

/-!
# Commands

Lines of an interactive session that begin with a colon are commands. All others
are formulas.
-/

namespace RewardFormula

open SimulatedArena (game)

inductive Command where
  | vars
  | clear
  | player (name : String)
  | kick (name : String)
  | help
  | quit
  deriving DecidableEq, Repr

/-- Why a command cannot be followed. -/
inductive CommandError where
  | needsName
  | takesNoArguments
  | unknown
  deriving DecidableEq, Repr

namespace CommandError

def message : CommandError → String
  | needsName => "Command requires a player name"
  | takesNoArguments => "Command does not take arguments"
  | unknown => "Unknown command"

end CommandError

namespace Command

/-- The command with a name and an argument, if one is given. -/
def ofParts (name : String) (argument? : Option String) : Except CommandError Command :=
  let bare (command : Command) : Except CommandError Command :=
    if argument?.isSome then .error .takesNoArguments else .ok command
  let named (command : String → Command) : Except CommandError Command :=
    match argument? with
    | some argument => .ok (command argument)
    | none => .error .needsName
  match name with
  | "vars" => bare vars
  | "clear" => bare clear
  | "help" => bare help
  | "quit" => bare quit
  | "q" => bare quit
  | "player" => named player
  | "kick" => named kick
  | _ => .error .unknown

/-- Reads a line as a command. There is none if the line does not begin with a
colon. The argument is all that follows the first blank. -/
def parse? (line : String) : Option (Except CommandError Command) :=
  match trim line.toList with
  | ':' :: rest =>
    let name := String.ofList (rest.takeWhile (!isWhiteSpace ·))
    match rest.dropWhile (!isWhiteSpace ·) with
    | [] => some (ofParts name none)
    | _ :: argument => some (ofParts name (some (String.ofList (trim argument))))
  | _ => none

end Command

namespace Wrapped

/-- Puts words on lines of at most `width` characters, as many on each as there
is room for. `line` is the line begun before. -/
def fill (width : Nat) (line : String) : List String → List String
  | [] => [line]
  | word :: rest =>
    if line.length + 1 + word.length ≤ width then fill width (line ++ " " ++ word) rest
    else line :: fill width word rest

end Wrapped

/-- The lines of words with single blanks between them. -/
def wrapped (width : Nat) : List String → List String
  | [] => []
  | word :: rest => Wrapped.fill width word rest

namespace Help

def introduction : List String :=
  ["Enter a formula, e.g. `reward = killed.bounty * 2`, or a bare expression, which is " ++
      "assigned to `ans`. Variables created by formulas persist for the acting player.",
    "",
    "Context variables: `me` (acting player), `arena`, `freq` (acting player's freq), `bounty`.",
    "",
    "Commands:",
    "  :vars           List variables of the acting player",
    "  :clear          Reset variables of the acting player",
    "  :player NAME    Switch the acting player",
    "  :kick NAME      Disconnect a player, dropping their variables",
    "  :help           Show this help",
    "  :quit           Exit the REPL"]

/-- The words of a list with a mark after each element. -/
def listWords (last : String) : List String → List String
  | [] => []
  | [name] => [name ++ last]
  | name :: rest => (name ++ ",") :: listWords last rest

def functions : List String :=
  wrapped 80 (["Functions:"] ++ listWords "" Function.unaryNames ++ ["(1", "argument);"] ++
    listWords "" Function.binaryNames ++ ["(2", "arguments)."])

def properties (type : ValueType) : List String :=
  wrapped 80 (["Properties", "of", type.name ++ "s:"] ++
    listWords "." (SimulatedArena.registry.names type))

def lines : List String :=
  introduction ++ functions ++ properties .arena ++ properties .freq ++ properties .player

end Help

namespace Session

/-- Follows a command. There is no session any more once it has ended. -/
def follow (session : Session) : Command → Option Session × Output
  | .vars => (some (session.withTable session.table), .shown session.listing)
  | .clear => (some session.clear, .silent)
  | .player name =>
    match session.switchTo name with
    | .ok session => (some session, .shown (.line ("Acting as `" ++ name ++ "`")))
    | .error error => (some session, .shown (.line ("Error: " ++ error.message)))
  | .kick name =>
    let message :=
      if session.hasTable name then "Dropped variables of `" ++ name ++ "`"
      else "`" ++ name ++ "` has no variables"
    (some (session.kick name), .shown (.line message))
  | .help => (some session, .shown (Help.lines.flatMap Styled.line))
  | .quit => (none, .silent)

/-- Takes a line of an interactive session. Blank lines are passed over. -/
def takeLine (session : Session) (line : String) : Option Session × Output :=
  if (trim line.toList).isEmpty then (some session, .silent)
  else
    match Command.parse? line with
    | some (.ok command) => session.follow command
    | some (.error error) =>
      let session := session.countSnippet
      let diagnostic := Diagnostic.ofCommandError line.toList error.message
      (some session, session.report line diagnostic)
    | none =>
      let (session, output, _) := session.evaluateSource .retainCreated line
      (some session, output)

end Session

end RewardFormula
