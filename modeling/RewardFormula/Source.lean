import RewardFormula.Source.Grammar

/-!
# Reading sources

A source is the text of a formula, of an arithmetic expression or of a
condition. It is read as a whole, with layout allowed on both of its sides.
-/

namespace RewardFormula

namespace Source

def isAscii (c : Char) : Bool :=
  decide (c.toNat < 128)

/-- The stretch of the first character outside ASCII. -/
def nonAscii? (source : List Char) : Option Location :=
  match source.dropWhile isAscii with
  | [] => none
  | c :: _ => some (.after (source.takeWhile isAscii) c.utf8Size)

/-- The depth to which rules can be nested in a source. -/
def depth (source : List Char) : Nat :=
  2 * source.length + 2

/-- Runs a rule on the whole of a source. -/
def readAll (rule : Reader α) (source : List Char) : Except Fault α :=
  match Reader.spaced rule source with
  | .read value [] => .ok value
  | .read _ rest => .error ⟨.leftovers, none, rest, []⟩
  | .refused fault => .error fault
  | .broken fault => .error fault

/-- Refuses a source in which nothing but layout stands. -/
def notBlank (source : List Char) : Except Fault Unit :=
  match Reader.layout source with
  | .read _ [] => .error ⟨.empty, none, [], []⟩
  | .read _ _ => .ok ()
  | .refused fault => .error fault
  | .broken fault => .error fault

/-- Reads a source in ASCII. Other sources are refused at their first character
outside it. -/
def readAscii (read : List Char → Except Fault α) (source : String) : Except SourceError α :=
  match nonAscii? source.toList with
  | some location => .error ⟨.nonAscii, none, location⟩
  | none => (read source.toList).mapError (SourceError.ofFault source.toList)

end Source

/-- Reads a formula: assignments, or the declaration of a function. -/
def parseFormula : String → Except SourceError Formula :=
  Source.readAscii fun source => do
    Source.notBlank source
    Source.readAll (Reader.formula (Reader.term (Source.depth source))) source

/-- Reads an arithmetic expression. -/
def parseExpr : String → Except SourceError Expr :=
  Source.readAscii fun source =>
    Source.readAll (Reader.expression (Reader.term (Source.depth source))) source

/-- Reads a condition. -/
def parseCondition : String → Except SourceError Condition :=
  Source.readAscii fun source =>
    Source.readAll (Reader.condition (Reader.term (Source.depth source))) source

/-- The name to which a bare expression is assigned. -/
def answerName : String := "ans"

/-- Reads a formula, or else an arithmetic expression whose value is assigned to
the answer. If a source is neither, its fault as a formula is given. -/
def parseInput (source : String) : Except SourceError Formula :=
  match parseFormula source with
  | .ok formula => .ok formula
  | .error error =>
    match parseExpr source with
    | .ok expr => .ok (.single answerName expr)
    | .error _ => .error error

end RewardFormula
