import RewardFormula.Number.Reading
import RewardFormula.Number.Text

/-!
# Player specs

A player of a simulated arena is described by a text of the form
`NAME[@FREQ][:spec][/BOUNTY]`, such as `alice@1/50` or `bob:spec`.
-/

namespace RewardFormula

/-- The freq of spectators for which none is given. -/
def spectatorFreq : Int32 := 8025

structure PlayerSpec where
  name : String
  freq : Int32
  spectator : Bool
  bounty : Float

instance : BEq PlayerSpec :=
  ⟨fun left right => left.name == right.name && left.freq == right.freq &&
    left.spectator == right.spectator && left.bounty == right.bounty⟩

/-- Why a text describes no player. -/
inductive SpecError where
  | bounty (text : String) (cause : FloatFault)
  | freq (text : String) (cause : IntegerFault)
  | name (text : String)
  deriving DecidableEq, Repr

namespace SpecError

def message : SpecError → String
  | bounty text _ => "invalid bounty `" ++ text ++ "`"
  | freq text _ => "invalid freq `" ++ text ++ "`"
  | name text =>
    "invalid player name `" ++ text ++ "`; use alphanumeric chars and underscores"

/-- The messages of what lies behind an error. -/
def causes : SpecError → List String
  | bounty _ cause => [cause.message]
  | freq _ cause => [cause.message]
  | name _ => []

end SpecError

namespace PlayerSpec

/-- What stands before and after the first occurrence of a mark. -/
def splitFirst? (mark : Char) (text : List Char) : Option (List Char × List Char) :=
  match text.dropWhile (· != mark) with
  | [] => none
  | _ :: after => some (text.takeWhile (· != mark), after)

/-- What stands before and after the last occurrence of a mark. -/
def splitLast? (mark : Char) (text : List Char) : Option (List Char × List Char) :=
  (splitFirst? mark text.reverse).map fun (after, before) => (before.reverse, after.reverse)

/-- What stands before an optional part of a text, and the part if the text was split there. -/
def optionalPart (text : List Char) :
    Option (List Char × List Char) → List Char × Option (List Char)
  | some (head, part) => (head, some part)
  | none => (text, none)

/-- The mark of spectators. -/
def spectatorMark : List Char := ":spec".toList

/-- What stands before the mark of spectators at the end, and whether it is
there. -/
def splitSpectator (text : List Char) : List Char × Bool :=
  if spectatorMark.isSuffixOf text then (text.take (text.length - spectatorMark.length), true)
  else (text, false)

def isNameChar (c : Char) : Bool :=
  c.isAlphanum || c == '_'

/-- Whether a text can name a player. -/
def isName (text : List Char) : Bool :=
  !text.isEmpty && text.all isNameChar

def readBounty : Option (List Char) → Except SpecError Float
  | none => .ok 0
  | some text =>
    (readFloat (String.ofList text)).mapError (.bounty (String.ofList text))

/-- The freq, for which spectators have a default of their own. -/
def readFreq (spectator : Bool) : Option (List Char) → Except SpecError Int32
  | none => .ok (if spectator then spectatorFreq else 0)
  | some text =>
    (readInt32 (String.ofList text)).mapError (.freq (String.ofList text))

/-- Reads a spec. The bounty stands after the last slash and the freq after the
first at-sign before it; the bounty is read before the freq, and the name is
checked last. -/
def parse (source : String) : Except SpecError PlayerSpec := do
  let (head, bountyText) := optionalPart source.toList (splitLast? '/' source.toList)
  let bounty ← readBounty bountyText
  let (head, spectator) := splitSpectator head
  let (name, freqText) := optionalPart head (splitFirst? '@' head)
  let freq ← readFreq spectator freqText
  if isName name then .ok ⟨String.ofList name, freq, spectator, bounty⟩
  else .error (.name (String.ofList name))

/-- The text of a spec with all of its parts. -/
def text (spec : PlayerSpec) : String :=
  spec.name ++ "@" ++ toString spec.freq.toInt ++ (if spec.spectator then ":spec" else "") ++
    "/" ++ numberText spec.bounty

end PlayerSpec

end RewardFormula
