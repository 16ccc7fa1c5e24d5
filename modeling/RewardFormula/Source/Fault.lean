/-!
# Faults in a source

Why a source is not a formula, and where. While a source is read, a place in it
is the list of the characters that are left from there on; a location counts
from the start of the source and is found from the two ends of a fault.
-/

namespace RewardFormula

/-- The construct in which a fault was met. -/
inductive Construct where
  | function
  | expression
  | loop
  | assignment
  deriving DecidableEq, Repr

namespace Construct

def text : Construct → String
  | function => "function call"
  | expression => "arithmetic expression"
  | loop => "for loop"
  | assignment => "assignment"

end Construct

/-- Ways in which the rules of the grammar themselves could fail. No source
leads to one. -/
inductive Defect where
  /-- A repeated item was read from no characters. -/
  | stalled
  /-- Rules were nested deeper than the source is long. -/
  | tooDeep
  /-- An operation had no place on the right edge of a tree of operations. -/
  | edgeLost
  deriving DecidableEq, Repr

/-- Why a source cannot be read. -/
inductive Cause where
  | nonAscii
  | empty
  | literal
  | reservedWord
  | expectedArithmetic
  | expectedCondition
  | chainedComparison
  | unfinishedComment
  | unexpectedCharacter
  | unexpectedEnd
  | leftovers
  /-- None of the readings that are possible here fits. -/
  | unrecognized
  | defect (kind : Defect)
  deriving DecidableEq, Repr

namespace Cause

/-- Whether a fault with this cause is described together with the construct in
which it was met. -/
def namesConstruct : Cause → Bool
  | unexpectedCharacter => true
  | unexpectedEnd => true
  | unrecognized => true
  | _ => false

def text (construct : Option Construct) : Cause → String
  | nonAscii => "Non-ASCII inputs are not supported"
  | empty => "Formula contains no assignments"
  | literal => "Invalid number literal"
  | reservedWord => "Reserved word cannot be used as a name"
  | expectedArithmetic => "Expected arithmetic expression, got a condition"
  | expectedCondition => "Expected condition, got an arithmetic expression"
  | chainedComparison => "Chained comparisons are not allowed"
  | unfinishedComment => "Unfinished comment"
  | unexpectedCharacter =>
    match construct with
    | some construct => "Unexpected character in " ++ construct.text
    | none => "Unexpected character"
  | unexpectedEnd =>
    match construct with
    | some construct => "Unfinished " ++ construct.text
    | none => "Unfinished expression"
  | leftovers => "Uninterpreted characters after parsing"
  | unrecognized => "Cannot parse sequence"
  | defect _ => "Cannot parse sequence"

end Cause

/-- A fault met while a source is read. It covers the characters of `start` up
to those of `stop`, which are the characters left before and after it. -/
structure Fault where
  cause : Cause
  construct : Option Construct
  start : List Char
  stop : List Char
  deriving Repr

namespace Fault

/-- Notes the construct that began at `origin`. The innermost construct that
began before the fault is the one that is kept. -/
def within (construct : Construct) (origin : List Char) (fault : Fault) : Fault :=
  if fault.cause.namesConstruct && fault.construct.isNone &&
      decide (fault.start.length < origin.length) then
    { fault with construct := some construct }
  else fault

end Fault

/-- A number of 32 bits, where a natural number is due. -/
scoped instance instCoeUInt32Nat : Coe UInt32 Nat where
  coe := UInt32.toNat

/-- A stretch of a source. Offset and length count bytes from zero, line and
column from one. Lines are counted in 32 bits, so the count starts again behind
more newlines than these can tell apart. -/
structure Location where
  offset : Nat
  line : UInt32
  column : Nat
  length : Nat
  deriving DecidableEq, Repr

namespace Location

/-- The offset right after the stretch. -/
def stop (location : Location) : Nat :=
  location.offset + location.length

/-- The stretch of `length` bytes that follows `before`. -/
def after (before : List Char) (length : Nat) : Location where
  offset := before.length
  line := 1 + UInt32.ofNat (before.count '\n')
  column := 1 + (before.reverse.takeWhile (· != '\n')).length
  length := length

end Location

/-- A fault at its location in the source. -/
structure SourceError where
  cause : Cause
  construct : Option Construct
  location : Location
  deriving DecidableEq, Repr

namespace SourceError

/-- The wording without the location. -/
def text (error : SourceError) : String :=
  error.cause.text error.construct

def message (error : SourceError) : String :=
  toString error.location.line ++ ":" ++ toString error.location.column ++ ": " ++ error.text

/-- The error for a fault in a source. -/
def ofFault (source : List Char) (fault : Fault) : SourceError where
  cause := fault.cause
  construct := fault.construct
  location := .after (source.take (source.length - fault.start.length))
    (fault.start.length - fault.stop.length)

end SourceError

end RewardFormula
