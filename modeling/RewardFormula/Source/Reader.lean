import RewardFormula.Source.Fault

/-!
# Readers

A reader takes characters from the front of a source. It succeeds with a value
and the characters that are left, or is refused, so that another reading may be
tried in its place, or breaks off the reading of the whole source.
-/

namespace RewardFormula

/-- The outcome of a reader. -/
inductive Reply (α : Type) where
  | read (value : α) (rest : List Char)
  | refused (fault : Fault)
  | broken (fault : Fault)
  deriving Repr

/-- A rule that reads a value from the front of the characters that are left. -/
def Reader (α : Type) : Type :=
  List Char → Reply α

/-- A value together with the characters left before and after it. -/
structure Spanned (α : Type) where
  value : α
  start : List Char
  stop : List Char

namespace Spanned

/-- A fault that covers the characters of the value. -/
def fault (spanned : Spanned α) (cause : Cause) : Fault :=
  ⟨cause, none, spanned.start, spanned.stop⟩

end Spanned

namespace Reader

def bind (first : Reader α) (next : α → Reader β) : Reader β := fun source =>
  match first source with
  | .read value rest => next value rest
  | .refused fault => .refused fault
  | .broken fault => .broken fault

instance : Monad Reader where
  pure value := fun source => .read value source
  bind := bind

/-- The first reading, or the second if the first is refused. The fault of the
second replaces that of the first. -/
def orElse (first second : Reader α) : Reader α := fun source =>
  match first source with
  | .refused _ => second source
  | reply => reply

instance : OrElse (Reader α) where
  orElse first second := first.orElse (second ())

/-- Refuses all of the characters that are left. -/
def refuse (cause : Cause) : Reader α := fun source =>
  .refused ⟨cause, none, source, []⟩

/-- Passes a value on, or breaks off. -/
def demand (value : Except Fault α) : Reader α := fun source =>
  match value with
  | .ok value => .read value source
  | .error fault => .broken fault

/-- Once a committed reader is reached, no other reading may take its place. -/
def committed (reader : Reader α) : Reader α := fun source =>
  match reader source with
  | .refused fault => .broken fault
  | reply => reply

/-- A reading that may be left out. -/
def optional (reader : Reader α) : Reader (Option α) := fun source =>
  match reader source with
  | .read value rest => .read (some value) rest
  | .refused _ => .read none source
  | .broken fault => .broken fault

/-- Notes the construct in the faults that are met in it. -/
def within (construct : Construct) (reader : Reader α) : Reader α := fun source =>
  match reader source with
  | .refused fault => .refused (fault.within construct source)
  | .broken fault => .broken (fault.within construct source)
  | reply => reply

/-- Keeps the characters on both sides of what is read. -/
def spanned (reader : Reader α) : Reader (Spanned α) := fun source =>
  match reader source with
  | .read value rest => .read ⟨value, source, rest⟩ rest
  | .refused fault => .refused fault
  | .broken fault => .broken fault

/-- Up to `budget` items. An item that takes no character would be repeated for
ever and is refused. -/
def manyWithin (item : Reader α) : Nat → Reader (List α)
  | 0 => pure []
  | budget + 1 => fun source =>
    match item source with
    | .refused _ => .read [] source
    | .broken fault => .broken fault
    | .read value rest =>
      if rest.length < source.length then
        match manyWithin item budget rest with
        | .read values rest => .read (value :: values) rest
        | .refused fault => .refused fault
        | .broken fault => .broken fault
      else .refused ⟨.defect .stalled, none, source, []⟩

/-- All the items in a row. There are at most as many as characters. -/
def many (item : Reader α) : Reader (List α) := fun source =>
  manyWithin item (source.length + 1) source

/-- One item or more, with separators between them. -/
def separated (separator : Reader β) (item : Reader α) : Reader (List α) := do
  let first ← item
  let rest ← many (do let _ ← separator; item)
  return first :: rest

/-- Any number of items, with separators between them. -/
def separatedOrNone (separator : Reader β) (item : Reader α) : Reader (List α) :=
  separated separator item <|> pure []

/-- One given character. -/
def character (expected : Char) : Reader Unit := fun source =>
  match source with
  | [] => .refused ⟨.unexpectedEnd, none, [], []⟩
  | actual :: rest =>
    if actual = expected then .read () rest
    else .refused ⟨.unexpectedCharacter, none, source, rest⟩

/-- What is left of the characters after a word at their front. -/
def afterWord? : List Char → List Char → Option (List Char)
  | [], source => some source
  | expected :: word, actual :: rest =>
    if actual = expected then afterWord? word rest else none
  | _ :: _, [] => none

/-- A given word, whatever follows it. -/
def word (expected : String) : Reader Unit := fun source =>
  match afterWord? expected.toList source with
  | some rest => .read () rest
  | none => refuse .unrecognized source

/-- Refuses if the next character is of a class; takes none. -/
def notFollowedBy (isExcluded : Char → Bool) : Reader Unit := fun source =>
  match source with
  | next :: _ => if isExcluded next then refuse .unrecognized source else .read () source
  | [] => .read () source

end Reader

end RewardFormula
