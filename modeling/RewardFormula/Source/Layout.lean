import RewardFormula.Source.Reader

/-!
# Layout

Blanks and comments may stand between any two tokens and mean nothing.
-/

namespace RewardFormula

namespace Reader

/-- The five blank characters of ASCII. -/
def isBlank (c : Char) : Bool :=
  c == ' ' || c == '\t' || c == '\n' || c == '\x0c' || c == '\r'

/-- One blank or more. -/
def blanks : Reader Unit := fun source =>
  match source with
  | first :: rest =>
    if isBlank first then .read () (rest.dropWhile isBlank) else refuse .unrecognized source
  | [] => refuse .unrecognized source

/-- A comment up to the end of the line, which is not part of it. -/
def lineComment : Reader Unit := fun source =>
  match source with
  | '/' :: '/' :: rest => .read () (rest.dropWhile (· != '\n'))
  | _ => refuse .unrecognized source

/-- What is left after the end of a block comment. -/
def afterBlock? : List Char → Option (List Char)
  | [] => none
  | '*' :: '/' :: rest => some rest
  | _ :: rest => afterBlock? rest

/-- A comment between its two marks. An open one cannot be anything else. -/
def blockComment : Reader Unit := fun source =>
  match source with
  | '/' :: '*' :: rest =>
    match afterBlock? rest with
    | some rest => .read () rest
    | none => .broken ⟨.unfinishedComment, none, rest, []⟩
  | _ => refuse .unrecognized source

/-- The smallest piece of layout. -/
def layoutUnit : Reader Unit :=
  blanks <|> lineComment <|> blockComment

/-- All the layout in front of the next token. -/
def layout : Reader Unit := do
  let _ ← many layoutUnit

/-- A reading with layout on both sides. -/
def spaced (reader : Reader α) : Reader α := do
  layout
  let value ← reader
  layout
  return value

end Reader

end RewardFormula
