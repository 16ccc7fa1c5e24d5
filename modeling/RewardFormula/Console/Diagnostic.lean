import RewardFormula.Console.Styled
import RewardFormula.Evaluation.Error
import RewardFormula.Source
import RewardFormula.Text.Width

/-!
# Diagnostics

An error is shown with the line of the source that it concerns, and a row of
marks below the characters that are meant.
-/

namespace RewardFormula

/-- How the characters that are meant are marked. A primary mark also colors
them. -/
inductive Emphasis where
  | primary
  | secondary
  deriving DecidableEq, Repr

namespace Emphasis

def mark : Emphasis → Char
  | primary => '^'
  | secondary => '-'

def style : Emphasis → Style
  | primary => .red
  | secondary => .blue

end Emphasis

/-- An error and the stretch of the source, in bytes, to which it points. -/
structure Diagnostic where
  code : String
  message : String
  emphasis : Emphasis
  label : String
  start : Nat
  stop : Nat
  note? : Option String

namespace Diagnostic

/-- How many bytes a text takes. -/
def byteSize (text : List Char) : Nat :=
  text.foldl (fun size c => size + c.utf8Size) 0

/-- The line in which an offset lies. -/
structure SourceLine where
  number : Nat
  /-- The offset of its first character. -/
  offset : Nat
  text : List Char

/-- The line that contains the byte at `offset`, or else the last line. The
lines before it are counted by `number` and their bytes by `passed`. -/
def lineFrom (offset : Nat) (number passed : Nat) : List Char → List Char → SourceLine
  | current, [] => ⟨number, passed, current.reverse⟩
  | current, c :: rest =>
    if c = '\n' then
      let next := passed + byteSize current + 1
      if next ≤ offset then lineFrom offset (number + 1) next [] rest
      else ⟨number, passed, current.reverse⟩
    else lineFrom offset number passed (c :: current) rest

def lineAt (source : List Char) (offset : Nat) : SourceLine :=
  lineFrom offset 1 0 [] source

/-- Characters at the end of a line that are not shown. -/
def isLineEnd (c : Char) : Bool :=
  c == '\n' || c == '\r' || c == '\x00'

/-- A character of a line, its first byte, and how many columns it takes. A
tabulator reaches to the next multiple of four columns. -/
structure Cell where
  char : Char
  byte : Nat
  width : Nat

def cellsFrom (byte column : Nat) : List Char → List Cell
  | [] => []
  | c :: rest =>
    let width := if c = '\t' then 4 - column % 4 else columns c
    ⟨c, byte, width⟩ :: cellsFrom (byte + c.utf8Size) (column + width) rest

def blanks (count : Nat) : String :=
  String.ofList (List.replicate count ' ')

/-- A character as it is shown. -/
def Cell.text (cell : Cell) : String :=
  if cell.char = '\t' then blanks cell.width else cell.char.toString

/-- Whether a character reaches into a stretch of bytes. -/
def Cell.isIn (cell : Cell) (start stop : Nat) : Bool :=
  decide (max cell.byte start < min (cell.byte + cell.char.utf8Size) stop)

/-- The column, in characters, at which a stretch begins. -/
def columnOf (cells : List Cell) (start : Nat) : Nat :=
  1 + (cells.takeWhile (·.byte < start)).length

section Layout

variable (diagnostic : Diagnostic)

def header : Styled :=
  [.start .boldRed, .text ("error[" ++ diagnostic.code ++ "]"),
    .start .bold, .text (": " ++ diagnostic.message), .reset, .text "\n"]

/-- The border to the left of the source. -/
def border (gutter : Nat) : Styled :=
  .text (blanks (gutter + 1)) :: Styled.inStyle .blue "│"

/-- The line of the source. Characters under a primary mark are colored. -/
def sourceText (cells : List Cell) (start stop : Nat) : Styled :=
  let shown (cells : List Cell) : String := String.join (cells.map Cell.text)
  match diagnostic.emphasis with
  | .secondary => .plain (shown cells)
  | .primary =>
    let before := cells.takeWhile (!·.isIn start stop)
    let rest := cells.dropWhile (!·.isIn start stop)
    let marked := rest.takeWhile (·.isIn start stop)
    let after := rest.dropWhile (·.isIn start stop)
    .plain (shown before) ++
      (if marked.isEmpty then [] else Styled.inStyle .red (shown marked)) ++
      .plain (shown after)

/-- The row of marks. It is indented as far as the source is wide up to the
first marked character. -/
def marks (cells : List Cell) (start stop : Nat) : Styled :=
  let width (cells : List Cell) : Nat := cells.foldl (fun sum cell => sum + cell.width) 0
  let marked := (cells.filter (·.isIn start stop))
  let row := String.ofList (List.replicate (width marked) diagnostic.emphasis.mark)
  .text (blanks (width (cells.takeWhile fun cell => !cell.isIn start stop && cell.byte < stop))) ::
    if marked.isEmpty then [] else Styled.inStyle diagnostic.emphasis.style row

def note (gutter : Nat) : Styled :=
  match diagnostic.note? with
  | none => []
  | some text =>
    border gutter ++ [.text "\n", .text (blanks (gutter + 1))] ++
      Styled.inStyle .blue "=" ++ [.text (" " ++ text ++ "\n")]

/-- The whole of a diagnostic for a source that is known by a name. An empty
stretch is marked by one character, which may stand right after the line. -/
def layOut (sourceName : String) (source : List Char) : Styled :=
  let line := lineAt source diagnostic.start
  let text := (line.text.reverse.dropWhile isLineEnd).reverse
  let start := diagnostic.start - line.offset
  let stop := max (diagnostic.stop - line.offset) (start + 1)
  let cells := cellsFrom 0 0 text
  let gutter := (Nat.toDigits 10 line.number).length
  let column := columnOf (cellsFrom 0 0 line.text) start
  let locus := sourceName ++ ":" ++ toString line.number ++ ":" ++ toString column
  diagnostic.header ++
    [.text (blanks (gutter + 1))] ++ Styled.inStyle .blue "┌─" ++ [.text (" " ++ locus ++ "\n")] ++
    border gutter ++ [.text "\n"] ++
    Styled.inStyle .blue (toString line.number) ++ [.text " "] ++ Styled.inStyle .blue "│" ++
    [.text " "] ++ diagnostic.sourceText cells start stop ++ [.text "\n"] ++
    border gutter ++ [.text " "] ++
    diagnostic.marks (cells ++ [⟨'\x00', byteSize text, 1⟩]) start stop ++ [.text " "] ++
    Styled.inStyle diagnostic.emphasis.style diagnostic.label ++ [.text "\n"] ++
    diagnostic.note gutter ++ [.text "\n"]

end Layout

/-- A source that cannot be read. -/
def ofSourceError (error : SourceError) : Diagnostic where
  code := "PARSE"
  message := error.text
  emphasis := .primary
  label :=
    match error.cause with
    | .unexpectedEnd => "Input ends here"
    | .empty => "Input ends here"
    | _ => "Error occurred here"
  start := error.location.offset
  stop := error.location.stop
  note? := none

/-- A formula that has no value. All of its source is meant. -/
def ofEvalError (source : List Char) (error : EvalError) : Diagnostic where
  code := "EVAL"
  message := error.message
  emphasis := .secondary
  label := "Error occurred evaluating this"
  start := 0
  stop := byteSize (trimEnd source)
  note? := error.help?

/-- A command that cannot be followed. -/
def ofCommandError (source : List Char) (message : String) : Diagnostic where
  code := "CMD"
  message := message
  emphasis := .primary
  label := "Use `:help` to find out commands"
  start := 0
  stop := byteSize (trimEnd source)
  note? := none

end Diagnostic

end RewardFormula
