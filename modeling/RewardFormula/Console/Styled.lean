/-!
# Styled texts

What a console is shown: texts, and the colors in which they stand. Without
colors only the texts remain.
-/

namespace RewardFormula

/-- A way in which texts stand out. -/
inductive Style where
  | bold
  | boldRed
  | red
  | green
  | blue
  | cyan
  deriving DecidableEq, Repr

namespace Style

/-- The control sequence that ends all styles. -/
def reset : String := "\x1b[0m"

/-- The control sequence that begins a style. It ends the one before. -/
def start : Style → String
  | bold => reset ++ "\x1b[1m"
  | boldRed => reset ++ "\x1b[1m\x1b[38;5;9m"
  | red => reset ++ "\x1b[31m"
  | green => reset ++ "\x1b[32m"
  | blue => reset ++ "\x1b[34m"
  | cyan => reset ++ "\x1b[36m"

end Style

inductive StyledPiece where
  | text (text : String)
  | start (style : Style)
  | reset

/-- Texts and changes of style in order. -/
abbrev Styled := List StyledPiece

namespace Styled

def plain (text : String) : Styled := [.text text]

/-- A text in a style of its own. -/
def inStyle (style : Style) (text : String) : Styled :=
  [.start style, .text text, .reset]

def line (text : String) : Styled := [.text (text ++ "\n")]

/-- What is written to a console, with or without colors. -/
def render (colored : Bool) (pieces : Styled) : String :=
  String.join (pieces.map fun
    | .text text => text
    | .start style => if colored then style.start else ""
    | .reset => if colored then Style.reset else "")

end Styled

end RewardFormula
