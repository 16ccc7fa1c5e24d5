/-!
# Outlines

The structure of a value as it is shown in a dump, on one line or with every
part on a line of its own.
-/

namespace RewardFormula

/-- A value with its parts. -/
inductive Outline where
  /-- A value without parts. -/
  | leaf (text : String)
  /-- A value with parts in order. -/
  | tuple (name : String) (parts : List Outline)
  /-- A value with labelled parts. -/
  | record (name : String) (parts : List Outline)
  | labelled (label : String) (part : Outline)
  | list (parts : List Outline)

namespace Outline

mutual

/-- The outline on one line. -/
def inline : Outline → String
  | leaf text => text
  | tuple name parts => name ++ "(" ++ String.intercalate ", " (inlineAll parts) ++ ")"
  | record name parts => name ++ " \x7b " ++ String.intercalate ", " (inlineAll parts) ++ " \x7d"
  | labelled label part => label ++ ": " ++ part.inline
  | list parts => "[" ++ String.intercalate ", " (inlineAll parts) ++ "]"

def inlineAll : List Outline → List String
  | [] => []
  | first :: rest => first.inline :: inlineAll rest

end

mutual

/-- The outline over several lines, four blanks deeper for each level. Lines
after the first begin with the indent. -/
def spread (indent : String) : Outline → String
  | leaf text => text
  | tuple name parts =>
    name ++ "(\n" ++ spreadAll (indent ++ "    ") parts ++ indent ++ ")"
  | record name parts =>
    name ++ " \x7b\n" ++ spreadAll (indent ++ "    ") parts ++ indent ++ "\x7d"
  | labelled label part => label ++ ": " ++ part.spread indent
  | list [] => "[]"
  | list (first :: rest) =>
    "[\n" ++ (indent ++ "    ") ++ first.spread (indent ++ "    ") ++ ",\n" ++
      spreadAll (indent ++ "    ") rest ++ indent ++ "]"

/-- Parts on lines of their own, each closed by a comma. -/
def spreadAll (indent : String) : List Outline → String
  | [] => ""
  | first :: rest => indent ++ first.spread indent ++ ",\n" ++ spreadAll indent rest

end

end Outline

end RewardFormula
