import RewardFormula.Number.Decimal
import RewardFormula.Operator
import RewardFormula.Source.Layout

/-!
# Tokens

Names, keywords, numerals, and the signs of operators.
-/

namespace RewardFormula

namespace Name

/-- The letters of ASCII, the underscore and the dollar sign. -/
def isStart (c : Char) : Bool :=
  c.isAlpha || c == '_' || c == '$'

def isPart (c : Char) : Bool :=
  c.isAlphanum || c == '_'

/-- Words that cannot be used as names. -/
def reserved : List String :=
  ["for", "return", "true", "false", "TRUE", "FALSE", "and", "AND", "or", "OR"]

/-- Whether a text can name a variable, a property or a function. -/
def isValid (name : String) : Bool :=
  match name.toList with
  | [] => false
  | first :: rest => isStart first && rest.all isPart && !reserved.contains name

end Name

namespace Reader

/-- The longest name at the front, unless it is reserved. -/
def name : Reader String := fun source =>
  match source with
  | first :: rest =>
    if Name.isStart first then
      let word := String.ofList (first :: rest.takeWhile Name.isPart)
      let rest := rest.dropWhile Name.isPart
      if Name.reserved.contains word then .refused ⟨.reservedWord, none, source, rest⟩
      else .read word rest
    else refuse .unrecognized source
  | [] => refuse .unrecognized source

/-- A reserved word that does not go on as a longer name. -/
def keyword (expected : String) : Reader Unit := do
  word expected
  notFollowedBy Name.isPart

/-- An unsigned numeral. It may not run into a name. -/
def number : Reader Float := fun source =>
  match source with
  | first :: afterFirst =>
    if first.isDigit || first == '.' then
      match Decimal.scan source with
      | none => .broken ⟨.literal, none, source, afterFirst⟩
      | some (decimal, []) => .read (decimal.toFloat false) []
      | some (decimal, next :: rest) =>
        if Name.isStart next then .broken ⟨.literal, none, source, rest⟩
        else .read (decimal.toFloat false) (next :: rest)
    else refuse .unrecognized source
  | [] => refuse .unrecognized source

def boolean : Reader Bool :=
  (do keyword "true"; return true) <|> (do keyword "TRUE"; return true) <|>
    (do keyword "false"; return false) <|> (do keyword "FALSE"; return false)

/-- The sign of assignments, which does not begin the sign of equality. -/
def assignSign : Reader Unit := do
  character '='
  notFollowedBy (· == '=')

def comma : Reader Unit :=
  spaced (character ',')

def semicolon : Reader Unit :=
  spaced (character ';')

def binaryOp : Reader BinaryOp :=
  (do character '+'; return .add) <|> (do character '-'; return .sub) <|>
    (do character '*'; return .mul) <|> (do character '/'; return .div) <|>
    (do character '^'; return .power)

/-- The longer signs are tried before the signs that they begin with. -/
def comparison : Reader Comparison :=
  (do word "<="; return .lessOrEqual) <|> (do word ">="; return .greaterOrEqual) <|>
    (do word "=="; return .equal) <|> (do word "!="; return .notEqual) <|>
    (do word "<"; return .less) <|> (do word ">"; return .greater)

def logicalOp : Reader LogicalOp :=
  (do word "&&"; return .and) <|> (do keyword "and"; return .and) <|>
    (do keyword "AND"; return .and) <|> (do word "||"; return .or) <|>
    (do keyword "or"; return .or) <|> (do keyword "OR"; return .or)

end Reader

end RewardFormula
