import RewardFormula.Arena.PlayerSpec

/-!
# Options of the command line

A command shows the structure of a formula, or evaluates formulas. Its options
may stand before and after the formula; those with a value take it after an
equals sign or from the next word. What cannot be understood is refused as a
whole.
-/

namespace RewardFormula

/-- Whether output is colored. If it is left to the program, output is not
colored, since it is not known to reach a terminal. -/
inductive Coloring where
  | auto
  | always
  | never
  deriving DecidableEq, Repr

/-- How formulas are evaluated. -/
structure EvalOptions where
  interactive : Bool
  arena? : Option String
  players : List PlayerSpec
  jackpot? : Option Float
  acting? : Option String
  integerDefault? : Option Int32
  coloring? : Option Coloring
  formula? : Option String

namespace EvalOptions

def initial : EvalOptions := ⟨false, none, [], none, none, none, none, none⟩

end EvalOptions

/-- What is to be done. -/
inductive Request where
  | ast (formula? : Option String)
  | eval (options : EvalOptions)
  | version

/-- The form of a word. -/
inductive Word where
  /-- `--name` or `--name=value`. -/
  | long (name : String) (value? : Option String)
  /-- `-letters`. -/
  | short (letters : List Char)
  /-- `--`, after which no word is an option. -/
  | endOfOptions
  | bare (text : String)
  deriving DecidableEq, Repr

namespace Word

def ofString (text : String) : Word :=
  match text.toList with
  | ['-', '-'] => endOfOptions
  | '-' :: '-' :: name =>
    match PlayerSpec.splitFirst? '=' name with
    | some (name, value) => long (String.ofList name) (some (String.ofList value))
    | none => long (String.ofList name) none
  | '-' :: first :: rest => short (first :: rest)
  | _ => bare text

/-- Whether the letters after a dash write a number. -/
def isNumber (letters : List Char) : Bool :=
  match Decimal.scan letters with
  | some (_, []) => true
  | _ => false

/-- Whether a word can be the value of the option before it. Negative numbers
can be if the option allows them. -/
def isValue (allowNegative : Bool) : Word → Bool
  | bare _ => true
  | short letters => allowNegative && isNumber letters
  | _ => false

end Word

namespace EvalOptions

/-- Sets an option that may be given once. -/
def once (current : Option α) (value : Option α) : Option (Option α) :=
  if current.isSome || value.isNone then none else some value

/-- The options with the one of a name set to a value. -/
def set? (options : EvalOptions) (name value : String) : Option EvalOptions :=
  match name with
  | "arena" => (once options.arena? (some value)).map ({ options with arena? := · })
  | "player" =>
    (PlayerSpec.parse value).toOption.map fun player =>
      { options with players := options.players ++ [player] }
  | "jackpot" =>
    (once options.jackpot? (readFloat value).toOption).map ({ options with jackpot? := · })
  | "as" => (once options.acting? (some value)).map ({ options with acting? := · })
  | "int" =>
    (once options.integerDefault? (readInt32 value).toOption).map
      ({ options with integerDefault? := · })
  | "color" =>
    let coloring? : Option Coloring :=
      match value with
      | "auto" => some .auto
      | "always" => some .always
      | "never" => some .never
      | _ => none
    (once options.coloring? coloring?).map ({ options with coloring? := · })
  | _ => none

def setInteractive? (options : EvalOptions) : Option EvalOptions :=
  if options.interactive then none else some { options with interactive := true }

def setFormula? (options : EvalOptions) (text : String) : Option EvalOptions :=
  (once options.formula? (some text)).map ({ options with formula? := · })

/-- Adds words to the options that are known so far. -/
def readWords? (options : EvalOptions) : List String → Option EvalOptions
  | [] => some options
  | word :: rest =>
    match Word.ofString word with
    | .endOfOptions => rest.foldlM setFormula? options
    | .bare text => options.setFormula? text >>= (readWords? · rest)
    | .short ['i'] => options.setInteractive? >>= (readWords? · rest)
    | .short _ => none
    | .long "interactive" none => options.setInteractive? >>= (readWords? · rest)
    | .long name (some value) => options.set? name value >>= (readWords? · rest)
    | .long name none =>
      match rest with
      | [] => none
      | value :: rest =>
        if (Word.ofString value).isValue (name == "int") then
          options.set? name value >>= (readWords? · rest)
        else none

/-- Interactive sessions take no formula. -/
def isConsistent (options : EvalOptions) : Bool :=
  !(options.interactive && options.formula?.isSome)

end EvalOptions

namespace Request

/-- The words of a command that has no options. -/
def readFormula? (formula? : Option String) : List String → Option (Option String)
  | [] => some formula?
  | word :: rest =>
    match Word.ofString word with
    | .endOfOptions =>
      rest.foldlM (fun formula? text => EvalOptions.once formula? (some text)) formula?
    | .bare text => EvalOptions.once formula? (some text) >>= (readFormula? · rest)
    | _ => none

/-- Reads a command line. There is no request if it cannot be understood. The
question for the version is answered before what follows it is looked at, also
in the same word. -/
def ofWords? : List String → Option Request
  | [] => none
  | word :: words =>
    match Word.ofString word with
    | .long "version" none => some version
    | .short ('V' :: _) => some version
    | .bare "ast" => (readFormula? none words).map ast
    | .bare "eval" =>
      match EvalOptions.initial.readWords? words with
      | some options => if options.isConsistent then some (eval options) else none
      | none => none
    | _ => none

end Request

end RewardFormula
