import RewardFormula.Proofs.Source.Pairing

/-!
# Layout carries no meaning

What a source derives, it derives with any other gap in the place of one of its gaps:
each token stands before the gap or behind it, and the layout between the tokens ends
behind the gap once it reaches it.
-/

namespace RewardFormula

namespace Grammar

variable {exchange : GapExchange} {source source' : List Char}

/-- Sources in which one gap stands in the place of the other. -/
def GapExchange.pairing (exchange : GapExchange) : Pairing where
  Moves := exchange.Moves
  tail notBlank noComment moved := moved.tail notBlank noComment
  endsBefore parts moved := moved.endsBefore fun _ blank =>
    isPart_eq_false parts (isNumeralPart_of_isBlank blank)
  isPrefix parts moved := moved.isPrefix fun c member => isSolid_of_isNumeralPart (parts c member)
  layout layout moved := moved.layout layout

theorem Spaced.moves_whole {α : Type} {rule : Rule α} {value : α}
    (ruleMoves : exchange.pairing.CarriesAll rule) (derived : Spaced rule source value [])
    (moved : exchange.Moves source source') : Spaced rule source' value [] := by
  obtain ⟨rest', derived', movedEnd⟩ := ruleMoves.spaced derived moved
  rw [GapExchange.Moves.of_end movedEnd] at derived'
  exact derived'

section Texts

variable {before gap gap' after : String}

theorem Derives.exchange_gap {α : Type} {rule : Rule α} {value : α}
    (ruleMoves : ∀ exchange : GapExchange, exchange.pairing.CarriesAll rule)
    (outside : EndsOutside before.toList) (isGap : IsGap gap.toList) (isGap' : IsGap gap'.toList)
    (derived : Derives rule (before ++ gap ++ after) value) :
    Derives rule (before ++ gap' ++ after) value := by
  let exchange : GapExchange := ⟨gap.toList, gap'.toList, after.toList, isGap, isGap'⟩
  have moved : exchange.Moves (before ++ gap ++ after).toList (before ++ gap' ++ after).toList := by
    simp only [String.toList_append, List.append_assoc]
    exact .of_outside outside
  exact derived.moves_whole (ruleMoves exchange) moved

/-- What a reader finds in a text, it finds with another gap in it. -/
theorem read_exchange_gap {ε α : Type} {rule : Rule α} {read : String → Except ε α}
    (reads : ∀ {text value}, read text = .ok value ↔ IsAscii text ∧ Derives rule text value)
    (ruleMoves : ∀ exchange : GapExchange, exchange.pairing.CarriesAll rule)
    (outside : EndsOutside before.toList) (isGap : IsGap gap.toList) (isGap' : IsGap gap'.toList)
    (ascii : IsAscii gap) (ascii' : IsAscii gap') (value : α) :
    read (before ++ gap ++ after) = .ok value ↔ read (before ++ gap' ++ after) = .ok value := by
  simp only [reads, isAscii_append, ascii, ascii', and_true]
  refine and_congr_right fun _ => ⟨?_, ?_⟩
  · exact Derives.exchange_gap ruleMoves outside isGap isGap'
  · exact Derives.exchange_gap ruleMoves outside isGap' isGap

end Texts

end Grammar

open Grammar

/-- A gap in a source may be exchanged for any other gap in ASCII, outside of comments.
The source is read as before, or still not read. -/
theorem parse_exchange_gap {before gap gap' after : String}
    (outside : EndsOutside before.toList) (isGap : IsGap gap.toList) (isGap' : IsGap gap'.toList)
    (ascii : IsAscii gap) (ascii' : IsAscii gap') :
    (∀ tree, parseFormula (before ++ gap ++ after) = .ok tree ↔
      parseFormula (before ++ gap' ++ after) = .ok tree) ∧
    (∀ tree, parseExpr (before ++ gap ++ after) = .ok tree ↔
      parseExpr (before ++ gap' ++ after) = .ok tree) ∧
    (∀ test, parseCondition (before ++ gap ++ after) = .ok test ↔
      parseCondition (before ++ gap' ++ after) = .ok test) := by
  refine ⟨?formulas, ?expressions, ?conditions⟩
  case formulas =>
    exact read_exchange_gap parseFormula_eq_ok_iff (fun _ => FormulaRule.moves) outside isGap isGap'
      ascii ascii'
  case expressions =>
    exact read_exchange_gap parseExpr_eq_ok_iff (fun _ => Expression.moves) outside isGap isGap'
      ascii ascii'
  case conditions =>
    exact read_exchange_gap parseCondition_eq_ok_iff (fun _ => Logical.moves) outside isGap isGap'
      ascii ascii'

/-- Comments behind the sign of a division, in place of a blank. -/
theorem parse_exchange_gap_division :
    (EndsOutside "x = y /".toList ∧ IsGap " ".toList ∧ IsGap "\n// of\n/* / */".toList ∧
      IsAscii " " ∧ IsAscii "\n// of\n/* / */") ∧
      parseFormula ("x = y /" ++ " " ++ "z") =
        .ok (.single "x" (.binary .div (.var "y") (.var "z"))) ∧
      parseFormula ("x = y /" ++ "\n// of\n/* / */" ++ "z") =
        .ok (.single "x" (.binary .div (.var "y") (.var "z"))) := by
  have outside : EndsOutside "x = y /".toList := by
    rfl
  have isBlank : IsGap " ".toList :=
    ⟨.blank rfl .nil, ' ', [], rfl, rfl⟩
  have letters : "\n// of\n/* / */".toList =
      '\n' :: '/' :: '/' :: ([' ', 'o', 'f'] ++
        '\n' :: '/' :: '*' :: ([' ', '/', ' '] ++ '*' :: '/' :: [])) := by
    rfl
  have isComments : IsGap "\n// of\n/* / */".toList := by
    rw [letters]
    exact ⟨.blank rfl (.line (by decide) (.block (by decide) .nil)), '\n', _, rfl, rfl⟩
  have ascii : IsAscii " " ∧ IsAscii "\n// of\n/* / */" := by
    decide
  have formula : parseFormula ("x = y /" ++ " " ++ "z") =
      .ok (.single "x" (.binary .div (.var "y") (.var "z"))) := by
    cbv
  exact ⟨⟨outside, isBlank, isComments, ascii⟩, formula,
    ((parse_exchange_gap outside isBlank isComments ascii.1 ascii.2).1 _).1 formula⟩

/-- Comments outside ASCII are not read as layout: no source with one is read. -/
theorem not_parse_exchange_any_gap :
    ¬ ∀ before gap gap' after : String, IsAscii before → IsAscii after →
      EndsOutside before.toList → IsGap gap.toList → IsGap gap'.toList →
      (∀ tree, parseFormula (before ++ gap ++ after) = .ok tree ↔
        parseFormula (before ++ gap' ++ after) = .ok tree) ∧
      (∀ tree, parseExpr (before ++ gap ++ after) = .ok tree ↔
        parseExpr (before ++ gap' ++ after) = .ok tree) ∧
      (∀ test, parseCondition (before ++ gap ++ after) = .ok test ↔
        parseCondition (before ++ gap' ++ after) = .ok test) := by
  intro law
  have outside : EndsOutside "x = y".toList := by
    rfl
  have isBlank : IsGap " ".toList :=
    ⟨.blank rfl .nil, ' ', [], rfl, rfl⟩
  have letters : " /* é */".toList =
      ' ' :: '/' :: '*' :: ([' ', 'é', ' '] ++ '*' :: '/' :: []) := by
    rfl
  have isComment : IsGap " /* é */".toList := by
    rw [letters]
    exact ⟨.blank rfl (.block (by decide) .nil), ' ', _, rfl, rfl⟩
  have formula : parseFormula ("x = y" ++ " " ++ "") = .ok (.single "x" (.var "y")) := by
    cbv
  have same := (law "x = y" " " " /* é */" "" (by decide) (by decide) outside isBlank isComment).1
  have accented := (parseFormula_eq_ok_iff.1 ((same _).1 formula)).1
  revert accented
  decide

end RewardFormula
