import RewardFormula.Main
import RewardFormula.Proofs.Arena.PlayerSpecs
import RewardFormula.Proofs.Arena.Population
import RewardFormula.Proofs.Console.Isolation
import RewardFormula.Proofs.Console.Transcript
import RewardFormula.Proofs.Evaluation.Agreement
import RewardFormula.Proofs.Evaluation.Cleanup
import RewardFormula.Proofs.Evaluation.Context
import RewardFormula.Proofs.Evaluation.Coupling
import RewardFormula.Proofs.Evaluation.Faults
import RewardFormula.Proofs.Evaluation.FirstError
import RewardFormula.Proofs.Evaluation.Frame
import RewardFormula.Proofs.Evaluation.Laws
import RewardFormula.Proofs.Evaluation.Loops
import RewardFormula.Proofs.Evaluation.Renaming
import RewardFormula.Proofs.Evaluation.Sequence
import RewardFormula.Proofs.Evaluation.Strict
import RewardFormula.Proofs.Formula.Climbing
import RewardFormula.Proofs.Formula.Grouping
import RewardFormula.Proofs.Formula.NamedInfinities
import RewardFormula.Proofs.Formula.Names
import RewardFormula.Proofs.Formula.Parentheses
import RewardFormula.Proofs.Formula.Reread
import RewardFormula.Proofs.Formula.RoundTrip
import RewardFormula.Proofs.Formula.WellFormed
import RewardFormula.Proofs.Formula.Writable
import RewardFormula.Proofs.Game.Registrations
import RewardFormula.Proofs.Game.Rosters
import RewardFormula.Proofs.Number.Arithmetic
import RewardFormula.Proofs.Number.Bits
import RewardFormula.Proofs.Number.CentredRemainder
import RewardFormula.Proofs.Number.Counting
import RewardFormula.Proofs.Number.IntegerConversion
import RewardFormula.Proofs.Number.NearestIntegers
import RewardFormula.Proofs.Number.NumberReading
import RewardFormula.Proofs.Number.Printed
import RewardFormula.Proofs.Number.RoundedQuotients
import RewardFormula.Proofs.Number.Rounding
import RewardFormula.Proofs.Number.Shortest
import RewardFormula.Proofs.Number.TruncatedRemainder
import RewardFormula.Proofs.Number.Unpacked
import RewardFormula.Proofs.Number.Values
import RewardFormula.Proofs.Source.Advance
import RewardFormula.Proofs.Source.Completeness
import RewardFormula.Proofs.Source.Continuation
import RewardFormula.Proofs.Source.Delimitation
import RewardFormula.Proofs.Source.Derivation
import RewardFormula.Proofs.Source.Faults
import RewardFormula.Proofs.Source.Following
import RewardFormula.Proofs.Source.Gaps
import RewardFormula.Proofs.Source.Kinds
import RewardFormula.Proofs.Source.LayoutExchange
import RewardFormula.Proofs.Source.LayoutReading
import RewardFormula.Proofs.Source.Lexemes
import RewardFormula.Proofs.Source.Locations
import RewardFormula.Proofs.Source.Nesting
import RewardFormula.Proofs.Source.NumeralReading
import RewardFormula.Proofs.Source.Parsing
import RewardFormula.Proofs.Source.Progress
import RewardFormula.Proofs.Source.Reading
import RewardFormula.Proofs.Source.Soundness
import RewardFormula.Proofs.Source.Spelling
import RewardFormula.Proofs.Source.TokenReading
