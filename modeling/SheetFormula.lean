import SheetFormula.Formula.Grouping
import SheetFormula.Formula.Value
import SheetFormula.Listing
import SheetFormula.Main
import SheetFormula.Proofs.Acceptance
import SheetFormula.Proofs.Calls
import SheetFormula.Proofs.Conservation
import SheetFormula.Proofs.DecimalText
import SheetFormula.Proofs.DefaultArguments
import SheetFormula.Proofs.ErrorPropagation
import SheetFormula.Proofs.EvalCommand
import SheetFormula.Proofs.Execution
import SheetFormula.Proofs.FiniteNumbers
import SheetFormula.Proofs.Inlining
import SheetFormula.Proofs.IntegerFormula
import SheetFormula.Proofs.JsonNumbers
import SheetFormula.Proofs.JsonText
import SheetFormula.Proofs.Noninterference
import SheetFormula.Proofs.NumeralText
import SheetFormula.Proofs.ReadingBack
import SheetFormula.Proofs.RecordSpelling
import SheetFormula.Proofs.Regrouping
import SheetFormula.Proofs.Running
import SheetFormula.Proofs.ShortestDigits
import SheetFormula.Proofs.StackBalance
import SheetFormula.Proofs.StackEnd
import SheetFormula.Proofs.StackInvariant
import SheetFormula.Proofs.TokenSpelling
import SheetFormula.Proofs.ValueSafety
import SheetFormula.Proofs.IntegerDoubles
import SheetFormula.Proofs.NumberOrder
import SheetFormula.Proofs.Comparisons
import SheetFormula.Proofs.OperatorContract
import SheetFormula.Proofs.TextSearch
import SheetFormula.Proofs.ValueOrder
import SheetFormula.Proofs.Layout
import SheetFormula.Proofs.IntegerPower
import SheetFormula.Proofs.FoldedOrder
import SheetFormula.Proofs.TextAlgebra
import SheetFormula.Proofs.TextArguments
import SheetFormula.Proofs.SlotResolution
import SheetFormula.Proofs.ResultsAsInputs
import SheetFormula.Proofs.CapitalWords
import SheetFormula.Proofs.PendingOrder
import SheetFormula.Proofs.ByteOrder
import SheetFormula.Proofs.MapHistory
import SheetFormula.Proofs.TableHistory
