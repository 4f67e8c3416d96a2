import ExactCalc.Draft
import ExactCalc.Expr.Printer
import ExactCalc.Fraction.Accumulator
import ExactCalc.Main
import ExactCalc.Service
import ExactCalc.Proofs.AccumulatorRuns
import ExactCalc.Proofs.ArgumentSpans
import ExactCalc.Proofs.CanonicalText
import ExactCalc.Proofs.Completeness
import ExactCalc.Proofs.DigitEstimate
import ExactCalc.Proofs.DivisionFree
import ExactCalc.Proofs.EnclosingLets
import ExactCalc.Proofs.ErrorPositions
import ExactCalc.Proofs.FaithfulDisplay
import ExactCalc.Proofs.FlawedDrafts
import ExactCalc.Proofs.FrontEnds
import ExactCalc.Proofs.GuardedCalculator
import ExactCalc.Proofs.LiteralRange
import ExactCalc.Proofs.Meaning
import ExactCalc.Proofs.NestingLimit
import ExactCalc.Proofs.Rearrangement
import ExactCalc.Proofs.RejectedPieces
import ExactCalc.Proofs.Renaming
import ExactCalc.Proofs.SizeBounds
import ExactCalc.Proofs.Soundness
import ExactCalc.Proofs.StaticScope
import ExactCalc.Proofs.StepSchedule
import ExactCalc.Proofs.Substitution
import ExactCalc.Proofs.SumDenominators
import ExactCalc.Proofs.Truncation
import ExactCalc.Proofs.WindowSlices
import ExactCalc.Proofs.GuardedConversion
