import FilterQuery.Expr.Document
import FilterQuery.Main
import FilterQuery.Proofs.Calendar
import FilterQuery.Proofs.ClauseJson
import FilterQuery.Proofs.ClauseShape
import FilterQuery.Proofs.Digits
import FilterQuery.Proofs.DurationNormalForm
import FilterQuery.Proofs.DurationText
import FilterQuery.Proofs.Erasure
import FilterQuery.Proofs.ErrorCause
import FilterQuery.Proofs.ExprText
import FilterQuery.Proofs.FieldRecord
import FilterQuery.Proofs.Grammar
import FilterQuery.Proofs.JsonText
import FilterQuery.Proofs.JsonTokens
import FilterQuery.Proofs.Meaning
import FilterQuery.Proofs.MomentText
import FilterQuery.Proofs.OperandOrder
import FilterQuery.Proofs.Rounding
import FilterQuery.Proofs.SkipEffect
import FilterQuery.Proofs.DurationSum
import FilterQuery.Proofs.DurationGrammar
import FilterQuery.Proofs.Presentation
import FilterQuery.Proofs.RunOutcome
import FilterQuery.Proofs.DurationNotation
import FilterQuery.Proofs.FieldUsage
import FilterQuery.Proofs.JunctionOrder
import FilterQuery.Proofs.MemberPaths
import FilterQuery.Proofs.TestedFields
import FilterQuery.Proofs.Wrappers
import FilterQuery.Proofs.MomentMillis
import FilterQuery.Proofs.UsageSummary
import FilterQuery.Proofs.WalkAppends
import FilterQuery.Proofs.Layout
