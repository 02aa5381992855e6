import DateTemplate.Host.Memory
import DateTemplate.Main
import DateTemplate.Proofs.Expr.Grammar
import DateTemplate.Proofs.Template.Rerender
import DateTemplate.Proofs.Expr.RoundTrip
import DateTemplate.Proofs.Template.Braced
import DateTemplate.Proofs.Template.Split
import DateTemplate.Proofs.Number.Rounding
import DateTemplate.Proofs.Number.ReadBack
import DateTemplate.Proofs.Calendar.ReadBack
import DateTemplate.Proofs.Value.NormalForm
import DateTemplate.Proofs.Template.Append
import DateTemplate.Proofs.Template.Lines
import DateTemplate.Proofs.Expr.Chain
import DateTemplate.Proofs.Template.OneToken
import DateTemplate.Proofs.Template.References
import DateTemplate.Proofs.Calendar.Succession
import DateTemplate.Proofs.Calendar.Timestamp
import DateTemplate.Proofs.Template.ErrorPlace
import DateTemplate.Proofs.Program.Sources
import DateTemplate.Proofs.Calendar.PlainDate
import DateTemplate.Proofs.Expr.Outcome
import DateTemplate.Proofs.Calendar.Months
import DateTemplate.Proofs.Expr.MonthChain
import DateTemplate.Proofs.Calendar.Days
import DateTemplate.Proofs.Expr.Order
import DateTemplate.Proofs.Expr.DayChain
import DateTemplate.Proofs.Expr.Munch
import DateTemplate.Proofs.Expr.Stages
import DateTemplate.Proofs.Expr.Earliest
import DateTemplate.Proofs.Expr.Spacing
import DateTemplate.Proofs.Expr.Limited
import DateTemplate.Proofs.Calendar.Documented
import DateTemplate.Proofs.Value.Integers
import DateTemplate.Proofs.Expr.Nesting
import DateTemplate.Proofs.Expr.Amount
import DateTemplate.Proofs.Host.Answers
import DateTemplate.Proofs.Settings.Accepted
import DateTemplate.Proofs.Host.Memory
import DateTemplate.Proofs.Text.JsonReading
import DateTemplate.Proofs.Template.Messages
import DateTemplate.Proofs.Program.Rendering
import DateTemplate.Proofs.Expr.TokenCursor
import DateTemplate.Proofs.Expr.Following
import DateTemplate.Proofs.Expr.InBounds
import DateTemplate.Proofs.Calendar.Attempts
