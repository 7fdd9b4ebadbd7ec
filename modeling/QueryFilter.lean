import QueryFilter.Argument.Basic
import QueryFilter.Argument.Display
import QueryFilter.Argument.Field
import QueryFilter.Argument.Key
import QueryFilter.Argument.Options
import QueryFilter.Clause.Basic
import QueryFilter.Clause.OfTokens
import QueryFilter.Fault
import QueryFilter.Filter.Basic
import QueryFilter.Filter.OfText
import QueryFilter.Filter.Session
import QueryFilter.Filter.Trace
import QueryFilter.Literal
import QueryFilter.Number.Amount
import QueryFilter.Number.Binary64
import QueryFilter.Number.Decimal
import QueryFilter.Number.Entry
import QueryFilter.Number.Integer
import QueryFilter.Number.Layout
import QueryFilter.Number.Numeral
import QueryFilter.Number.Shortest
import QueryFilter.Operator
import QueryFilter.Policy
import QueryFilter.Proofs.Argument.Plain
import QueryFilter.Proofs.Clause.AnyOptions
import QueryFilter.Proofs.Clause.Blame
import QueryFilter.Proofs.Clause.Item
import QueryFilter.Proofs.Clause.Settled
import QueryFilter.Proofs.Clause.TextList
import QueryFilter.Proofs.Filter.Build
import QueryFilter.Proofs.Filter.Culprit
import QueryFilter.Proofs.Filter.Decomposition
import QueryFilter.Proofs.Filter.Failure
import QueryFilter.Proofs.Filter.History
import QueryFilter.Proofs.Filter.InStep
import QueryFilter.Proofs.Filter.Memory
import QueryFilter.Proofs.Filter.Normal
import QueryFilter.Proofs.Filter.Policies
import QueryFilter.Proofs.Filter.Refinement
import QueryFilter.Proofs.Filter.Renaming
import QueryFilter.Proofs.Filter.Replay
import QueryFilter.Proofs.Filter.Respaced
import QueryFilter.Proofs.Filter.Spelling
import QueryFilter.Proofs.Filter.Viable
import QueryFilter.Proofs.Literal.Integers
import QueryFilter.Proofs.Literal.Precision
import QueryFilter.Proofs.Literal.ReadWrite
import QueryFilter.Proofs.Literal.Restore
import QueryFilter.Proofs.Number.Around
import QueryFilter.Proofs.Number.Digits
import QueryFilter.Proofs.Number.LayoutValue
import QueryFilter.Proofs.Number.Preferred
import QueryFilter.Proofs.Number.ReadBack
import QueryFilter.Proofs.Number.Rounding
import QueryFilter.Proofs.Text.FixedWidth
import QueryFilter.Proofs.Time.Calendar
import QueryFilter.Proofs.Time.DayOrder
import QueryFilter.Proofs.Time.TimeOrder
import QueryFilter.Proofs.Token.Ahead
import QueryFilter.Proofs.Token.Body
import QueryFilter.Proofs.Token.Call
import QueryFilter.Proofs.Token.CallParts
import QueryFilter.Proofs.Token.Form
import QueryFilter.Proofs.Token.Group
import QueryFilter.Proofs.Token.Lambda
import QueryFilter.Proofs.Token.Matching
import QueryFilter.Proofs.Token.Passage
import QueryFilter.Proofs.Token.Place
import QueryFilter.Proofs.Token.Quotation
import QueryFilter.Proofs.Token.QuotedHead
import QueryFilter.Proofs.Token.Scans
import QueryFilter.Proofs.Token.Shape
import QueryFilter.Proofs.Token.Spacing
import QueryFilter.Proofs.Token.Word
import QueryFilter.Report
import QueryFilter.Report.Form
import QueryFilter.Text.Basic
import QueryFilter.Text.Blank
import QueryFilter.Text.Digit
import QueryFilter.Text.Display
import QueryFilter.Text.Name
import QueryFilter.Text.Ranges
import QueryFilter.Time.Calendar
import QueryFilter.Time.Timestamp
import QueryFilter.Token.Basic
import QueryFilter.Token.Call
import QueryFilter.Token.Cursor
import QueryFilter.Token.Fault
import QueryFilter.Token.Lambda
import QueryFilter.Token.Scan
