import MonitorControl.Command.Basic
import MonitorControl.Command.Line
import MonitorControl.Command.Object
import MonitorControl.Command.Rest
import MonitorControl.Command.Target
import MonitorControl.Console.Arguments
import MonitorControl.Console.Instruction
import MonitorControl.Console.Session
import MonitorControl.Delivery.CommandFile
import MonitorControl.Delivery.Dispatch
import MonitorControl.Delivery.Files
import MonitorControl.Delivery.Outlets
import MonitorControl.Delivery.RestInterface
import MonitorControl.Delivery.Settings
import MonitorControl.Delivery.Site
import MonitorControl.Delivery.Transport
import MonitorControl.Filter
import MonitorControl.Filter.Attribute
import MonitorControl.Filter.Completion
import MonitorControl.Filter.Condition
import MonitorControl.Filter.Condition.Flag
import MonitorControl.Filter.Condition.Number
import MonitorControl.Filter.Condition.State
import MonitorControl.Filter.Condition.Text
import MonitorControl.Filter.Condition.TimeRange
import MonitorControl.Filter.Domain
import MonitorControl.Filter.Monitoring
import MonitorControl.Json.Reader
import MonitorControl.Json.Record
import MonitorControl.Json.Syntax
import MonitorControl.Json.Value
import MonitorControl.Main
import MonitorControl.Number.Reading
import MonitorControl.Number.Shortest
import MonitorControl.Proofs.Command.Fields
import MonitorControl.Proofs.Command.RestForm
import MonitorControl.Proofs.Command.Times
import MonitorControl.Proofs.Console.ObjectList
import MonitorControl.Proofs.Delivery.Accounting
import MonitorControl.Proofs.Delivery.Answers
import MonitorControl.Proofs.Delivery.Appending
import MonitorControl.Proofs.Delivery.CommandFile
import MonitorControl.Proofs.Delivery.Failover
import MonitorControl.Proofs.Delivery.Posting
import MonitorControl.Proofs.Delivery.Refusal
import MonitorControl.Proofs.Delivery.Rehearsal
import MonitorControl.Proofs.Delivery.RemoteShell
import MonitorControl.Proofs.Delivery.Routing
import MonitorControl.Proofs.Filter.Acceptance
import MonitorControl.Proofs.Filter.CaseFolding
import MonitorControl.Proofs.Filter.Completion
import MonitorControl.Proofs.Filter.Condition.CaseFolding
import MonitorControl.Proofs.Filter.Condition.Flag
import MonitorControl.Proofs.Filter.Condition.Slices
import MonitorControl.Proofs.Filter.Condition.Text
import MonitorControl.Proofs.Filter.Condition.TimeRange
import MonitorControl.Proofs.Filter.Emitted
import MonitorControl.Proofs.Filter.Heads
import MonitorControl.Proofs.Filter.NameClause
import MonitorControl.Proofs.Filter.Reading
import MonitorControl.Proofs.Filter.Slices
import MonitorControl.Proofs.Number.WholeFloat
import MonitorControl.Proofs.Query.ByteScan
import MonitorControl.Proofs.Query.CaseFolding
import MonitorControl.Proofs.Query.Comb
import MonitorControl.Proofs.Query.Cuts
import MonitorControl.Proofs.Query.Quiet
import MonitorControl.Proofs.Query.Scan
import MonitorControl.Proofs.Query.Segments
import MonitorControl.Proofs.Query.Splitting
import MonitorControl.Proofs.Sql.Distinction
import MonitorControl.Proofs.Sql.Grammar
import MonitorControl.Proofs.Sql.Literal
import MonitorControl.Proofs.Sql.Meaning
import MonitorControl.Proofs.Sql.ReadBack
import MonitorControl.Proofs.Sql.Token
import MonitorControl.Proofs.Sql.Wildcards
import MonitorControl.Proofs.Text.Blank
import MonitorControl.Proofs.Text.Quotes
import MonitorControl.Proofs.Text.Slices
import MonitorControl.Proofs.Text.Splitting
import MonitorControl.Proofs.Text.Utf8
import MonitorControl.Proofs.Text.Words
import MonitorControl.Proofs.Time.Calendar
import MonitorControl.Proofs.Time.CaseFolding
import MonitorControl.Proofs.Time.Checked
import MonitorControl.Proofs.Time.Limits
import MonitorControl.Proofs.Time.Overflow
import MonitorControl.Proofs.Time.Slices
import MonitorControl.Proofs.Time.Stamp
import MonitorControl.Proofs.Time.Weekday
import MonitorControl.Proofs.Url.Form
import MonitorControl.Proofs.Url.NormalForm
import MonitorControl.Proofs.Url.RoundTrip
import MonitorControl.Query.Conjunction
import MonitorControl.Query.Segment
import MonitorControl.Query.Tree
import MonitorControl.Sql.Compiler
import MonitorControl.Sql.Condition
import MonitorControl.Sql.Pattern
import MonitorControl.Sql.Text
import MonitorControl.Text.Ascii
import MonitorControl.Text.Base64
import MonitorControl.Text.Basic
import MonitorControl.Text.Blank
import MonitorControl.Text.Debug
import MonitorControl.Text.Hex
import MonitorControl.Text.Integer
import MonitorControl.Text.Printable
import MonitorControl.Text.Quotes
import MonitorControl.Text.Utf8
import MonitorControl.Time.Calendar
import MonitorControl.Time.Phrase
import MonitorControl.Time.Stamp
import MonitorControl.Url.FilterQuery
import MonitorControl.Url.Form
