import RecordBridge.Bridge.Basic
import RecordBridge.Bridge.Stages
import RecordBridge.Catalog.Basic
import RecordBridge.Catalog.Describe
import RecordBridge.Catalog.Gate
import RecordBridge.Compile.Basic
import RecordBridge.Compile.Delta
import RecordBridge.Compile.Request
import RecordBridge.Deletions.Reconcile
import RecordBridge.Deletions.Window
import RecordBridge.Directive.Basic
import RecordBridge.Directive.Checked
import RecordBridge.Directive.Error
import RecordBridge.Directive.Validation
import RecordBridge.Envelope
import RecordBridge.Error
import RecordBridge.Filter.Draft
import RecordBridge.Filter.Error
import RecordBridge.Filter.Literal
import RecordBridge.Filter.Operator
import RecordBridge.Filter.Parse
import RecordBridge.Filter.Render
import RecordBridge.Filter.Tree
import RecordBridge.Flow
import RecordBridge.Flow.Stages
import RecordBridge.Json.Reader
import RecordBridge.Json.Writer
import RecordBridge.Numeric.Binary64
import RecordBridge.Numeric.Decimal
import RecordBridge.Numeric.DecimalDatum
import RecordBridge.Numeric.Power
import RecordBridge.Numeric.Shortest
import RecordBridge.Numeric.WholeNumeral
import RecordBridge.Pattern.Flags
import RecordBridge.Pattern.Like
import RecordBridge.Pattern.Regex
import RecordBridge.Record.Error
import RecordBridge.Record.Materialize
import RecordBridge.Remote
import RecordBridge.Session.Basic
import RecordBridge.Session.Documents
import RecordBridge.Session.Error
import RecordBridge.Session.Transport
import RecordBridge.Session.Types
import RecordBridge.Settings
import RecordBridge.Status
import RecordBridge.Text.Alphanumeric
import RecordBridge.Text.Base64
import RecordBridge.Text.Blank
import RecordBridge.Text.CaseTable
import RecordBridge.Text.Casing
import RecordBridge.Text.DecimalDigit
import RecordBridge.Text.Decoding
import RecordBridge.Text.Percent
import RecordBridge.Text.Printable
import RecordBridge.Text.Quoted
import RecordBridge.Text.Similarity
import RecordBridge.Time.Calendar
import RecordBridge.Time.Epoch
import RecordBridge.Time.Iso8601
import RecordBridge.Time.Span
import RecordBridge.Time.Timestamp
import RecordBridge.Value.Basic
import RecordBridge.Value.Entries
import RecordBridge.Value.Inspect
import RecordBridge.Value.Shape
import RecordBridge.Value.Temporal
import RecordBridge.Proofs.Condition.Grammar
import RecordBridge.Proofs.Condition.Leaves
import RecordBridge.Proofs.Condition.Meaning
import RecordBridge.Proofs.Pattern.Language
import RecordBridge.Proofs.Pattern.Lossless
import RecordBridge.Proofs.Bridge.Course
import RecordBridge.Proofs.Bridge.Protocol
import RecordBridge.Proofs.Bridge.Paging
import RecordBridge.Proofs.Bridge.Pipeline
import RecordBridge.Proofs.Condition.Skeleton
import RecordBridge.Proofs.Compile.Query
import RecordBridge.Proofs.Compile.Decisions
import RecordBridge.Proofs.Session.Exchanges
import RecordBridge.Proofs.Session.Turns
import RecordBridge.Proofs.Session.Coherence
import RecordBridge.Proofs.Session.Interleaving
import RecordBridge.Proofs.Session.Errands
import RecordBridge.Proofs.Numeric.Rounding
import RecordBridge.Proofs.Time.Seconds
import RecordBridge.Proofs.Time.Reading
import RecordBridge.Proofs.Condition.Demands
import RecordBridge.Proofs.Condition.Roundtrip
import RecordBridge.Proofs.Deletions.Coverage
import RecordBridge.Proofs.Condition.Documents
import RecordBridge.Proofs.Condition.Plain
import RecordBridge.Proofs.Condition.Truth
import RecordBridge.Proofs.Condition.Levels
import RecordBridge.Proofs.Compile.Resync
import RecordBridge.Proofs.Compile.Writes
import RecordBridge.Proofs.Pattern.Expressions
import RecordBridge.Proofs.Condition.Quoting
import RecordBridge.Proofs.Catalog.Projection
import RecordBridge.Proofs.Session.Lookups
import RecordBridge.Proofs.Numeric.Units
import RecordBridge.Proofs.Time.Milliseconds
import RecordBridge.Proofs.Time.Forms
import RecordBridge.Proofs.Value.Times
import RecordBridge.Proofs.Compile.Times
import RecordBridge.Proofs.Deletions.Narrowest
import RecordBridge.Proofs.Value.Entries
import RecordBridge.Proofs.Record.Fields
import RecordBridge.Proofs.Record.Generic
import RecordBridge.Proofs.Value.Range
import RecordBridge.Proofs.Condition.Refusals
import RecordBridge.Proofs.Condition.Containers
import RecordBridge.Proofs.Record.Readings
import RecordBridge.Proofs.Compile.Strays
import RecordBridge.Proofs.Status
import RecordBridge.Proofs.Bridge.Answers
import RecordBridge.Proofs.Catalog.Descriptions
import RecordBridge.Proofs.Session.Descriptions
import RecordBridge.Proofs.Session.Upserts
import RecordBridge.Proofs.Session.Naming
import RecordBridge.Proofs.Session.RecordAddresses
import RecordBridge.Proofs.Compile.Visibility
