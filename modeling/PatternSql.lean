import PatternSql.KeyMap
import PatternSql.Text.Blank
import PatternSql.Text.Split
import PatternSql.Double.Basic
import PatternSql.Double.Decimal
import PatternSql.Json.Basic
import PatternSql.Json.Numeral
import PatternSql.Json.Token
import PatternSql.Json.Reader
import PatternSql.Json.Printer
import PatternSql.Pattern.Literal
import PatternSql.Pattern.Operator
import PatternSql.Pattern.Basic
import PatternSql.Text.Integer
import PatternSql.Pattern.Encode
import PatternSql.Pattern.Decode
import PatternSql.Pattern.Assembly
import PatternSql.Fault
import PatternSql.Time.Calendar
import PatternSql.Time.Timestamp
import PatternSql.Time.Temporal
import PatternSql.Address.Shape
import PatternSql.Address.Registry
import PatternSql.Text.Digits
import PatternSql.Text.Join
import PatternSql.Source.Mapping
import PatternSql.Source.Basic
import PatternSql.Source.Config
import PatternSql.Predicate.Operand
import PatternSql.Predicate.Clause
import PatternSql.Predicate.Compile
import PatternSql.Query.Select
import PatternSql.Query.Record
import PatternSql.Query.Failure
import PatternSql.Session
import PatternSql.Main
import PatternSql.Text.Cluster
import PatternSql.Text.ClusterClass
import PatternSql.Text.Erasure
import PatternSql.Proofs.Formula
import PatternSql.Proofs.Nodes
import PatternSql.Proofs.Meaning
import PatternSql.Proofs.Normalization
import PatternSql.Proofs.Faults
import PatternSql.Proofs.Applicability
import PatternSql.Proofs.Containment
import PatternSql.Proofs.Placement
import PatternSql.Proofs.QualifierReading
import PatternSql.Proofs.TimeBounds
import PatternSql.Proofs.Legibility
import PatternSql.Proofs.Dependence
import PatternSql.Proofs.EarlyNormalization
import PatternSql.Proofs.Json.Numerals
import PatternSql.Proofs.Json.Spelling
import PatternSql.Proofs.Json.Traces
import PatternSql.Proofs.Json.Documents
import PatternSql.Proofs.Json.CanonicalText
import PatternSql.Proofs.PatternForms
import PatternSql.Proofs.Canonicalization
import PatternSql.Proofs.Overriding
import PatternSql.Proofs.Transcript
import PatternSql.Proofs.Address.Grammar
import PatternSql.Proofs.Address.Forms
import PatternSql.Proofs.DayCount
import PatternSql.Proofs.ZonedTimestamps
import PatternSql.Proofs.Quotation
import PatternSql.Proofs.Alternatives
import PatternSql.Proofs.Exposure
import PatternSql.Proofs.Routing
import PatternSql.Proofs.TimestampReaders
import PatternSql.Proofs.EpochRange
import PatternSql.Proofs.Counting
import PatternSql.Proofs.QualifierBounds
import PatternSql.Proofs.Paging
import PatternSql.Proofs.Statements
import PatternSql.Proofs.Anchors
import PatternSql.Proofs.Decorations
