import PlainTables.Calendar
import PlainTables.Calendar.Pattern
import PlainTables.Cipher
import PlainTables.Cipher.Stream
import PlainTables.Coercion
import PlainTables.CommandLine.Arguments
import PlainTables.CommandLine.Detail
import PlainTables.CommandLine.Session
import PlainTables.Connection
import PlainTables.DataType
import PlainTables.Double
import PlainTables.Double.Decimal
import PlainTables.Evaluation.Aggregate
import PlainTables.Evaluation.Condition
import PlainTables.Evaluation.Evaluator
import PlainTables.Evaluation.Scope
import PlainTables.FileTree
import PlainTables.Ini.Document
import PlainTables.Json.Document
import PlainTables.Json5.Document
import PlainTables.Lines
import PlainTables.Lines.Buffered
import PlainTables.Lines.Bytes
import PlainTables.Lines.FileSet
import PlainTables.Lines.Preamble
import PlainTables.Main
import PlainTables.NamePattern
import PlainTables.NamePattern.CaseVariant
import PlainTables.NamePattern.CharClass
import PlainTables.NamePattern.CharSet
import PlainTables.NamePattern.Parse
import PlainTables.NamePattern.Program
import PlainTables.NamePattern.Storage
import PlainTables.NamePattern.Token
import PlainTables.Proofs.Calendar.Order
import PlainTables.Proofs.Calendar.Reading
import PlainTables.Proofs.Cipher.Stream
import PlainTables.Proofs.Computation
import PlainTables.Proofs.Connection.Columns
import PlainTables.Proofs.Connection.Failure
import PlainTables.Proofs.Connection.FileSet
import PlainTables.Proofs.Connection.Transposed
import PlainTables.Proofs.Double.Decimal
import PlainTables.Proofs.Double.Rounding
import PlainTables.Proofs.Double.Whole
import PlainTables.Proofs.Evaluation.Agreement
import PlainTables.Proofs.Evaluation.Alias
import PlainTables.Proofs.Evaluation.Comparison
import PlainTables.Proofs.Evaluation.Evaluator
import PlainTables.Proofs.Evaluation.Extreme
import PlainTables.Proofs.Evaluation.Failure
import PlainTables.Proofs.Evaluation.Like
import PlainTables.Proofs.Evaluation.Scope
import PlainTables.Proofs.Evaluation.Sum
import PlainTables.Proofs.Evaluation.UnknownName
import PlainTables.Proofs.Lines.Buffered
import PlainTables.Proofs.Lines.Bytes
import PlainTables.Proofs.Lines.Correspondence
import PlainTables.Proofs.Lines.Directory
import PlainTables.Proofs.Lines.EmptyFile
import PlainTables.Proofs.Lines.FileSet
import PlainTables.Proofs.Lines.Preamble
import PlainTables.Proofs.NamePattern.Reading
import PlainTables.Proofs.NamePattern.Steps
import PlainTables.Proofs.NamePattern.Taking
import PlainTables.Proofs.NamePattern.Threads
import PlainTables.Proofs.Numeral
import PlainTables.Proofs.Query.Agreement
import PlainTables.Proofs.Query.AllColumns
import PlainTables.Proofs.Query.Closing
import PlainTables.Proofs.Query.Distinct
import PlainTables.Proofs.Query.Failure
import PlainTables.Proofs.Query.Fetching
import PlainTables.Proofs.Query.Grouping
import PlainTables.Proofs.Query.Meaning
import PlainTables.Proofs.Query.Merging
import PlainTables.Proofs.Query.Moment
import PlainTables.Proofs.Query.Order
import PlainTables.Proofs.Query.OutputName
import PlainTables.Proofs.Query.Paging
import PlainTables.Proofs.Query.Position
import PlainTables.Proofs.Query.Rows
import PlainTables.Proofs.Query.Sorting
import PlainTables.Proofs.Query.Streaming
import PlainTables.Proofs.Query.UnknownName
import PlainTables.Proofs.Query.Whole
import PlainTables.Proofs.Records.Closing
import PlainTables.Proofs.Records.ColumnNames
import PlainTables.Proofs.Records.CommonLines
import PlainTables.Proofs.Records.Correspondence
import PlainTables.Proofs.Records.EmptyFile
import PlainTables.Proofs.Records.Failure
import PlainTables.Proofs.Records.FileHeaders
import PlainTables.Proofs.Records.FileKeys
import PlainTables.Proofs.Records.FileOrigin
import PlainTables.Proofs.Records.FileRun
import PlainTables.Proofs.Records.FileSet
import PlainTables.Proofs.Records.FileSetRun
import PlainTables.Proofs.Records.FileTop
import PlainTables.Proofs.Records.Melted
import PlainTables.Proofs.Records.Melting
import PlainTables.Proofs.Records.Outcome
import PlainTables.Proofs.Records.OwnRecord
import PlainTables.Proofs.Records.Surroundings
import PlainTables.Proofs.Records.Tagged
import PlainTables.Proofs.Records.TaggedPlaces
import PlainTables.Proofs.Records.TextRecord
import PlainTables.Proofs.Records.TextRun
import PlainTables.Proofs.Records.Unparseable
import PlainTables.Proofs.Records.Written
import PlainTables.Proofs.Report.Records
import PlainTables.Proofs.Script
import PlainTables.Proofs.Spacing.Clause
import PlainTables.Proofs.Spacing.Grammar
import PlainTables.Proofs.Spacing.Literal
import PlainTables.Proofs.Spacing.Place
import PlainTables.Proofs.Spacing.Statement
import PlainTables.Proofs.Spacing.Token
import PlainTables.Proofs.Splitting.CommonLines
import PlainTables.Proofs.Splitting.Delimited
import PlainTables.Proofs.Splitting.FixedWidth
import PlainTables.Proofs.Splitting.Grammar
import PlainTables.Proofs.Splitting.Joined
import PlainTables.Proofs.Statement.Clause
import PlainTables.Proofs.Statement.Condition
import PlainTables.Proofs.Statement.Lexis
import PlainTables.Proofs.Statement.Operand
import PlainTables.Proofs.Statement.Position
import PlainTables.Proofs.Statement.Printing
import PlainTables.Proofs.Statement.Qualifier
import PlainTables.Proofs.Statement.RoundTrip
import PlainTables.Proofs.Statement.Stopping
import PlainTables.Proofs.Statement.Taking
import PlainTables.Proofs.Statement.Token
import PlainTables.Proofs.Text.Casing
import PlainTables.Proofs.Text.Ends
import PlainTables.Proofs.Text.Reader
import PlainTables.Proofs.Text.Simulation
import PlainTables.Proofs.Text.Taking
import PlainTables.Proofs.Text.Utf8
import PlainTables.Proofs.Value.Order
import PlainTables.Proofs.Value.PrintedDouble
import PlainTables.Proofs.Value.QuotedInteger
import PlainTables.Proofs.Value.ReadBack
import PlainTables.Query.Cursor
import PlainTables.Query.Plan
import PlainTables.Query.Result
import PlainTables.Query.Scan
import PlainTables.Query.Stream
import PlainTables.QueryError
import PlainTables.Records
import PlainTables.Records.Melted
import PlainTables.Records.Memory
import PlainTables.Records.Shape
import PlainTables.Records.Tagged
import PlainTables.Records.Text
import PlainTables.Report.Json
import PlainTables.Report.Table
import PlainTables.Ron.Document
import PlainTables.Row
import PlainTables.Script
import PlainTables.Settings
import PlainTables.Settings.Decode
import PlainTables.Settings.Environment
import PlainTables.Settings.FileFormat
import PlainTables.Settings.Load
import PlainTables.Settings.Path
import PlainTables.Settings.Tree
import PlainTables.Splitting
import PlainTables.Splitting.Delimited
import PlainTables.Splitting.FixedWidth
import PlainTables.Statement
import PlainTables.Statement.Grammar
import PlainTables.Statement.Lexis
import PlainTables.Statement.Notation
import PlainTables.Statement.Parse
import PlainTables.Statement.Qualifier
import PlainTables.Text.Casing
import PlainTables.Text.CharWidth
import PlainTables.Text.Characters
import PlainTables.Text.DisplayWidth
import PlainTables.Text.Letter
import PlainTables.Text.Parts
import PlainTables.Text.Printable
import PlainTables.Text.Reader
import PlainTables.Text.Utf8
import PlainTables.Toml.Document
import PlainTables.Toml.Scalar
import PlainTables.Toml.Table
import PlainTables.Value
import PlainTables.Yaml.Document
import PlainTables.Yaml.Scalar
