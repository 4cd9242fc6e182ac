import LedgerQuery.Text.Case
import LedgerQuery.Text.Blank
import LedgerQuery.Text.Quoted
import LedgerQuery.Text.Escaped
import LedgerQuery.Text.Alphanumeric
import LedgerQuery.Decimal.Layout
import LedgerQuery.Decimal.Reader
import LedgerQuery.Json.Writer
import LedgerQuery.Json.Reader
import LedgerQuery.Json.Record
import LedgerQuery.Sql.Query
import LedgerQuery.Compile
import LedgerQuery.Result.Schema
import LedgerQuery.Result.Connection
import LedgerQuery.Driver.Message
import LedgerQuery.Envelope.Shape
import LedgerQuery.Settings.Expansion
import LedgerQuery.Main
import LedgerQuery.Toml.Reader
import LedgerQuery.Proofs.Decimal.Numerals
import LedgerQuery.Proofs.Sql.Containment
import LedgerQuery.Proofs.Compile.Query
import LedgerQuery.Proofs.Compile.Containment
import LedgerQuery.Proofs.Sql.Functions
import LedgerQuery.Proofs.Compile.Meaning
import LedgerQuery.Proofs.Compile.Outline
import LedgerQuery.Proofs.Driver.Conversation
import LedgerQuery.Proofs.Driver.Transcript
import LedgerQuery.Proofs.Json.Lines
import LedgerQuery.Proofs.Backend.Lifecycle
import LedgerQuery.Proofs.Compile.Precedence
import LedgerQuery.Proofs.Descriptor.Echo
import LedgerQuery.Proofs.Settings.Environment
import LedgerQuery.Proofs.Envelope.Breakdowns
import LedgerQuery.Proofs.Envelope.RoundTrip
import LedgerQuery.Proofs.Settings.Overrides
import LedgerQuery.Proofs.Settings.Password
import LedgerQuery.Proofs.Compile.Partition
import LedgerQuery.Proofs.Backend.Structured
import LedgerQuery.Proofs.Driver.Framing
import LedgerQuery.Proofs.Envelope.Columns
import LedgerQuery.Proofs.Sql.TableNames
import LedgerQuery.Proofs.Sql.Quoting
import LedgerQuery.Proofs.Decimal.Overflow
import LedgerQuery.Proofs.Envelope.Finite
import LedgerQuery.Proofs.Result.Records
import LedgerQuery.Proofs.Sql.Dialects
import LedgerQuery.Proofs.Compile.Dialects
import LedgerQuery.Proofs.Json.Grammar
import LedgerQuery.Proofs.Json.Objects
import LedgerQuery.Proofs.Descriptor.Spelling
import LedgerQuery.Proofs.Descriptor.Filters
import LedgerQuery.Proofs.Compile.Filters
import LedgerQuery.Proofs.CommandLine.Filter
import LedgerQuery.Proofs.Result.Schemas
import LedgerQuery.Proofs.Backend.Addressing
import LedgerQuery.Proofs.Sql.Builder
import LedgerQuery.Proofs.Compile.Limits
