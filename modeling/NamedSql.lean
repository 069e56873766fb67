import NamedSql.Number.Decimal
import NamedSql.Text.Blank
import NamedSql.Text.Word
import NamedSql.Text.LetterCase
import NamedSql.Text.Quoted
import NamedSql.Json.Printer
import NamedSql.Json.Parser
import NamedSql.Uuid
import NamedSql.Time.Timestamp
import NamedSql.Config
import NamedSql.BindStrategy
import NamedSql.Sql.Numbered
import NamedSql.Statement
import NamedSql.Rows.Mapping
import NamedSql.DataType
import NamedSql.Argument
import NamedSql.Session.Step
import NamedSql.Postgres.Session
import NamedSql.Proofs.Plan
import NamedSql.Proofs.Exchange
import NamedSql.Proofs.Transaction.Course
import NamedSql.Proofs.Transaction.Stage
import NamedSql.Proofs.Transaction.Ledger
import NamedSql.Proofs.Transaction.Bookkeeping
import NamedSql.Proofs.Transaction.Standing
import NamedSql.Proofs.Transaction.Conclusion
import NamedSql.Proofs.Transaction.Progress
import NamedSql.Proofs.Transaction.Attendance
import NamedSql.Proofs.Scene.Basic
import NamedSql.Proofs.Scene.Coherence
import NamedSql.Proofs.Scene.Registry
import NamedSql.Proofs.Scene.Lifecycle
import NamedSql.Proofs.Transaction.Calls
import NamedSql.Proofs.Scene.Gate
import NamedSql.Proofs.Scene.Decision
import NamedSql.Proofs.Scene.Trace
import NamedSql.Proofs.Scene.Delivery
import NamedSql.Proofs.Transaction.Growth
import NamedSql.Proofs.Scene.Completion
import NamedSql.Proofs.Scene.Verdict
import NamedSql.Proofs.Scene.Joined
import NamedSql.Proofs.Sql.Paths
import NamedSql.Proofs.Sql.Quotations
import NamedSql.Proofs.Sql.Pieces
import NamedSql.Proofs.Sql.Layout
import NamedSql.Proofs.Sql.Clauses
import NamedSql.Proofs.Query.Positions
import NamedSql.Proofs.Sql.Boundaries
import NamedSql.Proofs.Sql.Placeholders
import NamedSql.Proofs.Query.Placeholders
import NamedSql.Proofs.Json.Strings
import NamedSql.Proofs.Rows.Documents
import NamedSql.Proofs.Rows.Reading
import NamedSql.Proofs.Rows.Responses
import NamedSql.Proofs.Rows.JsonColumns
import NamedSql.Proofs.Number.Rounding
import NamedSql.Proofs.Number.Shortest
import NamedSql.Proofs.Json.Numerals
import NamedSql.Proofs.Json.Literals
import NamedSql.Proofs.Json.RoundTrip
import NamedSql.Proofs.Binding.Types
import NamedSql.Proofs.Query.Types
import NamedSql.Proofs.Rows.ReadBack
import NamedSql.Proofs.Transaction.Entries
import NamedSql.Proofs.Postgres.Store
import NamedSql.Proofs.Scene.Polls
import NamedSql.Proofs.Transaction.Endings
import NamedSql.Proofs.Transaction.Batching
import NamedSql.Proofs.Postgres.Replay
import NamedSql.Proofs.Postgres.Situations
import NamedSql.Proofs.Postgres.Durability
import NamedSql.Proofs.Scene.Atomicity
import NamedSql.Proofs.Postgres.Alternation
import NamedSql.Proofs.Transaction.Framing
import NamedSql.Proofs.Transaction.Books
import NamedSql.Proofs.Transaction.Completion
import NamedSql.Proofs.Call
import NamedSql.Proofs.Cleanup
import NamedSql.Proofs.Transaction.Presence
import NamedSql.Proofs.Transaction.Destiny
import NamedSql.Proofs.Scene.Attended
import NamedSql.Proofs.Scene.Survival
import NamedSql.Proofs.Transaction.Past
import NamedSql.Proofs.Scene.Replies
import NamedSql.Proofs.Scene.Omission
import NamedSql.Proofs.Binding.Lists
import NamedSql.Proofs.Runs
import NamedSql.Proofs.Query.Values
import NamedSql.Proofs.Query.Spellings
import NamedSql.Proofs.Sql.ArrayContext
import NamedSql.Proofs.Query.Acceptance
import NamedSql.Proofs.Sql.Bytes
import NamedSql.Proofs.Rows.Columns
import NamedSql.Proofs.Rows.Casing
import NamedSql.Proofs.Query.ParameterOrder
import NamedSql.Proofs.Transaction.Executed
import NamedSql.Proofs.Scene.Roster
import NamedSql.Proofs.Transaction.Waiting
import NamedSql.Proofs.Scene.Wakeups
