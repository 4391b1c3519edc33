import SqlGateway.Main
import SqlGateway.Query.Building
import SqlGateway.Store.Recording
import SqlGateway.Store.Scripted
import SqlGateway.Query.Writing
import SqlGateway.Proofs.Except
import SqlGateway.Proofs.Value.Fields
import SqlGateway.Proofs.Text.Digits
import SqlGateway.Proofs.Calendar.Literal
import SqlGateway.Proofs.Calendar.Time
import SqlGateway.Proofs.Calendar.Instant
import SqlGateway.Proofs.Pattern.Search
import SqlGateway.Proofs.Pattern.Literal
import SqlGateway.Proofs.Filter.Meaning
import SqlGateway.Proofs.Filter.Lowering
import SqlGateway.Proofs.Filter.Return
import SqlGateway.Proofs.Filter.Brackets
import SqlGateway.Proofs.Filter.Stretches
import SqlGateway.Proofs.Filter.Like
import SqlGateway.Proofs.Number.Double
import SqlGateway.Proofs.Number.Whole
import SqlGateway.Proofs.Number.Word
import SqlGateway.Proofs.Number.Decimal128
import SqlGateway.Proofs.Number.DecimalText
import SqlGateway.Proofs.Value.Order
import SqlGateway.Proofs.Value.Preorder
import SqlGateway.Proofs.Value.Path
import SqlGateway.Proofs.Value.Arithmetic
import SqlGateway.Proofs.Filter.Numbers
import SqlGateway.Proofs.Store.Update
import SqlGateway.Proofs.Store.Collection
import SqlGateway.Proofs.Store.Databases
import SqlGateway.Proofs.Store.Insertion
import SqlGateway.Proofs.Store.Sorting
import SqlGateway.Proofs.Store.Projection
import SqlGateway.Proofs.Store.Grouping
import SqlGateway.Proofs.Store.Joining
import SqlGateway.Proofs.Store.Retrieval
import SqlGateway.Proofs.Store.Memory
import SqlGateway.Proofs.Store.Deletion
import SqlGateway.Proofs.Store.Invariant
import SqlGateway.Proofs.Store.Updating
import SqlGateway.Proofs.Store.Indexing
import SqlGateway.Proofs.Store.IndexCommands
import SqlGateway.Proofs.Store.Renaming
import SqlGateway.Proofs.Identifiers.Values
import SqlGateway.Proofs.Identifiers.Expressions
import SqlGateway.Proofs.Identifiers.Groups
import SqlGateway.Proofs.Identifiers.Pipelines
import SqlGateway.Proofs.Identifiers.Labels
import SqlGateway.Proofs.Identifiers.Collections
import SqlGateway.Proofs.Identifiers.Databases
import SqlGateway.Proofs.Identifiers.Retrieval
import SqlGateway.Proofs.Identifiers.Stores
import SqlGateway.Proofs.Identifiers.Plans
import SqlGateway.Proofs.Identifiers.Rows
import SqlGateway.Proofs.Identifiers.Runs
import SqlGateway.Proofs.Store.Transactions
import SqlGateway.Proofs.Store.Cursors
import SqlGateway.Proofs.Store.Paging
import SqlGateway.Proofs.Plan.Strategies
import SqlGateway.Proofs.Plan.Pipelines
import SqlGateway.Proofs.Plan.Predicates
import SqlGateway.Proofs.Plan.Showing
import SqlGateway.Proofs.Plan.Groupings
import SqlGateway.Proofs.Plan.GroupKeys
import SqlGateway.Proofs.Plan.Rows
import SqlGateway.Proofs.Plan.Commands
import SqlGateway.Proofs.Plan.Writes
import SqlGateway.Proofs.Store.Alike
import SqlGateway.Proofs.Store.Splitting
import SqlGateway.Proofs.Store.Extremum
import SqlGateway.Proofs.Store.Counting
import SqlGateway.Proofs.Execution.Leads
import SqlGateway.Proofs.Execution.Fetching
import SqlGateway.Proofs.Execution.Atomicity
import SqlGateway.Proofs.Execution.Runs
import SqlGateway.Proofs.Execution.Steps
import SqlGateway.Proofs.Execution.Ownership
import SqlGateway.Proofs.Execution.Phases
import SqlGateway.Proofs.Execution.Reading
import SqlGateway.Proofs.Execution.Agreement
import SqlGateway.Proofs.Execution.Selecting
import SqlGateway.Proofs.Execution.Limits
import SqlGateway.Proofs.Execution.SortedSlices
import SqlGateway.Proofs.Execution.JoinOrder
import SqlGateway.Proofs.Execution.GroupedSums
import SqlGateway.Proofs.Execution.Having
import SqlGateway.Proofs.Execution.SelectLists
import SqlGateway.Proofs.Execution.Groups
import SqlGateway.Proofs.Execution.Extremes
import SqlGateway.Proofs.Execution.Keys
import SqlGateway.Proofs.Execution.Ready
import SqlGateway.Proofs.Execution.Definitions
import SqlGateway.Proofs.Execution.CountedInserts
import SqlGateway.Proofs.Row.Literals
import SqlGateway.Proofs.Row.Cells
import SqlGateway.Proofs.Row.Nominal
import SqlGateway.Proofs.Execution.Probing
import SqlGateway.Proofs.Execution.ColumnTypes
import SqlGateway.Proofs.Execution.Counts
import SqlGateway.Proofs.Execution.DistinctCounts
import SqlGateway.Proofs.Execution.Typing
import SqlGateway.Proofs.Execution.RoundTrip
import SqlGateway.Proofs.Json.Text
import SqlGateway.Proofs.Json.Depth
import SqlGateway.Proofs.Json.Scalars
import SqlGateway.Proofs.Json.Reading
import SqlGateway.Proofs.Query.Literals
import SqlGateway.Proofs.Query.Trees
import SqlGateway.Proofs.Service.Requests
import SqlGateway.Proofs.Service.Sessions
