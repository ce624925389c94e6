import DocumentDb.Action
import DocumentDb.Collection
import DocumentDb.Config
import DocumentDb.DateTime
import DocumentDb.Error
import DocumentDb.FieldPath
import DocumentDb.Index.Builds
import DocumentDb.Index.Catalog
import DocumentDb.Index.Descriptor
import DocumentDb.Index.FanOut
import DocumentDb.Index.FullText
import DocumentDb.Index.Handle
import DocumentDb.Index.Key
import DocumentDb.Index.Lifecycle
import DocumentDb.Index.Node
import DocumentDb.Index.Ordered
import DocumentDb.Index.Scan
import DocumentDb.Index.Upkeep
import DocumentDb.Json.Basic
import DocumentDb.Json.Parts
import DocumentDb.Json.Reader
import DocumentDb.Notation.Collection
import DocumentDb.Notation.Error
import DocumentDb.Notation.Index
import DocumentDb.Notation.Query
import DocumentDb.Notation.Value
import DocumentDb.Numeric.Binary64
import DocumentDb.Numeric.Decimal
import DocumentDb.Numeric.Shortest
import DocumentDb.Pattern
import DocumentDb.Pattern.CharClass
import DocumentDb.Pattern.Expr
import DocumentDb.Pattern.Reader
import DocumentDb.Processor
import DocumentDb.Proofs.Acceptance
import DocumentDb.Proofs.Action
import DocumentDb.Proofs.Alteration
import DocumentDb.Proofs.Backing
import DocumentDb.Proofs.BuildCall
import DocumentDb.Proofs.BuildLifecycle
import DocumentDb.Proofs.BuildWindow
import DocumentDb.Proofs.Building
import DocumentDb.Proofs.Catalog
import DocumentDb.Proofs.Consistent
import DocumentDb.Proofs.Coupling
import DocumentDb.Proofs.Dropping
import DocumentDb.Proofs.FailedWrites
import DocumentDb.Proofs.IdGenerator
import DocumentDb.Proofs.Index.Admission
import DocumentDb.Proofs.Index.Content
import DocumentDb.Proofs.Index.Entries
import DocumentDb.Proofs.Index.Exact
import DocumentDb.Proofs.Index.FullText
import DocumentDb.Proofs.Index.Handle
import DocumentDb.Proofs.Index.Names
import DocumentDb.Proofs.Index.Ordered
import DocumentDb.Proofs.Index.Places
import DocumentDb.Proofs.Index.Ranking
import DocumentDb.Proofs.Index.RecordIdSet
import DocumentDb.Proofs.Index.Relation
import DocumentDb.Proofs.Index.Rollback
import DocumentDb.Proofs.Index.ScanResult
import DocumentDb.Proofs.Index.Scanning
import DocumentDb.Proofs.Index.Searching
import DocumentDb.Proofs.Index.State
import DocumentDb.Proofs.Index.Stepping
import DocumentDb.Proofs.Index.TokenOrder
import DocumentDb.Proofs.Index.TokenWalk
import DocumentDb.Proofs.Index.Tree
import DocumentDb.Proofs.Index.Visiting
import DocumentDb.Proofs.Index.Walking
import DocumentDb.Proofs.JsonValues
import DocumentDb.Proofs.KeyOrder
import DocumentDb.Proofs.KeyValues
import DocumentDb.Proofs.Lifecycle
import DocumentDb.Proofs.Loops
import DocumentDb.Proofs.MapWalk
import DocumentDb.Proofs.Opening
import DocumentDb.Proofs.Operation
import DocumentDb.Proofs.Path
import DocumentDb.Proofs.Planning
import DocumentDb.Proofs.PostingOrder
import DocumentDb.Proofs.Processing
import DocumentDb.Proofs.Query.Answers
import DocumentDb.Proofs.Query.BestIndex
import DocumentDb.Proofs.Query.BranchOrder
import DocumentDb.Proofs.Query.Disjunction
import DocumentDb.Proofs.Query.Draining
import DocumentDb.Proofs.Query.Ending
import DocumentDb.Proofs.Query.Explaining
import DocumentDb.Proofs.Query.Filter
import DocumentDb.Proofs.Query.IdLookup
import DocumentDb.Proofs.Query.Independence
import DocumentDb.Proofs.Query.IndexChoice
import DocumentDb.Proofs.Query.Joining
import DocumentDb.Proofs.Query.Meaning
import DocumentDb.Proofs.Query.Optimizer
import DocumentDb.Proofs.Query.Paging
import DocumentDb.Proofs.Query.Projection
import DocumentDb.Proofs.Query.Pulling
import DocumentDb.Proofs.Query.Selection
import DocumentDb.Proofs.Query.SortOrder
import DocumentDb.Proofs.Query.Sorting
import DocumentDb.Proofs.Query.StableSort
import DocumentDb.Proofs.Query.StreamSteps
import DocumentDb.Proofs.Query.TextGrammar
import DocumentDb.Proofs.Query.TextOrder
import DocumentDb.Proofs.Querying
import DocumentDb.Proofs.RecordId
import DocumentDb.Proofs.Refusal
import DocumentDb.Proofs.Reopening
import DocumentDb.Proofs.Requests
import DocumentDb.Proofs.Result
import DocumentDb.Proofs.Session
import DocumentDb.Proofs.SortedEntries
import DocumentDb.Proofs.Steps
import DocumentDb.Proofs.StorageErrors
import DocumentDb.Proofs.Store
import DocumentDb.Proofs.Text.Lowercase
import DocumentDb.Proofs.Text.Trim
import DocumentDb.Proofs.Upkeep
import DocumentDb.Proofs.ValueEquality
import DocumentDb.Proofs.View
import DocumentDb.Proofs.Writing
import DocumentDb.Query.Filter
import DocumentDb.Query.Optimizer
import DocumentDb.Query.Plan
import DocumentDb.Query.Planning
import DocumentDb.Query.TextQuery
import DocumentDb.RecordId
import DocumentDb.Serial.Index
import DocumentDb.Serial.Shape
import DocumentDb.Serial.Value
import DocumentDb.Session
import DocumentDb.SortedEntries
import DocumentDb.Store
import DocumentDb.Stream.Basic
import DocumentDb.Stream.Cursor
import DocumentDb.Stream.Join
import DocumentDb.Stream.OfPlan
import DocumentDb.Stream.Projection
import DocumentDb.Text.Alphanumeric
import DocumentDb.Text.Blank
import DocumentDb.Text.CharSet
import DocumentDb.Text.Collation
import DocumentDb.Text.Decomposition.Table
import DocumentDb.Text.Lowercase
import DocumentDb.Text.Lowercase.Table
import DocumentDb.Text.Mark
import DocumentDb.Text.NamedClass
import DocumentDb.Text.Substring
import DocumentDb.Text.Tokenizer
import DocumentDb.Text.Word
import DocumentDb.Text.Word.Table
import DocumentDb.Value.Basic
import DocumentDb.Value.Json
import DocumentDb.Value.Order
import DocumentDb.Value.Path
import DocumentDb.Value.RecordId
