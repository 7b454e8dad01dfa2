import RecordMapper.Config.Document
import RecordMapper.Session.Lifecycle
import RecordMapper.Session.Script
import RecordMapper.Session.Traversal
import RecordMapper.Proofs.Outcome
import RecordMapper.Proofs.Schema.Catalog
import RecordMapper.Proofs.Schema.Declarations
import RecordMapper.Proofs.Query.Chains
import RecordMapper.Proofs.Sql.Lowering
import RecordMapper.Proofs.Sql.WellFormed
import RecordMapper.Proofs.Sql.Parameters
import RecordMapper.Proofs.Sql.ValueFree
import RecordMapper.Proofs.Sql.Reading
import RecordMapper.Proofs.Sql.Unambiguous
import RecordMapper.Proofs.Sql.Tokens
import RecordMapper.Proofs.Sql.Binding
import RecordMapper.Proofs.Session.Exchange
import RecordMapper.Proofs.Session.Operations
import RecordMapper.Proofs.Session.History
import RecordMapper.Proofs.Session.Connections
import RecordMapper.Proofs.Session.Engine
import RecordMapper.Proofs.Session.Lifecycle
import RecordMapper.Proofs.Session.Deeds
import RecordMapper.Proofs.Session.CompilationTime
import RecordMapper.Proofs.Data.Merging
import RecordMapper.Proofs.Session.OwnRow
import RecordMapper.Proofs.Sql.Joins
import RecordMapper.Proofs.Schema.Definitions
import RecordMapper.Proofs.Schema.Changes
import RecordMapper.Proofs.Sql.Acceptance
import RecordMapper.Proofs.Text.Words
import RecordMapper.Proofs.Schema.Name
import RecordMapper.Proofs.Sql.Stability
import RecordMapper.Proofs.Session.Traversal
import RecordMapper.Proofs.Sql.Conditions
import RecordMapper.Proofs.Sql.Reordering
import RecordMapper.Proofs.Session.Scoping
import RecordMapper.Proofs.Session.Loading
import RecordMapper.Proofs.Session.FirstRecord
import RecordMapper.Proofs.Session.Stored
import RecordMapper.Proofs.Text.Pattern
import RecordMapper.Proofs.Schema.Plural
import RecordMapper.Proofs.Session.Tables
import RecordMapper.Proofs.Error.Context
import RecordMapper.Proofs.Session.Contexts
import RecordMapper.Proofs.Session.Resaving
import RecordMapper.Proofs.Number.WholeNumbers
import RecordMapper.Proofs.Config.FilePaths
import RecordMapper.Proofs.Session.Models
import RecordMapper.Proofs.Session.SchemaPush
import RecordMapper.Proofs.Sql.Shorthand
import RecordMapper.Proofs.Query.Pieces
import RecordMapper.Proofs.Text.Trimmed
import RecordMapper.Proofs.Query.Orderings
import RecordMapper.Proofs.Data.Changes
