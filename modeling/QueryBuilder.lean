import QueryBuilder.Repository
import QueryBuilder.Calendar
import QueryBuilder.Query.Walking
import QueryBuilder.Query.Paging
import QueryBuilder.Query.Store
import QueryBuilder.Query.Fetch
import QueryBuilder.Relation.Loading
import QueryBuilder.Session
import QueryBuilder.Query.Write
import QueryBuilder.Program
import QueryBuilder.Relation.Correlated
import QueryBuilder.Query.Join
import QueryBuilder.Query.Where
import QueryBuilder.Query.Subquery
import QueryBuilder.Query.Clauses
import QueryBuilder.Query.Select
import QueryBuilder.Query.Basic
import QueryBuilder.Step
import QueryBuilder.Assignments
import QueryBuilder.Connector
import QueryBuilder.Order
import QueryBuilder.Quoting
import QueryBuilder.Bindings
import QueryBuilder.Term
import QueryBuilder.Dialect
import QueryBuilder.Config
import QueryBuilder.Error
import QueryBuilder.Value.Reading
import QueryBuilder.Number.Text
import QueryBuilder.Text.Blank
import QueryBuilder.Text.Join
import QueryBuilder.Text.LowerCase
import QueryBuilder.Text.Printable
import QueryBuilder.Proofs.Placeholders
import QueryBuilder.Proofs.StatementText
import QueryBuilder.Proofs.ClauseText
import QueryBuilder.Proofs.Alignment
import QueryBuilder.Proofs.Admission
import QueryBuilder.Proofs.Edits
import QueryBuilder.Proofs.Conditions
import QueryBuilder.Proofs.Operations
import QueryBuilder.Proofs.Runs
import QueryBuilder.Proofs.BuiltAlignment
import QueryBuilder.Proofs.DerivedStatements
import QueryBuilder.Proofs.Sessions
import QueryBuilder.Proofs.Reading
import QueryBuilder.Proofs.Connections
import QueryBuilder.Proofs.DirectLinks
import QueryBuilder.Proofs.PivotLinks
import QueryBuilder.Proofs.Precedence
import QueryBuilder.Proofs.KeyedStatements
import QueryBuilder.Proofs.Correlation
import QueryBuilder.Proofs.Windows
import QueryBuilder.Proofs.Cursors
import QueryBuilder.Proofs.Pages
import QueryBuilder.Proofs.WriteText
import QueryBuilder.Proofs.Updates
import QueryBuilder.Proofs.Deletes
import QueryBuilder.Proofs.Composition
import QueryBuilder.Proofs.AlikeEdits
import QueryBuilder.Proofs.Enclosure
import QueryBuilder.Proofs.BuiltEnclosure
import QueryBuilder.Proofs.UnionAggregates
import QueryBuilder.Proofs.WriteScope
import QueryBuilder.Proofs.Respelling
import QueryBuilder.Proofs.Mirroring
import QueryBuilder.Proofs.MirroredConditions
import QueryBuilder.Proofs.MirroredOperations
import QueryBuilder.Proofs.Portability
import QueryBuilder.Proofs.MirroredRuns
import QueryBuilder.Proofs.Copies
import QueryBuilder.Proofs.Sources
import QueryBuilder.Proofs.TotalCounts
import QueryBuilder.Proofs.Registrations
import QueryBuilder.Proofs.Batches
import QueryBuilder.Proofs.EagerLoading
import QueryBuilder.Proofs.Frames
import QueryBuilder.Proofs.Inserts
import QueryBuilder.Proofs.DistinctTotals
import QueryBuilder.Proofs.Embeddings
import QueryBuilder.Proofs.Operators
import QueryBuilder.Proofs.CheckedOperators
import QueryBuilder.Proofs.KnownOperators
import QueryBuilder.Proofs.InsertedRows
import QueryBuilder.Proofs.InsertBatches
import QueryBuilder.Proofs.CountFilters
import QueryBuilder.Proofs.PivotRestrictions
import QueryBuilder.Proofs.Itineraries
import QueryBuilder.Proofs.Stopping
import QueryBuilder.Proofs.OwnWindows
import QueryBuilder.Proofs.CursorOrders
import QueryBuilder.Proofs.Shorthands
import QueryBuilder.Proofs.Comparisons
import QueryBuilder.Proofs.AggregatedRows
import QueryBuilder.Proofs.AliasSeparators
import QueryBuilder.Proofs.QuotedNames
import QueryBuilder.Proofs.ReadAliases
import QueryBuilder.Proofs.Filings
import QueryBuilder.Proofs.LeadingConnectors
import QueryBuilder.Proofs.TextEnds
import QueryBuilder.Proofs.RowNumbers
import QueryBuilder.Proofs.RepositoryWrites
