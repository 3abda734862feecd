import RecordStore.Backend
import RecordStore.Schema.Diagnostic
import RecordStore.Store.Entities
import RecordStore.Store.Tables
import RecordStore.Proofs.Sql.Creation
import RecordStore.Proofs.Store.Operations
import RecordStore.Proofs.Engine.Transactions
import RecordStore.Proofs.Store.Calls
import RecordStore.Proofs.Store.Synchrony
import RecordStore.Proofs.Store.Runs
import RecordStore.Proofs.Value.Affinity
import RecordStore.Proofs.Value.Order
import RecordStore.Proofs.Engine.Relations
import RecordStore.Proofs.Engine.Elsewhere
import RecordStore.Proofs.Schema.Layout
import RecordStore.Proofs.Engine.Scopes
import RecordStore.Proofs.Shadow.Copies
import RecordStore.Proofs.Shadow.Changes
import RecordStore.Proofs.Store.Sight
import RecordStore.Proofs.Engine.Definitions
import RecordStore.Proofs.Shadow.Creation
import RecordStore.Proofs.Store.Tables
import RecordStore.Proofs.Shadow.Runs
import RecordStore.Proofs.Sql.Places
import RecordStore.Proofs.Query.Search
import RecordStore.Proofs.Query.Marks
import RecordStore.Proofs.Engine.Control
import RecordStore.Proofs.Store.CallerTexts
import RecordStore.Proofs.Store.OwnTransactions
import RecordStore.Proofs.Store.PlainCalls
import RecordStore.Proofs.Store.AllOrNothing
import RecordStore.Proofs.Store.AddedEntities
import RecordStore.Proofs.Store.Isolation
import RecordStore.Proofs.Store.Searching
import RecordStore.Proofs.Store.OneRow
import RecordStore.Proofs.Query.Enforced
import RecordStore.Proofs.Query.Filters
import RecordStore.Proofs.Query.WellFormed
import RecordStore.Proofs.Store.FailedCreation
import RecordStore.Proofs.Store.ShadowNames
import RecordStore.Proofs.Store.OwnDriver
import RecordStore.Proofs.Store.Paging
import RecordStore.Proofs.Store.Texts
import RecordStore.Proofs.Store.FreshNumbers
import RecordStore.Proofs.Store.RowMapping
import RecordStore.Proofs.Store.OverwrittenRows
import RecordStore.Proofs.Store.FailedMutations
import RecordStore.Proofs.Engine.Faults
import RecordStore.Proofs.Store.MissingValues
import RecordStore.Proofs.Store.Validation
import RecordStore.Proofs.Query.Choices
import RecordStore.Proofs.Query.Confinement
import RecordStore.Proofs.Schema.Validity
import RecordStore.Proofs.Store.KeyParts
import RecordStore.Proofs.Schema.CreationTexts
import RecordStore.Proofs.Value.Dates
import RecordStore.Proofs.Store.Handles
import RecordStore.Proofs.Config.Documents
import RecordStore.Proofs.Store.RemovedRows
import RecordStore.Proofs.Query.Builders
import RecordStore.Proofs.Query.Conjuncts
import RecordStore.Proofs.Store.Hits
