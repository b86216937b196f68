import AuditedStore.Main
import AuditedStore.Record.Card
import AuditedStore.Store.Contested
import AuditedStore.Store.Logged
import AuditedStore.Proofs.Store.Memory
import AuditedStore.Proofs.Store.Atomicity
import AuditedStore.Proofs.Audit.Interleaving
import AuditedStore.Proofs.Audit.Trail
import AuditedStore.Proofs.Calendar.Timestamp
import AuditedStore.Proofs.Manager.Auditing
import AuditedStore.Proofs.Store.Agreement
import AuditedStore.Proofs.Manager.Isolation
import AuditedStore.Proofs.Query.Filtering
import AuditedStore.Proofs.Search.Paging
import AuditedStore.Proofs.Audit.Adding
import AuditedStore.Proofs.Manager.Creating
import AuditedStore.Proofs.Audit.Policy
import AuditedStore.Proofs.Manager.Scope
import AuditedStore.Proofs.Repository
import AuditedStore.Proofs.Store.Indexes
import AuditedStore.Proofs.Record.RoundTrip
import AuditedStore.Proofs.Manager.Inclusion
import AuditedStore.Proofs.Manager.Revising
import AuditedStore.Proofs.Manager.Logging
import AuditedStore.Proofs.Audit.Windows
import AuditedStore.Proofs.Query.Membership
import AuditedStore.Proofs.Query.Ordering
import AuditedStore.Proofs.Value.Numbers
import AuditedStore.Proofs.Query.Numbers
import AuditedStore.Proofs.Value.Json
import AuditedStore.Proofs.Update.InPlace
import AuditedStore.Proofs.ObjectId.Generation
import AuditedStore.Proofs.ObjectId.Codec
import AuditedStore.Proofs.Index
import AuditedStore.Proofs.Store.Listing
import AuditedStore.Proofs.Manager.Snapshots
import AuditedStore.Proofs.Document.Lens
import AuditedStore.Proofs.Unicode.Table
