import InfoVulcan.Admin.Atomicity
import InfoVulcan.Admin.AuditLog
import InfoVulcan.Admin.Calls
import InfoVulcan.Admin.Concurrency
import InfoVulcan.Admin.Profiles
import InfoVulcan.Admin.Server
import InfoVulcan.Admin.Users
import InfoVulcan.Auth.Accounts
import InfoVulcan.Auth.Deactivation
import InfoVulcan.Auth.Directory
import InfoVulcan.Auth.Json
import InfoVulcan.Auth.Logins
import InfoVulcan.Auth.Ownership
import InfoVulcan.Auth.Server
import InfoVulcan.Chaos.Scenarios
import InfoVulcan.Chaos.Service
import InfoVulcan.Custodian.Conversions
import InfoVulcan.Custodian.Exclusion
import InfoVulcan.Custodian.Expiry
import InfoVulcan.Custodian.Independence
import InfoVulcan.Custodian.Json
import InfoVulcan.Custodian.Lifecycle
import InfoVulcan.Custodian.LockCalls
import InfoVulcan.Custodian.LostUpdate
import InfoVulcan.Custodian.Purge
import InfoVulcan.Custodian.Raft
import InfoVulcan.Custodian.RaftLog
import InfoVulcan.Custodian.Restart
import InfoVulcan.Custodian.Server
import InfoVulcan.Custodian.Snapshot
import InfoVulcan.Custodian.Storage
import InfoVulcan.Custodian.TicketDesk
import InfoVulcan.Custodian.TicketEffects
import InfoVulcan.Custodian.UpdateCalls
import InfoVulcan.Custodian.UpdateTicket
import InfoVulcan.Custodian.Validity
import InfoVulcan.Db.Application
import InfoVulcan.Db.Bootstrap
import InfoVulcan.Db.Clients
import InfoVulcan.Db.Commands
import InfoVulcan.Db.DataTrees
import InfoVulcan.Db.Interruption
import InfoVulcan.Db.Json
import InfoVulcan.Db.LogEntry
import InfoVulcan.Db.LogState
import InfoVulcan.Db.LogTree
import InfoVulcan.Db.Peers
import InfoVulcan.Db.Purge
import InfoVulcan.Db.QueryFilters
import InfoVulcan.Db.Raft
import InfoVulcan.Db.RaftLog
import InfoVulcan.Db.RaftTrees
import InfoVulcan.Db.RecordBook
import InfoVulcan.Db.Replicas
import InfoVulcan.Db.Restart
import InfoVulcan.Db.Retention
import InfoVulcan.Db.Rows
import InfoVulcan.Db.Server
import InfoVulcan.Db.Service
import InfoVulcan.Db.Snapshot
import InfoVulcan.Db.SnapshotTask
import InfoVulcan.Db.Storage
import InfoVulcan.Db.TicketIds
import InfoVulcan.Db.TicketIndex
import InfoVulcan.Db.TicketQuery
import InfoVulcan.Db.TicketRows
import InfoVulcan.Db.UserIndex
import InfoVulcan.Honeypot.Reporter
import InfoVulcan.Lbrp.Access
import InfoVulcan.Lbrp.Discovery
import InfoVulcan.Lbrp.Holders
import InfoVulcan.Lbrp.Json
import InfoVulcan.Lbrp.NextAction
import InfoVulcan.Lbrp.Router
import InfoVulcan.Lbrp.Routes
import InfoVulcan.Lbrp.Sessions
import InfoVulcan.Library.Bytes
import InfoVulcan.Library.Codec
import InfoVulcan.Library.Decimal
import InfoVulcan.Library.Hex
import InfoVulcan.Library.IndexedLog
import InfoVulcan.Library.Json
import InfoVulcan.Library.Keyspace
import InfoVulcan.Library.Lease
import InfoVulcan.Library.Lifecycle
import InfoVulcan.Library.Machine
import InfoVulcan.Library.Pagination
import InfoVulcan.Library.Patch
import InfoVulcan.Library.Postings
import InfoVulcan.Library.Projection
import InfoVulcan.Library.ReadModifyWrite
import InfoVulcan.Library.Reconciler
import InfoVulcan.Library.Retention
import InfoVulcan.Library.Separated
import InfoVulcan.Library.Service
import InfoVulcan.Library.SharedCell
import InfoVulcan.Library.Text
import InfoVulcan.Library.Transaction
import InfoVulcan.Library.Wire
import InfoVulcan.Proto.Pqc
import InfoVulcan.Raft.Election
import InfoVulcan.Raft.Replication
import InfoVulcan.Raft.Rpc
import InfoVulcan.Raft.SnapshotTransfer
import InfoVulcan.Raft.Types
import InfoVulcan.Shared.Encryption
import InfoVulcan.Shared.Foreign
import InfoVulcan.Shared.Json
import InfoVulcan.Shared.KeyStore
import InfoVulcan.Shared.MacAddress
import InfoVulcan.Shared.Ticket
import InfoVulcan.Shared.User
import InfoVulcan.Sled
import InfoVulcan.Web.Console
import InfoVulcan.Web.Domain
