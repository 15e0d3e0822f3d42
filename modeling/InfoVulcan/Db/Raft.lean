import InfoVulcan.Db.LogEntry
import InfoVulcan.Raft.Types

/-!
# The Raft store of the DB service

`DbStore` is one embedded database together with two records in memory: the state machine's
position and the metadata Raft has loaded. Log, vote and purge marker live in trees of the same
database as the tables. Operations of the database succeed; what can fail is decoding stored
bytes and applying a command.
-/

namespace InfoVulcan.Db

open Raft

/-! ## Responses and errors -/

/-- Response type for client requests. -/
structure DbResponse where
  success : Bool
  value : Option Bytes
  deriving DecidableEq, Repr

/-- What a storage error is about. -/
inductive ErrorSubject where
  | log (id : LogId)
  | vote
  | stateMachine
  | snapshot (lastLogId : Option LogId) (lastMembershipLogId : Option LogId)
      (snapshotId : String)
  deriving DecidableEq, Repr

/-- The access that failed. -/
inductive ErrorVerb where
  | read
  | write
  deriving DecidableEq, Repr

/-- A storage error. Raft stops a node that reports one. -/
structure StorageError where
  subject : ErrorSubject
  verb : ErrorVerb
  message : String
  deriving DecidableEq, Repr

def logRead (e : String) : StorageError := ⟨.log default, .read, e⟩
def smWrite (e : String) : StorageError := ⟨.stateMachine, .write, e⟩
def logR (id : LogId) (e : String) : StorageError := ⟨.log id, .read, e⟩

/-- A log entry as Raft stores and replicates it. -/
abbrev DbEntry := Entry LogEntry

/-- The content of a snapshot: collection, key and value of every binding. -/
abbrev SnapshotData := List (String × Bytes × Bytes)

/-- The JSON formats of what Raft stores. -/
class RaftFormat where
  vote : Codec Vote
  logId : Codec LogId
  entry : Codec DbEntry
  snapshot : Codec SnapshotData

/-! ## State machine -/

/-- The position of the state machine. Its data is in the database of the store. -/
structure DbStateMachine where
  lastAppliedLog : Option LogId
  lastMembership : StoredMembership

/-- A state machine that has applied nothing. -/
def DbStateMachine.new : DbStateMachine where
  lastAppliedLog := none
  lastMembership := default

/-- Applies a command to the database. -/
def DbStateMachine.apply [RowFormat] (storage : Sled) (entry : LogEntry) :
    Except String DbResponse × Sled :=
  match entry.apply storage with
  | (.error e, storage) => (.error e, storage)
  | (.ok applied, storage) =>
      let response := match entry with
        | .get collection key =>
            let value := get storage collection key
            { success := value.isSome, value }
        | _ => { success := true, value := applied }
      (.ok response, storage)

/-! ## Raft metadata -/

/-- Vote and purge marker, as loaded from the database. -/
structure RaftMetadata where
  vote : Option Vote
  lastPurged : Option LogId
  deriving DecidableEq

def KEY_VOTE : Bytes := Bytes.ofText "vote"
def KEY_LAST_PURGED : Bytes := Bytes.ofText "last_purged"

/-- Decodes a stored value, if there is one. -/
def loadOptional {α : Type} (codec : Codec α) : Option Bytes → Except String (Option α)
  | some bytes => (codec.decode bytes).map some
  | none => .ok none

/-- Stores a value, or deletes the key when there is none. -/
def persistOptional {α : Type} (codec : Codec α) (storage : Sled) (key : Bytes) :
    Option α → Sled
  | some a => put storage TREE_RAFT_METADATA key (codec.encode a)
  | none => delete storage TREE_RAFT_METADATA key

variable [RaftFormat]

/-- Loads the metadata from the database. -/
def RaftMetadata.new (storage : Sled) : Except String RaftMetadata :=
  match loadOptional RaftFormat.vote (get storage TREE_RAFT_METADATA KEY_VOTE) with
  | .error e => .error e
  | .ok vote =>
      match loadOptional RaftFormat.logId (get storage TREE_RAFT_METADATA KEY_LAST_PURGED) with
      | .error e => .error e
      | .ok lastPurged => .ok { vote, lastPurged }

/-- Persists a vote. -/
def persistVote (storage : Sled) (vote : Option Vote) : Sled :=
  persistOptional RaftFormat.vote storage KEY_VOTE vote

/-- Persists the purge marker. -/
def persistLastPurged (storage : Sled) (lastPurged : Option LogId) : Sled :=
  persistOptional RaftFormat.logId storage KEY_LAST_PURGED lastPurged

/-- The store of a node. -/
structure DbStore where
  storage : Sled
  stateMachine : DbStateMachine
  raftStorage : RaftMetadata

namespace DbStore

/-- Opens the store on a database. -/
def new (storage : Sled) : Except String DbStore :=
  match RaftMetadata.new storage with
  | .error e => .error e
  | .ok raftStorage => .ok { storage, stateMachine := .new, raftStorage }

/-! ## Vote and log -/

def saveVote (store : DbStore) (vote : Vote) : DbStore :=
  { store with
    raftStorage := { store.raftStorage with vote := some vote }
    storage := persistVote store.storage (some vote) }

def readVote (store : DbStore) : Option Vote :=
  store.raftStorage.vote

/-- Stores entries under the big-endian bytes of their index, as one batch. -/
def appendToLog (store : DbStore) (entries : List DbEntry) : DbStore :=
  { store with
    storage := batchPut store.storage TREE_RAFT_LOG
      (entries.map fun entry =>
        (Bytes.ofU64 entry.logId.index, RaftFormat.entry.encode entry)) }

end DbStore

/-- The bindings of a tree whose key is `start` or above. -/
def rangeFrom (storage : Sled) (tree : String) (start : Bytes) : List (Bytes × Bytes) :=
  (Keyspace.scan storage tree).filter fun kv => (compare kv.1 start).isGE

/-- The bindings of a tree whose key is `last` or below. -/
def rangeUpTo (storage : Sled) (tree : String) (last : Bytes) : List (Bytes × Bytes) :=
  (Keyspace.scan storage tree).filter fun kv => (compare kv.1 last).isLE

/-- Removes keys of a tree as one batch. -/
def batchRemove (storage : Sled) (tree : String) (keys : List Bytes) : Sled :=
  keys.foldl (fun db key => delete db tree key) storage

namespace DbStore

/-- Removes all entries from `logId` onwards, inclusive. -/
def deleteConflictLogsSince (store : DbStore) (logId : LogId) : DbStore :=
  { store with
    storage := batchRemove store.storage TREE_RAFT_LOG
      ((rangeFrom store.storage TREE_RAFT_LOG (Bytes.ofU64 logId.index)).map Prod.fst) }

/-- Removes all entries up to `logId`, inclusive, and records the purge. -/
def purgeLogsUpto (store : DbStore) (logId : LogId) : DbStore :=
  let storage := batchRemove store.storage TREE_RAFT_LOG
    ((rangeUpTo store.storage TREE_RAFT_LOG (Bytes.ofU64 logId.index)).map Prod.fst)
  { store with
    storage := persistLastPurged storage (some logId)
    raftStorage := { store.raftStorage with lastPurged := some logId } }

end DbStore

/-- A bound of an index range. -/
inductive Bound where
  | included (index : UInt64)
  | excluded (index : UInt64)
  | unbounded
  deriving DecidableEq

/-- The first index of a range. Machine arithmetic wraps around. -/
def startIndex : Bound → UInt64
  | .included i => i
  | .excluded i => i + 1
  | .unbounded => 0

/-- The last index of a range, if it has one. Machine arithmetic wraps around. -/
def endIndex : Bound → Option UInt64
  | .included i => some i
  | .excluded i => some (i - 1)
  | .unbounded => none

/-- The reading loop of `tryGetLogEntries` over the bindings of the log tree. -/
def readEntries (last : Option UInt64) :
    List (Bytes × Bytes) → List DbEntry → Except StorageError (List DbEntry)
  | [], entries => .ok entries
  | (k, v) :: rest, entries =>
      match Bytes.toU64? k with
      | none => .error (logRead "invalid log key format: expected 8 bytes")
      | some index =>
          if last.any fun endIdx => endIdx < index then .ok entries
          else match RaftFormat.entry.decode v with
            | .error e => .error (logR ⟨⟨0, 0⟩, index⟩ e)
            | .ok entry => readEntries last rest (entries ++ [entry])

/-- The log entries in a range of indexes. -/
def tryGetLogEntries (storage : Sled) (start stop : Bound) :
    Except StorageError (List DbEntry) :=
  readEntries (endIndex stop)
    (rangeFrom storage TREE_RAFT_LOG (Bytes.ofU64 (startIndex start))) []

/-- The last entry of the log and the purge marker. -/
structure LogState where
  lastLogId : Option LogId
  lastPurgedLogId : Option LogId
  deriving DecidableEq

/-- The state of the log. -/
def DbStore.getLogState (store : DbStore) : Except StorageError LogState :=
  match (Keyspace.scan store.storage TREE_RAFT_LOG).getLast? with
  | none => .ok { lastLogId := none, lastPurgedLogId := store.raftStorage.lastPurged }
  | some (_, v) =>
      match RaftFormat.entry.decode v with
      | .error e => .error (logRead e)
      | .ok entry =>
          .ok { lastLogId := some entry.logId, lastPurgedLogId := store.raftStorage.lastPurged }

/-! ## Application -/

namespace DbStore

omit [RaftFormat]

/-- The position up to which the state machine has applied the log, and its membership. -/
def lastAppliedState (store : DbStore) : Option LogId × StoredMembership :=
  (store.stateMachine.lastAppliedLog, store.stateMachine.lastMembership)

variable [RowFormat]

/-- Applies one entry. Its position is recorded before the command runs. -/
def applyEntry (store : DbStore) (entry : DbEntry) :
    Except StorageError DbResponse × DbStore :=
  let sm := { store.stateMachine with lastAppliedLog := some entry.logId }
  match entry.payload with
  | .blank => (.ok { success := true, value := none }, { store with stateMachine := sm })
  | .normal command =>
      match DbStateMachine.apply store.storage command with
      | (.error e, storage) => (.error (smWrite e), { store with storage, stateMachine := sm })
      | (.ok response, storage) => (.ok response, { store with storage, stateMachine := sm })
  | .membership config =>
      let sm := { sm with lastMembership := ⟨some entry.logId, config⟩ }
      (.ok { success := true, value := none }, { store with stateMachine := sm })

/-- The loop of `applyToStateMachine`. It stops at the first entry that fails. -/
def applyLoop (store : DbStore) (responses : List DbResponse) :
    List DbEntry → Except StorageError (List DbResponse) × DbStore
  | [] => (.ok responses, store)
  | entry :: entries =>
      match store.applyEntry entry with
      | (.error e, store) => (.error e, store)
      | (.ok response, store) => applyLoop store (responses ++ [response]) entries

/-- Applies committed entries. -/
def applyToStateMachine (store : DbStore) (entries : List DbEntry) :
    Except StorageError (List DbResponse) × DbStore :=
  applyLoop store [] entries

end DbStore

/-! ## Snapshots -/

/-- The state captured when a snapshot is begun. -/
structure DbSnapshotBuilder where
  lastAppliedLog : Option LogId
  lastMembership : StoredMembership

/-- A snapshot as it is sent to another node. -/
structure Snapshot where
  snapshotMeta : SnapshotMeta
  snapshot : Bytes

/-- Captures the applied state. -/
def DbStore.getSnapshotBuilder (store : DbStore) : DbSnapshotBuilder where
  lastAppliedLog := store.stateMachine.lastAppliedLog
  lastMembership := store.stateMachine.lastMembership

/-- The identifier of a snapshot. -/
def snapshotId : Option LogId → String
  | some logId => s!"snapshot-{logId.leaderId.term}-{logId.index}"
  | none => "snapshot-empty"

/-- The metadata of a snapshot. -/
def DbSnapshotBuilder.snapshotMeta (builder : DbSnapshotBuilder) : SnapshotMeta where
  lastLogId := builder.lastAppliedLog
  lastMembership := builder.lastMembership
  snapshotId := snapshotId builder.lastAppliedLog

/-- The bindings of one collection, as a snapshot lists them. -/
def snapshotTree (storage : Sled) (collection : String) : SnapshotData :=
  (list storage collection [] none).map fun kv => (collection, kv.1, kv.2)

/-- The bindings of several collections, read one after the other. -/
def snapshotTrees (storage : Sled) (collections : List String) : SnapshotData :=
  collections.flatMap (snapshotTree storage)

/-- Builds a snapshot of every state-machine tree. -/
def DbSnapshotBuilder.buildSnapshot (builder : DbSnapshotBuilder) (storage : Sled) : Snapshot where
  snapshotMeta := builder.snapshotMeta
  snapshot := RaftFormat.snapshot.encode (snapshotTrees storage (dataTreeNames storage))

/-- Restores the bindings of a snapshot. -/
def restore (storage : Sled) (data : SnapshotData) : Sled :=
  data.foldl (fun db (collection, key, value) => put db collection key value) storage

/-- Installs a snapshot. -/
def DbStore.installSnapshot (store : DbStore) (snapshotMeta : SnapshotMeta)
    (snapshot : Bytes) : Except StorageError Unit × DbStore :=
  match RaftFormat.snapshot.decode snapshot with
  | .error e =>
      (.error ⟨.snapshot snapshotMeta.lastLogId snapshotMeta.lastMembership.logId
        snapshotMeta.snapshotId, .read, e⟩, store)
  | .ok data =>
      (.ok (),
        { store with
          storage := restore store.storage data
          stateMachine :=
            { lastAppliedLog := snapshotMeta.lastLogId
              lastMembership := snapshotMeta.lastMembership } })

end InfoVulcan.Db
