import InfoVulcan.Custodian.Exclusion
import InfoVulcan.Db.RaftLog
import InfoVulcan.Db.Snapshot

/-!
# The Raft store of the custodian

`CustodianStore` is one embedded database together with the position of the state machine and the
metadata Raft has loaded. The trees, the keys of the metadata, and the way a snapshot lists and
restores bindings are those of the DB service. Applying lock commands does not fail on a database
that holds only lock records (`applyToStateMachine_ok`), and every node holds the locks of the
commands it has applied (`HasApplied.performAll`).
-/

namespace InfoVulcan.Custodian

open Raft

/-- A log entry as Raft stores and replicates it. -/
abbrev CustodianEntry := Entry LockCommand

/-- The JSON formats of what Raft stores. -/
class RaftFormat where
  vote : Codec Vote
  logId : Codec LogId
  entry : Codec CustodianEntry
  snapshot : Codec Db.SnapshotData

/-! ## The store -/

/-- The position of the state machine. Its data is in the database of the store. -/
structure CustodianStateMachine where
  lastAppliedLog : Option LogId
  lastMembership : StoredMembership

/-- A state machine that has applied nothing. -/
def CustodianStateMachine.new : CustodianStateMachine where
  lastAppliedLog := none
  lastMembership := default

/-- Vote and purge marker, as loaded from the database. -/
structure RaftMetadata where
  vote : Option Vote
  lastPurged : Option LogId

/-- The store of a node. -/
structure CustodianStore where
  storage : Sled
  stateMachine : CustodianStateMachine
  raftStorage : RaftMetadata

variable [RaftFormat]

/-- Loads the metadata from the database. -/
def RaftMetadata.new (storage : Sled) : Except String RaftMetadata :=
  match Db.loadOptional RaftFormat.vote (get storage Db.TREE_RAFT_METADATA Db.KEY_VOTE) with
  | .error e => .error e
  | .ok vote =>
      match Db.loadOptional RaftFormat.logId
          (get storage Db.TREE_RAFT_METADATA Db.KEY_LAST_PURGED) with
      | .error e => .error e
      | .ok lastPurged => .ok { vote, lastPurged }

namespace CustodianStore

/-- Opens the store on a database. -/
def new (storage : Sled) : Except String CustodianStore :=
  match RaftMetadata.new storage with
  | .error e => .error e
  | .ok raftStorage => .ok { storage, stateMachine := .new, raftStorage }

/-! ## Vote and log -/

def saveVote (store : CustodianStore) (vote : Vote) : CustodianStore :=
  { store with
    raftStorage := { store.raftStorage with vote := some vote }
    storage := Db.persistOptional RaftFormat.vote store.storage Db.KEY_VOTE (some vote) }

/-- Stores entries under the big-endian bytes of their index, as one batch. -/
def appendToLog (store : CustodianStore) (entries : List CustodianEntry) : CustodianStore :=
  { store with
    storage := Db.batchPut store.storage Db.TREE_RAFT_LOG
      (entries.map fun entry =>
        (Bytes.ofU64 entry.logId.index, RaftFormat.entry.encode entry)) }

omit [RaftFormat] in
/-- Removes all entries from `logId` onwards, inclusive. -/
def deleteConflictLogsSince (store : CustodianStore) (logId : LogId) : CustodianStore :=
  { store with
    storage := Db.batchRemove store.storage Db.TREE_RAFT_LOG
      ((Db.rangeFrom store.storage Db.TREE_RAFT_LOG (Bytes.ofU64 logId.index)).map Prod.fst) }

/-- Removes all entries up to `logId`, inclusive, and records the purge. -/
def purgeLogsUpto (store : CustodianStore) (logId : LogId) : CustodianStore :=
  let storage := Db.batchRemove store.storage Db.TREE_RAFT_LOG
    ((Db.rangeUpTo store.storage Db.TREE_RAFT_LOG (Bytes.ofU64 logId.index)).map Prod.fst)
  { store with
    storage := Db.persistOptional RaftFormat.logId storage Db.KEY_LAST_PURGED (some logId)
    raftStorage := { store.raftStorage with lastPurged := some logId } }

/-! ## Application -/

omit [RaftFormat] in
/-- The position up to which the state machine has applied the log, and its membership. -/
def lastAppliedState (store : CustodianStore) : Option LogId × StoredMembership :=
  (store.stateMachine.lastAppliedLog, store.stateMachine.lastMembership)

section Application

omit [RaftFormat]

variable [Chrono] [LockFormat]

/-- Applies one entry. Its position is recorded before the command runs. -/
def applyEntry (store : CustodianStore) (entry : CustodianEntry) :
    Except Db.StorageError LockResponse × CustodianStore :=
  let sm := { store.stateMachine with lastAppliedLog := some entry.logId }
  match entry.payload with
  | .blank => (.ok .ok, { store with stateMachine := sm })
  | .normal command =>
      match CustodianStateMachine.apply store.storage command with
      | (.error e, storage) => (.error (Db.smWrite e), { store with storage, stateMachine := sm })
      | (.ok response, storage) => (.ok response, { store with storage, stateMachine := sm })
  | .membership config =>
      let sm := { sm with lastMembership := ⟨some entry.logId, config⟩ }
      (.ok .ok, { store with stateMachine := sm })

/-- The loop of `applyToStateMachine`. It stops at the first entry that fails. -/
def applyLoop (store : CustodianStore) (responses : List LockResponse) :
    List CustodianEntry → Except Db.StorageError (List LockResponse) × CustodianStore
  | [] => (.ok responses, store)
  | entry :: entries =>
      match store.applyEntry entry with
      | (.error e, store) => (.error e, store)
      | (.ok response, store) => applyLoop store (responses ++ [response]) entries

/-- Applies committed entries. -/
def applyToStateMachine (store : CustodianStore) (entries : List CustodianEntry) :
    Except Db.StorageError (List LockResponse) × CustodianStore :=
  applyLoop store [] entries

end Application

end CustodianStore

/-! ## Snapshots -/

/-- The state captured when a snapshot is begun. -/
structure CustodianSnapshotBuilder where
  lastAppliedLog : Option LogId
  lastMembership : StoredMembership

omit [RaftFormat] in
/-- Captures the applied state. -/
def CustodianStore.getSnapshotBuilder (store : CustodianStore) : CustodianSnapshotBuilder where
  lastAppliedLog := store.stateMachine.lastAppliedLog
  lastMembership := store.stateMachine.lastMembership

/-- Builds a snapshot of every state-machine tree. -/
def CustodianSnapshotBuilder.buildSnapshot (builder : CustodianSnapshotBuilder)
    (storage : Sled) : Db.Snapshot where
  snapshotMeta :=
    { lastLogId := builder.lastAppliedLog
      lastMembership := builder.lastMembership
      snapshotId := Db.snapshotId builder.lastAppliedLog }
  snapshot := RaftFormat.snapshot.encode (Db.snapshotTrees storage (Db.dataTreeNames storage))

/-- Installs a snapshot. -/
def CustodianStore.installSnapshot (store : CustodianStore) (snapshotMeta : SnapshotMeta)
    (snapshot : Bytes) : Except Db.StorageError Unit × CustodianStore :=
  match RaftFormat.snapshot.decode snapshot with
  | .error e =>
      (.error ⟨.snapshot snapshotMeta.lastLogId snapshotMeta.lastMembership.logId
        snapshotMeta.snapshotId, .read, e⟩, store)
  | .ok data =>
      (.ok (),
        { store with
          storage := Db.restore store.storage data
          stateMachine :=
            { lastAppliedLog := snapshotMeta.lastLogId
              lastMembership := snapshotMeta.lastMembership } })

/-! ## Histories -/

/-- The writes Raft makes to the store of a node, other than installing a snapshot. -/
inductive Operation where
  | saveVote (vote : Vote)
  | appendToLog (entries : List CustodianEntry)
  | deleteConflictLogsSince (logId : LogId)
  | purgeLogsUpto (logId : LogId)
  | applyToStateMachine (entries : List CustodianEntry)

/-- The entries a list of operations applies. -/
def appliedEntries (ops : List Operation) : List CustodianEntry :=
  ops.flatMap fun
    | .applyToStateMachine entries => entries
    | _ => []

/-- The lock commands among the entries, in order. -/
def lockCommands (entries : List CustodianEntry) : List LockCommand :=
  entries.filterMap fun entry =>
    match entry.payload with
    | .normal command => some command
    | _ => none

omit [RaftFormat] in
theorem appliedEntries_append (xs ys : List Operation) :
    appliedEntries (xs ++ ys) = appliedEntries xs ++ appliedEntries ys :=
  List.flatMap_append

omit [RaftFormat] in
theorem lockCommands_append (xs ys : List CustodianEntry) :
    lockCommands (xs ++ ys) = lockCommands xs ++ lockCommands ys :=
  List.filterMap_append

variable [Chrono] [LockFormat]

namespace CustodianStore

/-- The store after an operation. -/
def perform (store : CustodianStore) : Operation → CustodianStore
  | .saveVote vote => store.saveVote vote
  | .appendToLog entries => store.appendToLog entries
  | .deleteConflictLogsSince logId => store.deleteConflictLogsSince logId
  | .purgeLogsUpto logId => store.purgeLogsUpto logId
  | .applyToStateMachine entries => (store.applyToStateMachine entries).2

/-- The store after a list of operations. -/
def performAll (store : CustodianStore) (ops : List Operation) : CustodianStore :=
  ops.foldl perform store

omit [RaftFormat] [Chrono] [LockFormat] in
/-- The store of a new node. -/
def blank : CustodianStore where
  storage := Keyspace.empty
  stateMachine := .new
  raftStorage := ⟨none, none⟩

omit [Chrono] [LockFormat] in
/-- Opening an empty database gives the store of a new node. -/
theorem new_empty : CustodianStore.new Keyspace.empty = .ok blank := by
  simp [CustodianStore.new, RaftMetadata.new, get, Db.loadOptional, blank]

end CustodianStore

/-! ## Answers -/

omit [RaftFormat] [LockFormat] in
/-- The response to a command, given the lock that stands in its way. -/
def lockReply : LockCommand → Option LockInfo → LockResponse
  | _, none => .ok
  | .acquireLock t _ _ _, some held => .refused s!"ticket {t} is locked by {held.userId}"
  | .releaseLock t _, some _ => .refused s!"ticket {t} is held by another user"

omit [RaftFormat] [LockFormat] in
/-- A response tells whether a lock stood in the way. -/
theorem lockReply_success (c : LockCommand) (refusal : Option LockInfo) :
    (lockReply c refusal).success = !refusal.isSome := by
  cases refusal <;> cases c <;> rfl

omit [RaftFormat] in
/-- A lock command on a database that holds a lock table is answered, and refused exactly by the
lock that stands in its way. -/
theorem Holds.apply_reply {table : Lease.Table UInt64 LockInfo} {storage : Sled}
    (h : Holds table storage) (c : LockCommand) :
    (CustodianStateMachine.apply storage c).1 =
      .ok (lockReply c (Lease.refusal lockPolicy table c.toLease)) := by
  have hinfo := h.getLockInfo c.ticketId
  cases c with
  | acquireLock t u atUnix ttlSecs =>
      simp only [LockCommand.ticketId] at hinfo
      cases hheld : table t with
      | none =>
          simp [CustodianStateMachine.apply, hinfo, hheld, LockCommand.toLease, Lease.refusal,
            Lease.step, lockReply]
      | some existing =>
          by_cases hrefuse : existing.userId ≠ u ∧ existing.isExpired atUnix = false
          · have hlease : lockPolicy.holder existing ≠
                lockPolicy.holder (lockRecord t u atUnix ttlSecs) ∧
              lockPolicy.expired existing atUnix = false := hrefuse
            simp only [CustodianStateMachine.apply, hinfo, hheld, LockCommand.toLease,
              Lease.refusal, Lease.step, Lease.Command.resource, if_pos hrefuse, if_pos hlease,
              Bool.false_eq_true, if_false, lockReply]
          · have hlease : ¬ (lockPolicy.holder existing ≠
                lockPolicy.holder (lockRecord t u atUnix ttlSecs) ∧
              lockPolicy.expired existing atUnix = false) := hrefuse
            simp only [CustodianStateMachine.apply, hinfo, hheld, LockCommand.toLease,
              Lease.refusal, Lease.step, if_neg hrefuse, if_neg hlease, if_true, lockReply]
  | releaseLock t u =>
      simp only [LockCommand.ticketId] at hinfo
      cases hheld : table t with
      | none =>
          simp [CustodianStateMachine.apply, hinfo, hheld, LockCommand.toLease, Lease.refusal,
            Lease.step, lockReply]
      | some existing =>
          by_cases hrefuse : existing.userId ≠ u
          · have hlease : lockPolicy.holder existing ≠ u := hrefuse
            simp only [CustodianStateMachine.apply, hinfo, hheld, LockCommand.toLease,
              Lease.refusal, Lease.step, Lease.Command.resource, if_pos hrefuse, if_pos hlease,
              Bool.false_eq_true, if_false, lockReply]
          · have hlease : ¬ lockPolicy.holder existing ≠ u := hrefuse
            simp only [CustodianStateMachine.apply, hinfo, hheld, LockCommand.toLease,
              Lease.refusal, Lease.step, if_neg hrefuse, if_neg hlease, if_true, lockReply]

/-- The responses to a list of entries, read off a lock table. -/
def replies (table : Lease.Table UInt64 LockInfo) : List CustodianEntry → List LockResponse
  | [] => []
  | entry :: entries =>
      match entry.payload with
      | .normal c =>
          lockReply c (Lease.refusal lockPolicy table c.toLease) ::
            replies (Lease.step lockPolicy table c.toLease).2 entries
      | _ => .ok :: replies table entries

omit [RaftFormat] [LockFormat] in
/-- Tables on which the same locks stand in the way answer alike. -/
theorem replies_congr {table table' : Lease.Table UInt64 LockInfo} {entries : List CustodianEntry}
    (h : Lease.refusals lockPolicy table ((lockCommands entries).map LockCommand.toLease) =
      Lease.refusals lockPolicy table' ((lockCommands entries).map LockCommand.toLease)) :
    replies table entries = replies table' entries := by
  induction entries generalizing table table' with
  | nil => rfl
  | cons entry entries ih =>
      rcases entry with ⟨logId, payload⟩
      cases payload with
      | normal c =>
          obtain ⟨hfirst, hrest⟩ := List.cons.inj h
          simp only [replies]
          rw [hfirst, ih hrest]
      | blank => exact congrArg _ (ih h)
      | membership config => exact congrArg _ (ih h)

omit [RaftFormat] [LockFormat] in
/-- Equal answers tell of the same refusals. -/
theorem refused_of_replies {table table' : Lease.Table UInt64 LockInfo}
    {entries : List CustodianEntry} (h : replies table entries = replies table' entries) :
    (Lease.refusals lockPolicy table
        ((lockCommands entries).map LockCommand.toLease)).map Option.isSome =
      (Lease.refusals lockPolicy table'
        ((lockCommands entries).map LockCommand.toLease)).map Option.isSome := by
  induction entries generalizing table table' with
  | nil => rfl
  | cons entry entries ih =>
      rcases entry with ⟨logId, payload⟩
      cases payload with
      | normal c =>
          obtain ⟨hfirst, hrest⟩ := List.cons.inj h
          have hflag := congrArg LockResponse.success hfirst
          rw [lockReply_success, lockReply_success] at hflag
          exact congrArg₂ List.cons (Bool.not_inj hflag) (ih hrest)
      | blank => exact ih (List.cons.inj h).2
      | membership config => exact ih (List.cons.inj h).2

/-- The position of the state machine after one more entry. -/
def CustodianStateMachine.advance (sm : CustodianStateMachine) (entry : CustodianEntry) :
    CustodianStateMachine where
  lastAppliedLog := some entry.logId
  lastMembership :=
    match entry.payload with
    | .membership config => ⟨some entry.logId, config⟩
    | _ => sm.lastMembership

/-- The store after all the entries. -/
def CustodianStore.advance (store : CustodianStore) (entries : List CustodianEntry) :
    CustodianStore :=
  { store with
    storage := applyLocks store.storage (lockCommands entries)
    stateMachine := entries.foldl CustodianStateMachine.advance store.stateMachine }

omit [RaftFormat] in
theorem applyLoop_ok {table : Lease.Table UInt64 LockInfo} {store : CustodianStore}
    (h : Holds table store.storage) (responses : List LockResponse)
    (entries : List CustodianEntry) :
    store.applyLoop responses entries =
      (.ok (responses ++ replies table entries), store.advance entries) := by
  induction entries generalizing table store responses with
  | nil => simp [CustodianStore.applyLoop, replies, CustodianStore.advance, lockCommands,
      applyLocks]
  | cons entry entries ih =>
      have hrest := fun sm => @ih table { store with stateMachine := sm } h
      rcases entry with ⟨logId, payload⟩
      cases payload with
      | normal c =>
          have hreply := h.apply_reply c
          have hnext := (h.apply c).2
          rcases hap : CustodianStateMachine.apply store.storage c with ⟨out, storage⟩
          rw [hap] at hreply hnext
          obtain rfl : out = _ := hreply
          simp only [CustodianStore.applyLoop, CustodianStore.applyEntry, hap]
          rw [ih hnext]
          simp [replies, CustodianStore.advance, lockCommands, applyLocks, hap,
            CustodianStateMachine.advance]
      | blank =>
          simp only [CustodianStore.applyLoop, CustodianStore.applyEntry]
          rw [hrest]
          simp [replies, CustodianStore.advance, lockCommands, CustodianStateMachine.advance]
      | membership config =>
          simp only [CustodianStore.applyLoop, CustodianStore.applyEntry]
          rw [hrest]
          simp [replies, CustodianStore.advance, lockCommands, CustodianStateMachine.advance]

omit [RaftFormat] in
/-- On a database that holds a lock table every batch is answered. -/
theorem applyToStateMachine_ok {table : Lease.Table UInt64 LockInfo} {store : CustodianStore}
    (h : Holds table store.storage) (entries : List CustodianEntry) :
    store.applyToStateMachine entries = (.ok (replies table entries), store.advance entries) :=
  applyLoop_ok h [] entries

/-! ## The state of a node -/

/-- The lock table after the commands of the entries. -/
def leasesAfter (entries : List CustodianEntry) : Lease.Table UInt64 LockInfo :=
  Lease.run lockPolicy (fun _ => none) ((lockCommands entries).map LockCommand.toLease)

/-- The stored vote and purge marker can be decoded. -/
def MetadataReadable (db : Sled) : Prop :=
  (∃ vote : Option Vote,
      db.at? (Db.metadataCell Db.KEY_VOTE) = vote.map RaftFormat.vote.encode) ∧
    ∃ lastPurged : Option LogId,
      db.at? (Db.metadataCell Db.KEY_LAST_PURGED) = lastPurged.map RaftFormat.logId.encode

/-- The node has applied these entries since its store was empty, and nothing but Raft has written
to the metadata. -/
structure HasApplied (store : CustodianStore) (entries : List CustodianEntry) : Prop where
  locks : Holds (leasesAfter entries) store.storage
  metadata : MetadataReadable store.storage

omit [Chrono] [LockFormat] in
/-- Only the metadata tree matters. -/
theorem MetadataReadable.congr {db db' : Sled} (h : MetadataReadable db)
    (hmeta : ∀ key, db'.at? (Db.metadataCell key) = db.at? (Db.metadataCell key)) :
    MetadataReadable db' := by
  obtain ⟨⟨vote, hvote⟩, lastPurged, hpurged⟩ := h
  exact ⟨⟨vote, (hmeta _).trans hvote⟩, lastPurged, (hmeta _).trans hpurged⟩

omit [Chrono] [LockFormat] in
/-- A database with readable metadata can be opened, and the state machine then reports that
nothing has been applied. -/
theorem MetadataReadable.reopen {db : Sled} (h : MetadataReadable db) :
    ∃ raftStorage,
      CustodianStore.new db = .ok { storage := db, stateMachine := .new, raftStorage } := by
  obtain ⟨⟨vote, hvote⟩, lastPurged, hpurged⟩ := h
  refine ⟨⟨vote, lastPurged⟩, ?_⟩
  replace hvote : get db Db.TREE_RAFT_METADATA Db.KEY_VOTE = _ := hvote
  replace hpurged : get db Db.TREE_RAFT_METADATA Db.KEY_LAST_PURGED = _ := hpurged
  rw [CustodianStore.new, RaftMetadata.new, hvote, hpurged]
  cases vote <;> cases lastPurged <;> simp [Db.loadOptional, Except.map]

omit [RaftFormat] in
/-- A lock command writes to the lock tree only. -/
theorem at_apply_outside (storage : Sled) (c : LockCommand) {cell : SledCell}
    (h : cell.space ≠ TREE_LOCKS) :
    (CustodianStateMachine.apply storage c).2.at? cell = storage.at? cell := by
  have hput : ∀ t u atUnix ttlSecs,
      (acquireLockAt storage t u atUnix ttlSecs).at? cell = storage.at? cell := fun t u _ _ =>
    (Keyspace.at_put _ _ _ _).trans (if_neg fun hc => h (congrArg Cell.space hc).symm)
  have hremove : ∀ t, (releaseLock storage t).at? cell = storage.at? cell := fun t =>
    (Keyspace.at_remove _ _ _).trans (if_neg fun hc => h (congrArg Cell.space hc).symm)
  cases c with
  | acquireLock t u atUnix ttlSecs =>
      simp only [CustodianStateMachine.apply]
      split
      · rfl
      · split
        · rfl
        · exact hput _ _ _ _
      · exact hput _ _ _ _
  | releaseLock t u =>
      simp only [CustodianStateMachine.apply]
      split
      · rfl
      · split
        · rfl
        · exact hremove _
      · exact hremove _

omit [RaftFormat] in
theorem at_applyLocks_outside (storage : Sled) (log : List LockCommand) {cell : SledCell}
    (h : cell.space ≠ TREE_LOCKS) : (applyLocks storage log).at? cell = storage.at? cell := by
  induction log generalizing storage with
  | nil => rfl
  | cons c log ih => exact (ih _).trans (at_apply_outside storage c h)

/-- An operation other than applying entries writes to the metadata and log trees only. -/
theorem at_perform_outside (store : CustodianStore) {op : Operation}
    (hop : ∀ entries, op ≠ .applyToStateMachine entries) {c : SledCell}
    (hmeta : c.space ≠ Db.TREE_RAFT_METADATA) (hlog : c.space ≠ Db.TREE_RAFT_LOG) :
    (store.perform op).storage.at? c = store.storage.at? c := by
  cases op with
  | saveVote vote => exact Db.at_persistOptional_outside _ _ _ _ hmeta
  | appendToLog entries => exact Db.at_batchPut_outside _ _ hlog
  | deleteConflictLogsSince logId => exact Db.at_batchRemove_outside _ _ hlog
  | purgeLogsUpto logId =>
      exact (Db.at_persistOptional_outside _ _ _ _ hmeta).trans (Db.at_batchRemove_outside _ _ hlog)
  | applyToStateMachine entries => exact absurd rfl (hop entries)

namespace HasApplied

variable {store : CustodianStore} {entries : List CustodianEntry}

theorem blank : HasApplied CustodianStore.blank [] where
  locks := Holds.empty
  metadata := ⟨⟨none, by simp [CustodianStore.blank]⟩, none, by simp [CustodianStore.blank]⟩

/-- Further entries are applied. -/
theorem advance (h : HasApplied store entries) (batch : List CustodianEntry) :
    HasApplied (store.advance batch) (entries ++ batch) where
  locks := by
    have := h.locks.applyLocks (lockCommands batch)
    rwa [leasesAfter, ← Lease.run_append, ← List.map_append, ← lockCommands_append] at this
  metadata := h.metadata.congr fun key =>
    at_applyLocks_outside _ _ (by decide : Db.TREE_RAFT_METADATA ≠ TREE_LOCKS)

/-- The metadata stays readable when Raft writes it. -/
theorem metadata_perform (h : HasApplied store entries) (op : Operation) :
    MetadataReadable (store.perform op).storage := by
  have htrees : Db.TREE_RAFT_METADATA ≠ Db.TREE_RAFT_LOG := by decide
  have houtside : ∀ db keys, MetadataReadable db →
      MetadataReadable (Db.batchRemove db Db.TREE_RAFT_LOG keys) := fun db keys hdb =>
    hdb.congr fun key => Db.at_batchRemove_outside _ _ htrees
  cases op with
  | saveVote vote =>
      obtain ⟨-, lastPurged, hpurged⟩ := h.metadata
      refine ⟨⟨some vote, (Keyspace.at_put _ _ _ _).trans (if_pos rfl)⟩, lastPurged, ?_⟩
      rw [← hpurged]
      exact (Keyspace.at_put _ _ _ _).trans (if_neg Db.vote_ne_lastPurged)
  | appendToLog batch =>
      exact h.metadata.congr fun key => Db.at_batchPut_outside _ _ htrees
  | deleteConflictLogsSince logId => exact houtside _ _ h.metadata
  | purgeLogsUpto logId =>
      obtain ⟨⟨vote, hvote⟩, -⟩ := houtside store.storage _ h.metadata
      refine ⟨⟨vote, ?_⟩, some logId, (Keyspace.at_put _ _ _ _).trans (if_pos rfl)⟩
      rw [← hvote]
      exact (Keyspace.at_put _ _ _ _).trans (if_neg Db.vote_ne_lastPurged.symm)
  | applyToStateMachine batch =>
      show MetadataReadable (store.applyToStateMachine batch).2.storage
      rw [applyToStateMachine_ok h.locks]
      exact (h.advance batch).metadata

/-- An operation applies its entries, if it has any. -/
theorem perform (h : HasApplied store entries) (op : Operation) :
    HasApplied (store.perform op) (entries ++ appliedEntries [op]) where
  locks := by
    have hraft : (∀ batch, op ≠ .applyToStateMachine batch) →
        Holds (leasesAfter entries) (store.perform op).storage := fun hop t => by
      rw [← h.locks t]
      exact at_perform_outside store hop (by decide : TREE_LOCKS ≠ Db.TREE_RAFT_METADATA)
        (by decide : TREE_LOCKS ≠ Db.TREE_RAFT_LOG)
    cases op with
    | applyToStateMachine batch =>
        show Holds _ (store.applyToStateMachine batch).2.storage
        rw [applyToStateMachine_ok h.locks]
        simpa [appliedEntries] using (h.advance batch).locks
    | saveVote vote => simpa [appliedEntries] using hraft fun _ => nofun
    | appendToLog batch => simpa [appliedEntries] using hraft fun _ => nofun
    | deleteConflictLogsSince logId => simpa [appliedEntries] using hraft fun _ => nofun
    | purgeLogsUpto logId => simpa [appliedEntries] using hraft fun _ => nofun
  metadata := h.metadata_perform op

/-- A node holds the locks of the entries it has applied. -/
theorem performAll (ops : List Operation) :
    HasApplied (CustodianStore.blank.performAll ops) (appliedEntries ops) := by
  induction ops using List.reverseRecOn with
  | nil => exact blank
  | append_singleton ops op ih =>
      have hstep := ih.perform op
      rw [← appliedEntries_append] at hstep
      rw [CustodianStore.performAll, List.foldl_append]
      exact hstep

end HasApplied

end InfoVulcan.Custodian

/-! ## JSON formats -/

namespace InfoVulcan.SerdeJson

open JsonFormat Raft Custodian

/-- A lock command: whether it acquires, and its data. -/
def lockCommand : JsonFormat LockCommand :=
  (variant (fun acquires => if acquires then "AcquireLock" else "ReleaseLock")
    (fun s => if s = "AcquireLock" then some true
      else if s = "ReleaseLock" then some false else none)
    (fun acquires => by cases acquires <;> rfl)
    fun acquires : Bool => show JsonFormat
        (if acquires then UInt64 × Uuid × Int64 × Int64 × Unit else UInt64 × Uuid × Unit) from
      match acquires with
      | true => object "ticket_id" u64 <| field "user_id" Uuid.json <| field "at_unix" i64 <|
          field "ttl_secs" i64 endObject
      | false => object "ticket_id" u64 <| field "user_id" Uuid.json endObject).conv
    (fun
      | .acquireLock t u atUnix ttlSecs => ⟨true, t, u, atUnix, ttlSecs, ()⟩
      | .releaseLock t u => ⟨false, t, u, ()⟩)
    (fun
      | ⟨true, t, u, atUnix, ttlSecs, _⟩ => some (.acquireLock t u atUnix ttlSecs)
      | ⟨false, t, u, _⟩ => some (.releaseLock t u))
    fun c => by cases c <;> rfl

/-- A payload that carries data: a command or a configuration. -/
def loadedPayloadOf {D : Type} (command : JsonFormat D) :
    JsonFormat (Σ normal : Bool, if normal then D else Membership) :=
  variant (fun normal => if normal then "Normal" else "Membership")
    (fun s => if s = "Normal" then some true else if s = "Membership" then some false else none)
    find_payload_kind
    fun normal => match normal with
      | true => command
      | false => membership

def entryPayloadOf {D : Type} (command : JsonFormat D) : JsonFormat (EntryPayload D) :=
  (either (· == 34) (constant 34 [66, 108, 97, 110, 107, 34] quote_ne_close)
    (loadedPayloadOf command) beq_of_render_blank
    fun _ b _ h => by
      obtain rfl := (List.cons.inj h).1
      decide).conv
    (fun
      | .blank => .inl ()
      | .normal command => .inr ⟨true, command⟩
      | .membership config => .inr ⟨false, config⟩)
    (fun
      | .inl _ => some .blank
      | .inr ⟨true, command⟩ => some (.normal command)
      | .inr ⟨false, config⟩ => some (.membership config))
    fun p => by cases p <;> rfl

def custodianEntry : JsonFormat CustodianEntry :=
  (object "log_id" logId <| field "payload" (entryPayloadOf lockCommand) endObject).conv
    (fun e => (e.logId, e.payload, ())) (fun (id, payload, _) => some ⟨id, payload⟩) fun _ => rfl

scoped instance : Custodian.RaftFormat where
  vote := vote.codec
  logId := logId.codec
  entry := custodianEntry.codec
  snapshot := snapshotData.codec

end InfoVulcan.SerdeJson

namespace InfoVulcan.Custodian

open Raft

/-- Lock commands, committed at the indexes `first`, `first + 1`, … of the first term. -/
def committedFrom (first : Nat) (log : List LockCommand) : List CustodianEntry :=
  log.mapIdx fun i c => ⟨⟨⟨1, 1⟩, UInt64.ofNat (first + i)⟩, .normal c⟩

end InfoVulcan.Custodian
