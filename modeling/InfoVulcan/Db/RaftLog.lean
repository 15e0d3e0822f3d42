import InfoVulcan.Db.LogTree

/-!
# What Raft keeps in the database

`RaftState` is what Raft means to keep: a log indexed by position, the saved vote, and the purge
marker. `RaftHolds` relates it to the bytes in Raft's trees. Each operation of the store does to
the trees what it does to that state (`RaftHolds.perform`), and reading the trees gives back the
state: the metadata (`RaftHolds.metadata`), the entries of a range (`RaftHolds.tryGetLogEntries`),
and the last entry (`RaftHolds.getLogState`).
-/

namespace InfoVulcan.Db

open Raft

/-! ## The abstract state -/

/-- Log, vote and purge marker. -/
structure RaftState where
  log : UInt64 → Option DbEntry
  vote : Option Vote
  lastPurged : Option LogId

namespace RaftState

/-- The state of a new node. -/
def initial : RaftState := ⟨fun _ => none, none, none⟩

/-- Stores an entry at its index. -/
def insert (log : UInt64 → Option DbEntry) (entry : DbEntry) : UInt64 → Option DbEntry :=
  Function.update log entry.logId.index (some entry)

/-- The state after an operation. Applying entries does not concern it. -/
def perform (s : RaftState) : Operation → RaftState
  | .saveVote vote => { s with vote := some vote }
  | .appendToLog entries => { s with log := entries.foldl insert s.log }
  | .deleteConflictLogsSince logId =>
      { s with log := fun i => if logId.index ≤ i then none else s.log i }
  | .purgeLogsUpto logId =>
      { s with
        log := fun i => if i ≤ logId.index then none else s.log i
        lastPurged := some logId }
  | .applyToStateMachine _ => s

/-- The state after a list of operations. -/
def performAll (s : RaftState) (ops : List Operation) : RaftState :=
  ops.foldl perform s

end RaftState

/-- Raft's own trees. -/
def raftTrees : List String :=
  [TREE_RAFT_METADATA, TREE_RAFT_STATE, TREE_RAFT_LOG]

/-! ## Representation -/

/-- The cell of a metadata key. -/
def metadataCell (key : Bytes) : SledCell :=
  ⟨TREE_RAFT_METADATA, key⟩

theorem vote_ne_lastPurged : metadataCell KEY_VOTE ≠ metadataCell KEY_LAST_PURGED := by
  simp [metadataCell, KEY_VOTE, KEY_LAST_PURGED]

variable [RaftFormat]

/-- The trees of the database hold the log entries. -/
structure LogHolds (log : UInt64 → Option DbEntry) (db : Sled) : Prop where
  entry : ∀ i, db.at? (logCell i) = (log i).map RaftFormat.entry.encode
  keyed : ∀ key v, db.at? ⟨TREE_RAFT_LOG, key⟩ = some v → ∃ i, key = Bytes.ofU64 i
  index : ∀ i e, log i = some e → e.logId.index = i

/-- The trees of the database hold log, vote and purge marker. -/
structure RaftHolds (s : RaftState) (db : Sled) : Prop where
  log : LogHolds s.log db
  vote : db.at? (metadataCell KEY_VOTE) = s.vote.map RaftFormat.vote.encode
  lastPurged : db.at? (metadataCell KEY_LAST_PURGED) = s.lastPurged.map RaftFormat.logId.encode

/-- The entries of the DB are held like those of any service. -/
theorem logHolds_iff {log : UInt64 → Option DbEntry} {db : Sled} :
    LogHolds log db ↔ LogTree.Holds RaftFormat.entry log db :=
  ⟨fun h => ⟨h.entry, h.keyed, h.index⟩, fun h => ⟨h.entry, h.keyed, h.index⟩⟩

namespace LogHolds

variable {log : UInt64 → Option DbEntry} {db db' : Sled}

/-- Only the log tree matters. -/
theorem congr (h : LogHolds log db)
    (hlog : ∀ key, db'.at? ⟨TREE_RAFT_LOG, key⟩ = db.at? ⟨TREE_RAFT_LOG, key⟩) :
    LogHolds log db' :=
  logHolds_iff.mpr ((logHolds_iff.mp h).congr hlog)

/-- An operation on the log tree. -/
theorem perform (h : LogHolds log db) (op : IndexedLog.Operation UInt64 DbEntry) :
    LogHolds (IndexedLog.perform LogTree.index log op)
      (LogTree.perform RaftFormat.entry db op) :=
  logHolds_iff.mpr ((logHolds_iff.mp h).perform op)

end LogHolds

namespace RaftHolds

variable {s : RaftState} {db db' : Sled}

theorem initial : RaftHolds .initial Keyspace.empty where
  log :=
    { entry := fun i => by simp [RaftState.initial]
      keyed := fun key v hv => by simp at hv
      index := fun i e he => by simp [RaftState.initial] at he }
  vote := by simp [RaftState.initial]
  lastPurged := by simp [RaftState.initial]

/-- Only Raft's trees matter. -/
theorem congr (h : RaftHolds s db)
    (htrees : ∀ c : SledCell, c.space ∈ raftTrees → db'.at? c = db.at? c) : RaftHolds s db' where
  log := h.log.congr fun key => htrees _ (by simp [raftTrees])
  vote := (htrees _ (by simp [metadataCell, raftTrees])).trans h.vote
  lastPurged := (htrees _ (by simp [metadataCell, raftTrees])).trans h.lastPurged

/-- The log changes within its tree. -/
theorem withLog (h : RaftHolds s db) {log : UInt64 → Option DbEntry} (hlog : LogHolds log db')
    (hframe : ∀ c : SledCell, c.space ≠ TREE_RAFT_LOG → db'.at? c = db.at? c) :
    RaftHolds { s with log } db' where
  log := hlog
  vote := (hframe _ (by simp [metadataCell, TREE_RAFT_METADATA, TREE_RAFT_LOG])).trans h.vote
  lastPurged :=
    (hframe _ (by simp [metadataCell, TREE_RAFT_METADATA, TREE_RAFT_LOG])).trans h.lastPurged

/-- Saving a vote. -/
theorem saveVote (h : RaftHolds s db) (vote : Vote) :
    RaftHolds { s with vote := some vote } (persistVote db (some vote)) where
  log := h.log.congr fun key => at_persistOptional_outside _ _ _ _
    (by simp [TREE_RAFT_METADATA, TREE_RAFT_LOG])
  vote := (Keyspace.at_put db _ _ _).trans (if_pos rfl)
  lastPurged := by
    rw [← h.lastPurged]
    exact (Keyspace.at_put db _ _ _).trans (if_neg vote_ne_lastPurged)

/-- Recording a purge. -/
theorem persistLastPurged (h : RaftHolds s db) (logId : LogId) :
    RaftHolds { s with lastPurged := some logId } (persistLastPurged db (some logId)) where
  log := h.log.congr fun key => at_persistOptional_outside _ _ _ _
    (by simp [TREE_RAFT_METADATA, TREE_RAFT_LOG])
  vote := by
    rw [← h.vote]
    exact (Keyspace.at_put db _ _ _).trans (if_neg vote_ne_lastPurged.symm)
  lastPurged := (Keyspace.at_put db _ _ _).trans (if_pos rfl)

end RaftHolds

/-! ## Calls on the log -/

namespace DbStore

/-- The store after a call on its log. -/
def logCall (store : DbStore) : LogTree.Call LogEntry → DbStore
  | .appendToLog entries => store.appendToLog entries
  | .deleteConflictLogsSince logId => store.deleteConflictLogsSince logId
  | .purgeLogsUpto logId => store.purgeLogsUpto logId

/-- The store after a list of calls on its log. -/
def logCalls (store : DbStore) (calls : List (LogTree.Call LogEntry)) : DbStore :=
  calls.foldl logCall store

/-- A call does to the log tree what it does to the log. -/
theorem holds_logCall {log : UInt64 → Option DbEntry} {store : DbStore}
    (h : LogTree.Holds RaftFormat.entry log store.storage) (call : LogTree.Call LogEntry) :
    LogTree.Holds RaftFormat.entry (IndexedLog.perform LogTree.index log call.operation)
      (store.logCall call).storage := by
  have hlog := h.perform call.operation
  cases call with
  | appendToLog entries => exact hlog
  | deleteConflictLogsSince logId => exact hlog
  | purgeLogsUpto logId => exact hlog.persist RaftFormat.logId KEY_LAST_PURGED (some logId)

/-- The log tree after calls on an empty store. -/
theorem holds_logCalls (calls : List (LogTree.Call LogEntry)) :
    LogTree.Holds RaftFormat.entry (LogTree.logAfter calls) (blank.logCalls calls).storage :=
  LogTree.Holds.calls DbStore.storage logCall .empty (fun _ _ call h => holds_logCall h call) calls

end DbStore

/-! ## Operations -/

/-- A store whose metadata in memory and on disk is the state `s`. -/
structure Keeps (s : RaftState) (store : DbStore) : Prop where
  holds : RaftHolds s store.storage
  loaded : store.raftStorage = ⟨s.vote, s.lastPurged⟩

theorem keeps_blank : Keeps .initial DbStore.blank where
  holds := .initial
  loaded := rfl

/-- The state after a call on the log. -/
def RaftState.logCall (s : RaftState) (call : LogTree.Call LogEntry) : RaftState where
  log := IndexedLog.perform LogTree.index s.log call.operation
  vote := s.vote
  lastPurged := call.purged?.or s.lastPurged

/-- A call on the log does to the store what it does to the state. -/
theorem Keeps.logCall {s : RaftState} {store : DbStore} (h : Keeps s store)
    (call : LogTree.Call LogEntry) : Keeps (s.logCall call) (store.logCall call) := by
  have hlog := h.holds.log.perform call.operation
  cases call with
  | appendToLog entries =>
      exact ⟨h.holds.withLog hlog fun c hc => at_batchPut_outside _ _ hc, h.loaded⟩
  | deleteConflictLogsSince logId =>
      exact ⟨h.holds.withLog hlog fun c hc => at_batchRemove_outside _ _ hc, h.loaded⟩
  | purgeLogsUpto logId =>
      refine ⟨(h.holds.withLog hlog fun c hc =>
        at_batchRemove_outside _ _ hc).persistLastPurged logId, ?_⟩
      simp [DbStore.logCall, DbStore.purgeLogsUpto, h.loaded, RaftState.logCall,
        LogTree.Call.purged?]

/-- An operation other than applying entries does to the store what it does to the state. -/
theorem Keeps.perform [RowFormat] {s : RaftState} {store : DbStore} (h : Keeps s store)
    {op : Operation} (hop : ∀ entries, op ≠ .applyToStateMachine entries) :
    Keeps (s.perform op) (store.perform op) := by
  cases op with
  | saveVote vote =>
      exact ⟨h.holds.saveVote vote, by simp [DbStore.perform, DbStore.saveVote, h.loaded,
        RaftState.perform]⟩
  | appendToLog entries => exact h.logCall (.appendToLog entries)
  | deleteConflictLogsSince logId => exact h.logCall (.deleteConflictLogsSince logId)
  | purgeLogsUpto logId => exact h.logCall (.purgeLogsUpto logId)
  | applyToStateMachine entries => exact absurd rfl (hop entries)

/-! ## Reading back -/

/-- Metadata in its cells is loaded. -/
theorem metadata_eq {db : Sled} {vote : Option Vote} {lastPurged : Option LogId}
    (hvote : db.at? (metadataCell KEY_VOTE) = vote.map RaftFormat.vote.encode)
    (hpurged : db.at? (metadataCell KEY_LAST_PURGED) = lastPurged.map RaftFormat.logId.encode) :
    RaftMetadata.new db = .ok ⟨vote, lastPurged⟩ := by
  replace hvote : get db TREE_RAFT_METADATA KEY_VOTE = _ := hvote
  replace hpurged : get db TREE_RAFT_METADATA KEY_LAST_PURGED = _ := hpurged
  rw [RaftMetadata.new, hvote, hpurged]
  cases vote <;> cases lastPurged <;> simp [loadOptional, Except.map]

/-- The metadata loaded from the trees. -/
theorem RaftHolds.metadata {s : RaftState} {db : Sled} (h : RaftHolds s db) :
    RaftMetadata.new db = .ok ⟨s.vote, s.lastPurged⟩ :=
  metadata_eq h.vote h.lastPurged

/-- Entries in strictly ascending index order. -/
def Ordered (entries : List DbEntry) : Prop :=
  entries.Pairwise fun a b => a.logId.index < b.logId.index

/-- The binding of a log entry. -/
def logBinding (e : DbEntry) : Bytes × Bytes :=
  (Bytes.ofU64 e.logId.index, RaftFormat.entry.encode e)

/-- The log tree lists the entries of the log in index order. -/
theorem LogHolds.scan {log : UInt64 → Option DbEntry} {db : Sled} (h : LogHolds log db) :
    ∃ entries, Keyspace.scan db TREE_RAFT_LOG = entries.map logBinding ∧ Ordered entries ∧
      ∀ e, e ∈ entries ↔ log e.logId.index = some e :=
  (logHolds_iff.mp h).scan

/-- The reading loop is that of any service. -/
theorem readEntries_eq (last : Option UInt64) (bindings : List (Bytes × Bytes))
    (acc : List DbEntry) :
    readEntries last bindings acc = LogTree.readEntries RaftFormat.entry last bindings acc := by
  induction bindings generalizing acc with
  | nil => rfl
  | cons kv bindings ih =>
      unfold readEntries LogTree.readEntries
      cases Bytes.toU64? kv.1 with
      | none => rfl
      | some index => cases RaftFormat.entry.decode kv.2 <;> simp [ih]

/-- Reading a range of the log is that of any service. -/
theorem tryGetLogEntries_eq (storage : Sled) (start stop : Bound) :
    tryGetLogEntries storage start stop = LogTree.read RaftFormat.entry storage start stop :=
  readEntries_eq _ _ _

/-- The entries of a log in a range of indexes. -/
def InRange (log : UInt64 → Option DbEntry) (start stop : Bound) (e : DbEntry) : Prop :=
  log e.logId.index = some e ∧ startIndex start ≤ e.logId.index ∧
    ∀ last ∈ endIndex stop, e.logId.index ≤ last

/-- Reading a range gives the entries of the log in that range, in index order. -/
theorem LogHolds.tryGetLogEntries {log : UInt64 → Option DbEntry} {db : Sled}
    (h : LogHolds log db) (start stop : Bound) :
    ∃ entries, tryGetLogEntries db start stop = .ok entries ∧ Ordered entries ∧
      ∀ e, e ∈ entries ↔ InRange log start stop e := by
  rw [tryGetLogEntries_eq]
  exact (logHolds_iff.mp h).read start stop

/-- The log id is that of the last entry, and absent when the log is empty. -/
def IsLast (log : UInt64 → Option DbEntry) : Option LogId → Prop
  | none => ∀ i, log i = none
  | some logId => ∃ e, log e.logId.index = some e ∧ e.logId = logId ∧
      ∀ i d, log i = some d → i ≤ logId.index

/-- The state of the log that is reported. -/
theorem Keeps.getLogState {s : RaftState} {store : DbStore} (h : Keeps s store) :
    ∃ lastLogId, store.getLogState = .ok ⟨lastLogId, s.lastPurged⟩ ∧ IsLast s.log lastLogId := by
  obtain ⟨all, hscan, hordered, hmem⟩ := h.holds.log.scan
  rw [DbStore.getLogState, hscan, List.getLast?_map, h.loaded]
  rcases List.eq_nil_or_concat all with rfl | ⟨init, e, rfl⟩
  · refine ⟨none, rfl, fun i => ?_⟩
    by_contra hne
    obtain ⟨e, he⟩ := Option.ne_none_iff_exists'.mp hne
    have := (hmem e).mpr (by rw [h.holds.log.index i e he]; exact he)
    cases this
  · refine ⟨some e.logId, by simp [logBinding], e, (hmem e).mp (by simp), rfl, ?_⟩
    intro i d hd
    have hindex := h.holds.log.index i d hd
    have hall : d ∈ init ++ [e] := by
      simpa using (hmem d).mpr (by rw [hindex]; exact hd)
    rcases List.mem_append.mp hall with hin | hlast
    · have hlt := (List.pairwise_append.mp (by simpa [Ordered] using hordered)).2.2 d hin e
        List.mem_cons_self
      rw [hindex] at hlt
      exact UInt64.le_of_lt hlt
    · obtain rfl := List.mem_singleton.mp hlast
      rw [hindex]
      exact UInt64.le_refl _

end InfoVulcan.Db
