import InfoVulcan.Custodian.Raft
import InfoVulcan.Db.Json

/-!
# The logs of both services

The custodian reads and writes its log as the DB service does. In both, a range of indexes is read
back faithfully, whatever calls have written the log, as long as computing the bounds does not wrap
around to a range that holds entries (`sled_log_faithful_iff`).
-/

namespace InfoVulcan.Custodian

open Raft

variable [RaftFormat]

/-- The log entries in a range of indexes. -/
def tryGetLogEntries (storage : Sled) (start stop : Db.Bound) :
    Except Db.StorageError (List CustodianEntry) :=
  Db.LogTree.read RaftFormat.entry storage start stop

namespace CustodianStore

/-- The store after a call on its log. -/
def logCall (store : CustodianStore) : Db.LogTree.Call LockCommand → CustodianStore
  | .appendToLog entries => store.appendToLog entries
  | .deleteConflictLogsSince logId => store.deleteConflictLogsSince logId
  | .purgeLogsUpto logId => store.purgeLogsUpto logId

/-- The store after a list of calls on its log. -/
def logCalls (store : CustodianStore) (calls : List (Db.LogTree.Call LockCommand)) :
    CustodianStore :=
  calls.foldl logCall store

/-- A call does to the log tree what it does to the log. -/
theorem holds_logCall {log : UInt64 → Option CustodianEntry} {store : CustodianStore}
    (h : Db.LogTree.Holds RaftFormat.entry log store.storage)
    (call : Db.LogTree.Call LockCommand) :
    Db.LogTree.Holds RaftFormat.entry
      (IndexedLog.perform Db.LogTree.index log call.operation) (store.logCall call).storage := by
  have hlog := h.perform call.operation
  cases call with
  | appendToLog entries => exact hlog
  | deleteConflictLogsSince logId => exact hlog
  | purgeLogsUpto logId => exact hlog.persist RaftFormat.logId Db.KEY_LAST_PURGED (some logId)

/-- The log tree after calls on an empty store. -/
theorem holds_logCalls (calls : List (Db.LogTree.Call LockCommand)) :
    Db.LogTree.Holds RaftFormat.entry (Db.LogTree.logAfter calls)
      (blank.logCalls calls).storage :=
  Db.LogTree.Holds.calls CustodianStore.storage logCall .empty
    (fun _ _ call h => holds_logCall h call) calls

end CustodianStore

/-- In both services reading a range gives the entries in it that were last appended and not
removed since, for all calls that have written the log and all ranges, exactly when no bound wraps
around to a range that holds entries. -/
theorem sled_log_faithful_iff [Db.RaftFormat] :
    (∀ (calls : List (Db.LogTree.Call Db.LogEntry)) (start stop : Db.Bound),
      Db.LogTree.ReadsPresent calls start stop
          (Db.tryGetLogEntries (Db.DbStore.blank.logCalls calls).storage start stop) ↔
        Db.LogTree.WrapsHarmlessly calls start stop) ∧
    ∀ (calls : List (Db.LogTree.Call LockCommand)) (start stop : Db.Bound),
      Db.LogTree.ReadsPresent calls start stop
          (tryGetLogEntries (CustodianStore.blank.logCalls calls).storage start stop) ↔
        Db.LogTree.WrapsHarmlessly calls start stop := by
  constructor
  · intro calls start stop
    rw [Db.tryGetLogEntries_eq]
    exact (Db.DbStore.holds_logCalls calls).readsPresent_iff start stop
  · intro calls start stop
    exact (CustodianStore.holds_logCalls calls).readsPresent_iff start stop

end InfoVulcan.Custodian

/-! ## An empty range -/

namespace InfoVulcan.Db

open Raft
open scoped SerdeJson

/-- A log with its first entry. -/
def firstEntry : LogTree.Call LogEntry :=
  .appendToLog [⟨⟨⟨1, 1⟩, 0⟩, .blank⟩]

/-- That entry is read from the empty range before it. -/
theorem empty_range_not_faithful :
    ¬ LogTree.ReadsPresent [firstEntry] (.included 0) (.excluded 0)
      (tryGetLogEntries (DbStore.blank.logCalls [firstEntry]).storage (.included 0)
        (.excluded 0)) := by
  rw [tryGetLogEntries_eq, (DbStore.holds_logCalls [firstEntry]).readsPresent_iff]
  intro hharmless
  have hpresent : LogTree.IsPresent [firstEntry] ⟨⟨⟨1, 1⟩, 0⟩, .blank⟩ :=
    ⟨[], [], [], [], rfl, fun d hd => absurd hd List.not_mem_nil,
      fun op hop => absurd hop List.not_mem_nil⟩
  refine hharmless (Or.inr rfl) _ hpresent ⟨by decide, fun last hlast => ?_⟩
  obtain rfl := Option.some.inj hlast
  decide

end InfoVulcan.Db
