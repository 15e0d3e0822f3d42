import InfoVulcan.Custodian.RaftLog
import InfoVulcan.Db.Purge

/-!
# Interrupted purges of both services

The DB service and the custodian purge their logs alike, and load the purge point when they are
opened. A purge that a crash cuts off between its durable writes loses the entries it has removed:
the node that is reopened finds them neither in the log nor below its purge point. It finds no hole
only if the purge point recorded before covers what was removed (`interrupted_purge_iff`).
-/

namespace InfoVulcan

open Raft

namespace Db

variable [RaftFormat]

/-- The formats in which the DB service keeps log, vote and purge point. -/
def raftFormats : LogTree.Formats LogEntry where
  entry := RaftFormat.entry
  vote := RaftFormat.vote
  logId := RaftFormat.logId

/-- The purge point of a store that is opened on a database. -/
def reloadLastPurged (db : Sled) : Except String (Option LogId) :=
  (DbStore.new db).map fun store => store.raftStorage.lastPurged

/-- Opening a store loads the purge point. -/
theorem reloadLastPurged_eq {log : UInt64 → Option DbEntry} {vote : Option Vote}
    {lastPurged : Option LogId} {db : Sled} (h : raftFormats.Holds log vote lastPurged db) :
    reloadLastPurged db = .ok lastPurged := by
  rw [reloadLastPurged, DbStore.new, metadata_eq h.vote h.lastPurged]
  rfl

/-- The last cut point of a purge is the database after it. -/
theorem purgePoints_last (store : DbStore) (logId : LogId) :
    (LogTree.purgePoints raftFormats store.storage logId).getLast? =
      some (store.purgeLogsUpto logId).storage :=
  rfl

/-- A store that keeps a state holds it in the formats of the service. -/
theorem Keeps.raftFormats {s : RaftState} {store : DbStore} (h : Keeps s store) :
    Db.raftFormats.Holds s.log s.vote s.lastPurged store.storage where
  log := logHolds_iff.mp h.holds.log
  vote := h.holds.vote
  lastPurged := h.holds.lastPurged

end Db

namespace Custodian

variable [RaftFormat]

/-- The formats in which the custodian keeps log, vote and purge point. -/
def raftFormats : Db.LogTree.Formats LockCommand where
  entry := RaftFormat.entry
  vote := RaftFormat.vote
  logId := RaftFormat.logId

/-- The purge point of a store that is opened on a database. -/
def reloadLastPurged (db : Sled) : Except String (Option LogId) :=
  (CustodianStore.new db).map fun store => store.raftStorage.lastPurged

/-- Opening a store loads the purge point. -/
theorem reloadLastPurged_eq {log : UInt64 → Option CustodianEntry} {vote : Option Vote}
    {lastPurged : Option LogId} {db : Sled} (h : raftFormats.Holds log vote lastPurged db) :
    reloadLastPurged db = .ok lastPurged := by
  have hvote : get db Db.TREE_RAFT_METADATA Db.KEY_VOTE = _ := h.vote
  have hpurged : get db Db.TREE_RAFT_METADATA Db.KEY_LAST_PURGED = _ := h.lastPurged
  rw [reloadLastPurged, CustodianStore.new, RaftMetadata.new, hvote, hpurged]
  cases vote <;> cases lastPurged <;> simp [Db.loadOptional, Except.map, raftFormats]

/-- The last cut point of a purge is the database after it. -/
theorem purgePoints_last (store : CustodianStore) (logId : LogId) :
    (Db.LogTree.purgePoints raftFormats store.storage logId).getLast? =
      some (store.purgeLogsUpto logId).storage :=
  rfl

/-- In both services, wherever a purge of a contiguous log is cut off, the node that is reopened
finds a log without a hole, exactly when the purge point recorded before covers the entries that the
purge removes. -/
theorem interrupted_purge_iff [Db.RaftFormat] :
    (∀ log vote lastPurged db, Db.raftFormats.Holds log vote lastPurged db →
      Db.LogTree.Contiguous log → ∀ logId,
        (∀ point ∈ Db.LogTree.purgePoints Db.raftFormats db logId,
          Db.LogTree.ReopensWithoutHole Db.raftFormats Db.reloadLastPurged log point) ↔
        Db.LogTree.CoveredBefore log lastPurged logId) ∧
    ∀ log vote lastPurged db, raftFormats.Holds log vote lastPurged db →
      Db.LogTree.Contiguous log → ∀ logId,
        (∀ point ∈ Db.LogTree.purgePoints raftFormats db logId,
          Db.LogTree.ReopensWithoutHole raftFormats reloadLastPurged log point) ↔
        Db.LogTree.CoveredBefore log lastPurged logId := by
  constructor
  · intro log vote lastPurged db h hcontiguous logId
    exact Db.LogTree.reopensWithoutHole_iff (fun _ _ _ _ => Db.reloadLastPurged_eq) h
      hcontiguous logId
  · intro log vote lastPurged db h hcontiguous logId
    exact Db.LogTree.reopensWithoutHole_iff (fun _ _ _ _ => reloadLastPurged_eq) h
      hcontiguous logId

end Custodian

end InfoVulcan

/-! ## A log of two entries -/

namespace InfoVulcan.Db

open Raft
open scoped SerdeJson

/-- A log with two entries, at the indexes five and six. -/
def fifthAndSixth : LogTree.Call LogEntry :=
  .appendToLog [⟨⟨⟨1, 1⟩, 5⟩, .blank⟩, ⟨⟨⟨1, 1⟩, 6⟩, .blank⟩]

theorem fifthAndSixth_present {i : UInt64} :
    (RaftState.initial.logCall fifthAndSixth).log i ≠ none ↔ i = 5 ∨ i = 6 := by
  have hvalue : (RaftState.initial.logCall fifthAndSixth).log i =
      if i = 6 then some ⟨⟨⟨1, 1⟩, 6⟩, .blank⟩ else
        if i = 5 then some ⟨⟨⟨1, 1⟩, 5⟩, .blank⟩ else none := by
    rw [← Function.update_apply (fun _ => (none : Option DbEntry)),
      ← Function.update_apply (Function.update (fun _ => (none : Option DbEntry)) 5 _)]
    rfl
  rw [hvalue]
  split
  next h => simp [h]
  next hsix =>
    split
    next h => simp [h]
    next hfive => simp [hsix, hfive]

theorem fifthAndSixth_contiguous :
    LogTree.Contiguous (RaftState.initial.logCall fifthAndSixth).log := by
  intro i j k hi hk hij hjk
  rw [fifthAndSixth_present] at hi hk ⊢
  have hlow : (5 : UInt64) ≤ j := by
    rcases hi with rfl | rfl
    · exact hij
    · exact UInt64.le_trans (by decide) hij
  have hhigh : j ≤ (6 : UInt64) := by
    rcases hk with rfl | rfl
    · exact UInt64.le_trans hjk (by decide)
    · exact hjk
  rw [UInt64.le_iff_toNat_le] at hlow hhigh
  rw [← UInt64.toNat_inj, ← UInt64.toNat_inj]
  have hfive : (5 : UInt64).toNat = 5 := rfl
  have hsix : (6 : UInt64).toNat = 6 := rfl
  omega

/-- A purge that ends before these entries can be interrupted. -/
theorem interrupted_purge_before :
    ∀ point ∈ LogTree.purgePoints raftFormats (DbStore.blank.logCall fifthAndSixth).storage
        ⟨⟨1, 1⟩, 3⟩,
      LogTree.ReopensWithoutHole raftFormats reloadLastPurged
        (RaftState.initial.logCall fifthAndSixth).log point := by
  refine (Custodian.interrupted_purge_iff.1 _ _ _ _
    (keeps_blank.logCall fifthAndSixth).raftFormats fifthAndSixth_contiguous
    ⟨⟨1, 1⟩, 3⟩).mpr fun i hi hle => ?_
  rcases fifthAndSixth_present.mp hi with rfl | rfl
  · exact absurd hle (by decide)
  · exact absurd hle (by decide)

/-- A purge of the first of them that is interrupted loses it. -/
theorem interrupted_purge_loses :
    ¬ ∀ point ∈ LogTree.purgePoints raftFormats (DbStore.blank.logCall fifthAndSixth).storage
        ⟨⟨1, 1⟩, 5⟩,
      LogTree.ReopensWithoutHole raftFormats reloadLastPurged
        (RaftState.initial.logCall fifthAndSixth).log point := by
  rw [LogTree.reopensWithoutHole_iff (fun _ _ _ _ => reloadLastPurged_eq)
    (keeps_blank.logCall fifthAndSixth).raftFormats fifthAndSixth_contiguous]
  intro hcovered
  obtain ⟨old, hold, -⟩ :=
    hcovered 5 (fifthAndSixth_present.mpr (Or.inl rfl)) (UInt64.le_refl _)
  cases hold

end InfoVulcan.Db
