import InfoVulcan.Custodian.Restart

/-!
# Locks after a snapshot

Installing a snapshot adds the sender's lock records to those of the receiver. A lock that has
been released on the sender and not taken again is therefore still on the receiver's record
(`holds_restore`), and decides commands there. The two nodes agree on a continuation of the log
exactly when its first command on such a ticket is one that ends the stale lock
(`agree_after_snapshot_iff`).
-/

namespace InfoVulcan.Custodian

open Raft

variable [Chrono] [LockFormat]

/-! ## Batches -/

namespace CustodianStore

/-- Applies batches of committed entries, one call after the other, and collects the responses. -/
def applyBatches (store : CustodianStore) (responses : List LockResponse) :
    List (List CustodianEntry) → Except Db.StorageError (List LockResponse) × CustodianStore
  | [] => (.ok responses, store)
  | batch :: batches =>
      match store.applyToStateMachine batch with
      | (.error e, store) => (.error e, store)
      | (.ok more, store) => applyBatches store (responses ++ more) batches

end CustodianStore

omit [LockFormat] in
theorem replies_append (table : Lease.Table UInt64 LockInfo) (xs ys : List CustodianEntry) :
    replies table (xs ++ ys) = replies table xs ++
      replies (Lease.run lockPolicy table ((lockCommands xs).map LockCommand.toLease)) ys := by
  induction xs generalizing table with
  | nil => rfl
  | cons entry xs ih =>
      rcases entry with ⟨logId, payload⟩
      cases payload with
      | normal c => exact congrArg _ (ih _)
      | blank => exact congrArg _ (ih table)
      | membership config => exact congrArg _ (ih table)

theorem advance_append (store : CustodianStore) (xs ys : List CustodianEntry) :
    store.advance (xs ++ ys) = (store.advance xs).advance ys := by
  simp [CustodianStore.advance, lockCommands_append, applyLocks, List.foldl_append]

/-- How a list of entries is cut into batches makes no difference. -/
theorem applyBatches_ok {table : Lease.Table UInt64 LockInfo} {store : CustodianStore}
    (h : Holds table store.storage) (responses : List LockResponse)
    (batches : List (List CustodianEntry)) :
    store.applyBatches responses batches =
      (.ok (responses ++ replies table batches.flatten), store.advance batches.flatten) := by
  induction batches generalizing table store responses with
  | nil => simp [CustodianStore.applyBatches, replies, CustodianStore.advance, lockCommands,
      applyLocks]
  | cons batch batches ih =>
      have hnext : Holds _ (store.advance batch).storage := h.applyLocks (lockCommands batch)
      rw [CustodianStore.applyBatches, applyToStateMachine_ok h]
      simp only
      rw [ih hnext, List.flatten_cons, replies_append, advance_append, List.append_assoc]

/-! ## Catching up -/

variable [RaftFormat]

omit [RaftFormat] in
/-- A receiver that installs the sender's snapshot has the sender's locks, and its own on the
tickets that are free on the sender. -/
theorem holds_restore {sender receiver : Sled} {sent received : Lease.Table UInt64 LockInfo}
    (hsent : Holds sent sender) (hreceived : Holds received receiver) :
    Holds (fun t => (sent t).or (received t))
      (Db.restore receiver (Db.snapshotTrees sender (Db.dataTreeNames sender))) := by
  intro t
  have hdata : Db.IsData ⟨TREE_LOCKS, Bytes.ofU64 t⟩ := (by decide : TREE_LOCKS ∉ Db.skippedTrees)
  refine (Db.at_restore (fun c v => Db.mem_snapshotTrees) receiver _).trans ?_
  have hsender : sender.at? ⟨TREE_LOCKS, Bytes.ofU64 t⟩ = _ := hsent t
  have hreceiver : receiver.at? ⟨TREE_LOCKS, Bytes.ofU64 t⟩ = _ := hreceived t
  rw [hsender, hreceiver]
  cases hlock : sent t <;> simp [hdata, hlock]

/-- The follower installs the leader's snapshot, and then both apply the entries, each in batches of
its own: they answer every entry alike, and end up with the same lock record for every ticket. -/
def AgreeAfterSnapshot (leader follower : CustodianStore) (entries : List CustodianEntry) : Prop :=
  let sent := leader.getSnapshotBuilder.buildSnapshot leader.storage
  ∃ caughtUp, follower.installSnapshot sent.snapshotMeta sent.snapshot = (.ok (), caughtUp) ∧
    ∀ batches batches', batches.flatten = entries → batches'.flatten = entries →
      ∃ responses final final',
        leader.applyBatches [] batches = (.ok responses, final) ∧
        caughtUp.applyBatches [] batches' = (.ok responses, final') ∧
        ∀ t, getLockInfo final'.storage t = getLockInfo final.storage t

/-- For every ticket that is locked after the log `received` and free after the log `sent`, the
first command on the ticket is one that may end that lock. -/
def StaleLocksEnded (sent received log : List LockCommand) : Prop :=
  ∀ t lock, getLockInfo (applyLocks Keyspace.empty sent) t = .ok none →
    getLockInfo (applyLocks Keyspace.empty received) t = .ok (some lock) →
    ∃ c, log.find? (fun c => decide (c.ticketId = t)) = some c ∧ c.MayEnd t lock

omit [RaftFormat] in
/-- The same condition in terms of leases. -/
theorem staleLocksEnded_iff {sent received : List Operation} {log : List LockCommand} :
    StaleLocksEnded (lockCommands (appliedEntries sent)) (lockCommands (appliedEntries received))
        log ↔
      Lease.StaleEnded lockPolicy (leasesAfter (appliedEntries sent))
        (fun t => (leasesAfter (appliedEntries sent) t).or
          (leasesAfter (appliedEntries received) t))
        (log.map LockCommand.toLease) := by
  refine forall₂_congr fun t lock => ?_
  rw [(holds_applyLocks _).getLockInfo, (holds_applyLocks _).getLockInfo, Except.ok.injEq,
    Except.ok.injEq]
  refine imp_congr_right fun hfree => ?_
  have hfree' : leasesAfter (appliedEntries sent) t = none := hfree
  simp only [hfree', Option.none_or]
  refine imp_congr Iff.rfl ?_
  rw [List.find?_map]
  constructor
  · rintro ⟨c, hfind, hends⟩
    refine ⟨c.toLease, ?_, (closes_iff_mayEnd t lock c).mpr hends⟩
    simp only [Function.comp_def, toLease_resource, hfind, Option.map_some]
  · rintro ⟨d, hfind, hcloses⟩
    simp only [Function.comp_def, toLease_resource, Option.map_eq_some_iff] at hfind
    obtain ⟨c, hfind, rfl⟩ := hfind
    exact ⟨c, hfind, (closes_iff_mayEnd t lock c).mp hcloses⟩

/-- The follower after it has installed the leader's snapshot. -/
def CustodianStore.caughtUp (leader follower : CustodianStore) : CustodianStore :=
  { follower with
    storage := Db.restore follower.storage
      (Db.snapshotTrees leader.storage (Db.dataTreeNames leader.storage))
    stateMachine :=
      { lastAppliedLog := leader.stateMachine.lastAppliedLog
        lastMembership := leader.stateMachine.lastMembership } }

omit [Chrono] [LockFormat] in
/-- A snapshot is installed as it was taken. -/
theorem installSnapshot_eq (leader follower : CustodianStore) :
    follower.installSnapshot (leader.getSnapshotBuilder.buildSnapshot leader.storage).snapshotMeta
        (leader.getSnapshotBuilder.buildSnapshot leader.storage).snapshot =
      (.ok (), leader.caughtUp follower) := by
  simp only [CustodianSnapshotBuilder.buildSnapshot, CustodianStore.installSnapshot,
    Codec.decode_encode]
  rfl

section Nodes

variable {sent received : List Operation} {entries : List CustodianEntry}

/-- The locks of a node that has caught up. -/
theorem holds_caughtUp (sent received : List Operation) :
    Holds (fun t => (leasesAfter (appliedEntries sent) t).or
        (leasesAfter (appliedEntries received) t))
      ((CustodianStore.blank.performAll sent).caughtUp
        (CustodianStore.blank.performAll received)).storage :=
  holds_restore (HasApplied.performAll sent).locks (HasApplied.performAll received).locks

omit [LockFormat] [RaftFormat] in
/-- A node that has caught up has every lock of the sender. -/
theorem caughtUp_has_locks (current received : Lease.Table UInt64 LockInfo) (t : UInt64)
    (lock : LockInfo) (h : current t = some lock) : (current t).or (received t) = some lock := by
  rw [h, Option.some_or]

/-- Nodes that agree have had the stale locks ended. -/
theorem AgreeAfterSnapshot.staleLocksEnded
    (h : AgreeAfterSnapshot (CustodianStore.blank.performAll sent)
      (CustodianStore.blank.performAll received) entries) :
    StaleLocksEnded (lockCommands (appliedEntries sent)) (lockCommands (appliedEntries received))
      (lockCommands entries) := by
  rw [staleLocksEnded_iff]
  have hleader := (HasApplied.performAll sent).locks
  have hfollower := holds_caughtUp sent received
  obtain ⟨caughtUp, hinstall, hagree⟩ := h
  rw [installSnapshot_eq] at hinstall
  obtain rfl := (Prod.mk.inj hinstall).2
  obtain ⟨responses, final, final', hok, hok', hsame⟩ :=
    hagree [entries] [entries] (by simp) (by simp)
  rw [applyBatches_ok hleader] at hok
  rw [applyBatches_ok hfollower] at hok'
  obtain ⟨hresponses, rfl⟩ := Prod.mk.inj hok
  obtain ⟨hresponses', rfl⟩ := Prod.mk.inj hok'
  simp only [List.nil_append, List.flatten_singleton] at hresponses hresponses' hsame
  refine Lease.staleEnded_of_agree (caughtUp_has_locks _ _) (refused_of_replies ?_)
    (funext fun t => ?_)
  · exact (Except.ok.inj hresponses').trans (Except.ok.inj hresponses).symm
  · have hrecord := hsame t
    rw [CustodianStore.advance, CustodianStore.advance,
      (hfollower.applyLocks (lockCommands entries)).getLockInfo,
      (hleader.applyLocks (lockCommands entries)).getLockInfo] at hrecord
    exact Except.ok.inj hrecord

/-- Nodes agree once the stale locks are ended. -/
theorem StaleLocksEnded.agreeAfterSnapshot
    (h : StaleLocksEnded (lockCommands (appliedEntries sent))
      (lockCommands (appliedEntries received)) (lockCommands entries)) :
    AgreeAfterSnapshot (CustodianStore.blank.performAll sent)
      (CustodianStore.blank.performAll received) entries := by
  rw [staleLocksEnded_iff] at h
  have hleader := (HasApplied.performAll sent).locks
  have hfollower := holds_caughtUp sent received
  obtain ⟨hrefusals, hrun⟩ := Lease.agree_of_staleEnded (caughtUp_has_locks _ _) h
  refine ⟨_, installSnapshot_eq _ _, fun batches batches' hbatches hbatches' => ?_⟩
  have hok := applyBatches_ok hleader [] batches
  have hok' := applyBatches_ok hfollower [] batches'
  rw [hbatches] at hok
  rw [hbatches', replies_congr hrefusals] at hok'
  refine ⟨_, _, _, hok, hok', fun t => ?_⟩
  rw [CustodianStore.advance, CustodianStore.advance,
    (hfollower.applyLocks (lockCommands entries)).getLockInfo,
    (hleader.applyLocks (lockCommands entries)).getLockInfo, hrun]

end Nodes

/-- After a snapshot the nodes agree exactly when the first command on every ticket with a stale
lock may end that lock. What the follower has applied may be anything, in particular a prefix of
the leader's log. -/
theorem agree_after_snapshot_iff (sent received : List Operation) (entries : List CustodianEntry) :
    AgreeAfterSnapshot (CustodianStore.blank.performAll sent)
        (CustodianStore.blank.performAll received) entries ↔
      StaleLocksEnded (lockCommands (appliedEntries sent)) (lockCommands (appliedEntries received))
        (lockCommands entries) :=
  ⟨AgreeAfterSnapshot.staleLocksEnded, StaleLocksEnded.agreeAfterSnapshot⟩

end InfoVulcan.Custodian

/-! ## A run on the JSON formats -/

namespace InfoVulcan.Custodian

open scoped SerdeJson

/-- A lock that was given back on the leader only is still on record on the follower after the
snapshot. -/
theorem released_lock_survives_snapshot :
    ¬ AgreeAfterSnapshot
      (CustodianStore.blank.performAll [.applyToStateMachine
        (committedFrom 1 [.acquireLock 7 ⟨1⟩ 100 0, .releaseLock 7 ⟨1⟩])])
      (CustodianStore.blank.performAll [.applyToStateMachine
        (committedFrom 1 [.acquireLock 7 ⟨1⟩ 100 0])])
      (committedFrom 3 [.acquireLock 7 ⟨2⟩ 101 0]) := by
  intro hagree
  obtain ⟨c, hfind, hends⟩ := hagree.staleLocksEnded 7
    (lockRecord 7 ⟨1⟩ 100 0) ((holds_applyLocks _).getLockInfo 7)
    ((holds_applyLocks _).getLockInfo 7)
  obtain rfl : c = .acquireLock 7 ⟨2⟩ 101 0 := (Option.some.inj hfind).symm
  obtain ⟨-, huser | hexpired⟩ := hends
  · exact absurd huser (by decide)
  · exact absurd hexpired (by decide)

end InfoVulcan.Custodian
