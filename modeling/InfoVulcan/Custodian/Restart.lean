import InfoVulcan.Custodian.Raft

/-!
# Locks across a restart of the custodian

The lock records are on disk, the position of the state machine is not: a reopened store reports
that it has applied nothing, so the whole log runs again on the records it has left. A refusal may
then turn into a success, because the last holder of a ticket is on record from the start. The
locks survive exactly when every acquisition that gave a lock on record is let through again
(`locks_survive_restart_iff`).
-/

namespace InfoVulcan.Custodian

open Raft

variable [Chrono]

/-- The command may end a lock on a ticket: it releases the lock for its holder, or acquires the
ticket for the holder or after the expiry. -/
def LockCommand.MayEnd (t : UInt64) (lock : LockInfo) : LockCommand → Prop
  | .acquireLock t' u now _ => t' = t ∧ (u = lock.userId ∨ lock.isExpired now = true)
  | .releaseLock t' u => t' = t ∧ u = lock.userId

theorem closes_iff_mayEnd (t : UInt64) (lock : LockInfo) (c : LockCommand) :
    Lease.closes lockPolicy t lock c.toLease ↔ c.MayEnd t lock := by
  cases c <;> rfl

/-- The entries that are applied again after a restart: those whose log id is greater than the
last applied one. -/
def entriesToReapply (lastApplied : Option LogId) (log : List CustodianEntry) :
    List CustodianEntry :=
  log.filter fun entry => !decide (AtLeast lastApplied (some entry.logId))

variable [LockFormat]

/-- After the log the ticket is locked by the acquisition that follows `pre`: no later command may
have ended that lock. -/
structure LockedBy (log pre : List LockCommand) (t : UInt64) (u : Uuid) (atUnix ttlSecs : Int64) :
    Prop where
  split : ∃ post, log = pre ++ .acquireLock t u atUnix ttlSecs :: post ∧
    ∀ c ∈ post, ¬ c.MayEnd t (lockRecord t u atUnix ttlSecs)
  locked : RecordIs (applyLocks Keyspace.empty log) t u atUnix ttlSecs

/-- Every acquisition that gave a lock on record finds its ticket free, or under a lock it may end,
when the commands before it run on the locks that are on record after the log. -/
def Reacquirable (log : List LockCommand) : Prop :=
  ∀ pre t u atUnix ttlSecs, LockedBy log pre t u atUnix ttlSecs → ∀ held,
    getLockInfo (applyLocks (applyLocks Keyspace.empty log) pre) t = .ok (some held) →
    LockCommand.MayEnd t held (.acquireLock t u atUnix ttlSecs)

/-- The lock table after a log, as leases. -/
theorem holds_applyLocks (log : List LockCommand) :
    Holds (Lease.run lockPolicy (fun _ => none) (log.map LockCommand.toLease))
      (applyLocks Keyspace.empty log) :=
  Holds.empty.applyLocks log

/-- The acquisition that gave a lock on record gave its lease. -/
theorem LockedBy.grants {log pre : List LockCommand} {t : UInt64} {u : Uuid}
    {atUnix ttlSecs : Int64} (h : LockedBy log pre t u atUnix ttlSecs) :
    Lease.Grants lockPolicy (log.map LockCommand.toLease) (pre.map LockCommand.toLease) t
      (lockRecord t u atUnix ttlSecs) atUnix where
  split := by
    obtain ⟨post, rfl, hpost⟩ := h.split
    refine ⟨post.map LockCommand.toLease, by rw [List.map_append]; rfl, fun d hd => ?_⟩
    obtain ⟨c, hc, rfl⟩ := List.mem_map.mp hd
    rw [closes_iff_mayEnd]
    exact hpost c hc
  held := by
    have hlocked := h.locked
    rw [RecordIs, (holds_applyLocks log).getLockInfo] at hlocked
    exact Except.ok.inj hlocked

/-- The acquisition that gave a lease on record gave its lock. -/
theorem exists_lockedBy {log : List LockCommand}
    {pre : List (Lease.Command UInt64 Uuid LockInfo Int64)} {t : UInt64} {lock : LockInfo}
    {now : Int64}
    (h : Lease.Grants lockPolicy (log.map LockCommand.toLease) pre t lock now) :
    ∃ pre' u ttlSecs, pre = pre'.map LockCommand.toLease ∧ lock = lockRecord t u now ttlSecs ∧
      LockedBy log pre' t u now ttlSecs := by
  obtain ⟨post, hsplit, hpost⟩ := h.split
  obtain ⟨pre', tail, rfl, rfl, htail⟩ := List.map_eq_append_iff.mp hsplit
  obtain ⟨c, post', rfl, hc, rfl⟩ := List.map_eq_cons_iff.mp htail
  cases c with
  | releaseLock t' u => cases hc
  | acquireLock t' u atUnix ttlSecs =>
      obtain ⟨rfl, rfl, rfl⟩ := Lease.Command.acquire.inj hc
      refine ⟨pre', u, ttlSecs, rfl, rfl, ⟨post', rfl, fun d hd => ?_⟩, ?_⟩
      · rw [← closes_iff_mayEnd]
        exact hpost _ (List.mem_map_of_mem hd)
      · rw [RecordIs, (holds_applyLocks _).getLockInfo, h.held]

/-- The acquisitions are let through again exactly when the leases are granted again. -/
theorem reacquirable_iff {log : List LockCommand} :
    Reacquirable log ↔ Lease.Regranted lockPolicy (log.map LockCommand.toLease) := by
  have hagain : ∀ pre t, getLockInfo (applyLocks (applyLocks Keyspace.empty log) pre) t =
      .ok (Lease.run lockPolicy
        (Lease.run lockPolicy (fun _ => none) (log.map LockCommand.toLease))
        (pre.map LockCommand.toLease) t) := fun pre t =>
    ((holds_applyLocks log).applyLocks pre).getLockInfo t
  constructor
  · intro h pre t lock now hgrants held hheld
    obtain ⟨pre', u, ttlSecs, rfl, rfl, hlocked⟩ := exists_lockedBy hgrants
    exact (closes_iff_mayEnd t held (.acquireLock t u now ttlSecs)).mpr
      (h pre' t u now ttlSecs hlocked held (by rw [hagain]; exact congrArg _ hheld))
  · intro h pre t u atUnix ttlSecs hlocked held hheld
    rw [hagain] at hheld
    exact (closes_iff_mayEnd t held (.acquireLock t u atUnix ttlSecs)).mp
      (h _ t _ atUnix hlocked.grants held (Except.ok.inj hheld))

/-! ## Restarting -/

variable [RaftFormat]

omit [LockFormat] [RaftFormat] in
/-- Holder and expiry of a lock. -/
def LockInfo.holderAndExpiry (lock : LockInfo) : Uuid × Int64 :=
  (lock.userId, lock.expiresAtUnix)

/-- The node stops after `ops`, its store is reopened, and the entries of the log above the last
applied one are applied again, in log order; afterwards every ticket has the holder and expiry it
had before. The log still holds all the entries that were applied. -/
def LocksSurviveRestart (ops : List Operation) : Prop :=
  ∃ reopened responses final,
    CustodianStore.new (CustodianStore.blank.performAll ops).storage = .ok reopened ∧
    reopened.applyToStateMachine
      (entriesToReapply reopened.lastAppliedState.1 (appliedEntries ops)) =
        (.ok responses, final) ∧
    ∀ t, ∃ before after,
      getLockInfo (CustodianStore.blank.performAll ops).storage t = .ok before ∧
      getLockInfo final.storage t = .ok after ∧
      after.map LockInfo.holderAndExpiry = before.map LockInfo.holderAndExpiry

/-- A restart is a second run of the lock commands on the locks they have left. -/
theorem locksSurviveRestart_iff_run (ops : List Operation) :
    LocksSurviveRestart ops ↔
      ∀ t, (Lease.run lockPolicy (leasesAfter (appliedEntries ops))
          ((lockCommands (appliedEntries ops)).map LockCommand.toLease) t).map
            LockInfo.holderAndExpiry =
        (leasesAfter (appliedEntries ops) t).map LockInfo.holderAndExpiry := by
  have hnode := HasApplied.performAll ops
  obtain ⟨raftStorage, hreopen⟩ := hnode.metadata.reopen
  let reopened : CustodianStore :=
    ⟨(CustodianStore.blank.performAll ops).storage, .new, raftStorage⟩
  have hlog : entriesToReapply reopened.lastAppliedState.1 (appliedEntries ops) =
      appliedEntries ops :=
    List.filter_eq_self.mpr fun _ _ => rfl
  have hfound : Holds (leasesAfter (appliedEntries ops)) reopened.storage := hnode.locks
  have hreplayed := applyToStateMachine_ok hfound (appliedEntries ops)
  have hfinal := hnode.locks.applyLocks (lockCommands (appliedEntries ops))
  constructor
  · rintro ⟨reopened', responses, final, hnew, hok, hsame⟩ t
    obtain rfl : reopened = reopened' := Except.ok.inj (hreopen.symm.trans hnew)
    rw [hlog, hreplayed] at hok
    obtain ⟨-, rfl⟩ := Prod.mk.inj hok
    obtain ⟨before, after, hbefore, hafter, heq⟩ := hsame t
    obtain rfl := Except.ok.inj ((hnode.locks.getLockInfo t).symm.trans hbefore)
    obtain rfl := Except.ok.inj ((hfinal.getLockInfo t).symm.trans hafter)
    exact heq
  · intro hsame
    exact ⟨reopened, _, _, hreopen, by rw [hlog]; exact hreplayed, fun t =>
      ⟨_, _, hnode.locks.getLockInfo t, hfinal.getLockInfo t, hsame t⟩⟩

/-- The locks survive a restart exactly when every acquisition that gave a lock on record is let
through again by the locks that the restart finds. -/
theorem locks_survive_restart_iff (ops : List Operation) :
    LocksSurviveRestart ops ↔ Reacquirable (lockCommands (appliedEntries ops)) := by
  rw [locksSurviveRestart_iff_run, reacquirable_iff]
  constructor
  · intro hsame
    refine Lease.regranted_of_holders fun t => ?_
    have := congrArg (Option.map Prod.fst) (hsame t)
    rw [Option.map_map, Option.map_map] at this
    exact this
  · intro hagain t
    rw [leasesAfter, hagain.run_eq]

end InfoVulcan.Custodian

/-! ## A run on the JSON formats -/

namespace InfoVulcan.Custodian

open scoped SerdeJson

/-- Three users and one ticket. While the first user holds it, the second gives up a lock it does
not have and the third asks in vain; then the ticket changes hands to the second. -/
def refusedCommands : List LockCommand :=
  [.acquireLock 7 ⟨1⟩ 100 0, .releaseLock 7 ⟨2⟩, .acquireLock 7 ⟨3⟩ 101 0, .releaseLock 7 ⟨1⟩,
    .acquireLock 7 ⟨2⟩ 102 0]

/-- After a restart the ticket is locked by the third user, who had been refused. -/
theorem restart_hands_lock_to_refused_user :
    ¬ LocksSurviveRestart [.applyToStateMachine (committedFrom 1 refusedCommands)] := by
  intro hsurvive
  have hsame := (locksSurviveRestart_iff_run _).mp hsurvive 7
  revert hsame
  decide

end InfoVulcan.Custodian
