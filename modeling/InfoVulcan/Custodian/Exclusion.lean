import InfoVulcan.Custodian.Json
import InfoVulcan.Library.Lease

/-!
# Mutual exclusion of ticket locks

The lock table in the database behaves as a table of leases: a ticket is the resource, a lock
record the grant, the command's own timestamp the clock (`Holds.apply`). Exclusion, and the fact
that nothing else is ever refused, are then the two results about runs of leases, read back in
terms of commands.
-/

namespace InfoVulcan.Custodian

/-! ## Commands and windows -/

namespace LockCommand

/-- The ticket a command is about. -/
def ticketId : LockCommand → UInt64
  | .acquireLock t _ _ _ => t
  | .releaseLock t _ => t

/-- The user who issues a command. -/
def userId : LockCommand → Uuid
  | .acquireLock _ u _ _ => u
  | .releaseLock _ u => u

/-- The timestamp is not negative and the expiry does not overflow. -/
def InRange : LockCommand → Prop
  | .acquireLock _ _ atUnix ttlSecs =>
      0 ≤ atUnix.toInt ∧ -2 ^ 63 ≤ atUnix.toInt + ttlSecs.toInt ∧
        atUnix.toInt + ttlSecs.toInt < 2 ^ 63
  | .releaseLock _ _ => True

/-- The command ends the lock that `user` has taken on `ticket` at `atUnix` for `ttlSecs`: it is a
command of the same user on that ticket, or an acquisition by another user at or after the
expiry. -/
def Ends (ticket : UInt64) (user : Uuid) (atUnix ttlSecs : Int64) : LockCommand → Prop
  | .releaseLock t u => t = ticket ∧ u = user
  | .acquireLock t u now _ => t = ticket ∧
      (u = user ∨ 0 < ttlSecs.toInt ∧ atUnix.toInt + ttlSecs.toInt ≤ now.toInt)

end LockCommand

variable [Chrono] [LockFormat]

/-- The database after a list of commands. -/
def applyLocks (storage : Sled) (log : List LockCommand) : Sled :=
  log.foldl (fun db c => (CustodianStateMachine.apply db c).2) storage

/-- The command is answered with the given success flag. -/
def Answers (storage : Sled) (c : LockCommand) (success : Bool) : Prop :=
  ∃ response, (CustodianStateMachine.apply storage c).1 = .ok response ∧
    response.success = success

/-- The log contains a successful acquisition that no later command has ended. -/
def InWindow (log : List LockCommand) (ticket : UInt64) (user : Uuid) (atUnix ttlSecs : Int64) :
    Prop :=
  ∃ pre mid, log = pre ++ .acquireLock ticket user atUnix ttlSecs :: mid ∧
    Answers (applyLocks Keyspace.empty pre) (.acquireLock ticket user atUnix ttlSecs) true ∧
    ∀ c ∈ mid, ¬ c.Ends ticket user atUnix ttlSecs

/-! ## The lock table as leases -/

omit [LockFormat] in
/-- A lock is held by its user until it has expired. -/
def lockPolicy : Lease.Policy Uuid LockInfo Int64 where
  holder lock := lock.userId
  expired lock now := lock.isExpired now

omit [LockFormat] in
/-- A lock command as a command on leases. -/
def LockCommand.toLease : LockCommand → Lease.Command UInt64 Uuid LockInfo Int64
  | .acquireLock t u atUnix ttlSecs => .acquire t (lockRecord t u atUnix ttlSecs) atUnix
  | .releaseLock t u => .release t u

omit [LockFormat] in
@[simp] theorem toLease_resource (c : LockCommand) : c.toLease.resource = c.ticketId := by
  cases c <;> rfl

omit [LockFormat] in
@[simp] theorem toLease_user (c : LockCommand) : c.toLease.user lockPolicy = c.userId := by
  cases c <;> rfl

/-- The lock tree holds the lease table. -/
def Holds (table : Lease.Table UInt64 LockInfo) (storage : Sled) : Prop :=
  ∀ t, get storage TREE_LOCKS (Bytes.ofU64 t) = (table t).map LockFormat.lockInfo.encode

theorem Holds.empty : Holds (fun _ => none) Keyspace.empty :=
  fun t => by simp [get]

theorem Holds.getLockInfo {table : Lease.Table UInt64 LockInfo} {storage : Sled}
    (h : Holds table storage) (t : UInt64) : getLockInfo storage t = .ok (table t) := by
  rw [Custodian.getLockInfo, h t]
  cases table t <;> simp [Except.map]

theorem Holds.acquire {table : Lease.Table UInt64 LockInfo} {storage : Sled}
    (h : Holds table storage) (t : UInt64) (u : Uuid) (atUnix ttlSecs : Int64) :
    Holds (Function.update table t (some (lockRecord t u atUnix ttlSecs)))
      (acquireLockAt storage t u atUnix ttlSecs) := by
  intro t'
  refine (Keyspace.at_put storage _ _ _).trans ?_
  by_cases ht : t' = t
  · subst ht
    simp
  · rw [if_neg (by simpa [eq_comm] using ht), Function.update_of_ne ht]
    exact h t'

theorem Holds.release {table : Lease.Table UInt64 LockInfo} {storage : Sled}
    (h : Holds table storage) (t : UInt64) :
    Holds (Function.update table t none) (releaseLock storage t) := by
  intro t'
  refine (Keyspace.at_remove storage _ _).trans ?_
  by_cases ht : t' = t
  · subst ht
    simp
  · rw [if_neg (by simpa [eq_comm] using ht), Function.update_of_ne ht]
    exact h t'

/-- A lock command does to the lock tree what it does to the leases, and is answered alike. -/
theorem Holds.apply {table : Lease.Table UInt64 LockInfo} {storage : Sled}
    (h : Holds table storage) (c : LockCommand) :
    Answers storage c (Lease.step lockPolicy table c.toLease).1 ∧
      Holds (Lease.step lockPolicy table c.toLease).2
        (CustodianStateMachine.apply storage c).2 := by
  cases c with
  | acquireLock t u atUnix ttlSecs =>
      simp only [Answers, CustodianStateMachine.apply, h.getLockInfo, LockCommand.toLease,
        Lease.step]
      cases table t with
      | none => exact ⟨⟨_, rfl, rfl⟩, h.acquire t u atUnix ttlSecs⟩
      | some existing =>
          have hiff : (existing.userId ≠ u ∧ existing.isExpired atUnix = false) ↔
              (lockPolicy.holder existing ≠
                  lockPolicy.holder (lockRecord t u atUnix ttlSecs) ∧
                lockPolicy.expired existing atUnix = false) := Iff.rfl
          by_cases hheld : existing.userId ≠ u ∧ existing.isExpired atUnix = false
          · simp only [if_pos hheld, if_pos (hiff.mp hheld)]
            exact ⟨⟨_, rfl, rfl⟩, h⟩
          · simp only [if_neg hheld, if_neg fun hc => hheld (hiff.mpr hc)]
            exact ⟨⟨_, rfl, rfl⟩, h.acquire t u atUnix ttlSecs⟩
  | releaseLock t u =>
      simp only [Answers, CustodianStateMachine.apply, h.getLockInfo, LockCommand.toLease,
        Lease.step]
      cases table t with
      | none => exact ⟨⟨_, rfl, rfl⟩, h.release t⟩
      | some existing =>
          have hiff : existing.userId ≠ u ↔ lockPolicy.holder existing ≠ u := Iff.rfl
          by_cases hheld : existing.userId ≠ u
          · simp only [if_pos hheld, if_pos (hiff.mp hheld)]
            exact ⟨⟨_, rfl, rfl⟩, h⟩
          · simp only [if_neg hheld, if_neg fun hc => hheld (hiff.mpr hc)]
            exact ⟨⟨_, rfl, rfl⟩, h.release t⟩

/-- The lock tree after a log holds the leases after that log. -/
theorem Holds.applyLocks {table : Lease.Table UInt64 LockInfo} {storage : Sled}
    (h : Holds table storage) (log : List LockCommand) :
    Holds (Lease.run lockPolicy table (log.map LockCommand.toLease)) (applyLocks storage log) := by
  induction log generalizing table storage with
  | nil => exact h
  | cons c log ih => exact ih (h.apply c).2

/-- An answer has one success flag. -/
theorem Holds.answers_iff {table : Lease.Table UInt64 LockInfo} {storage : Sled}
    (h : Holds table storage) {c : LockCommand} {success : Bool} :
    Answers storage c success ↔ (Lease.step lockPolicy table c.toLease).1 = success := by
  obtain ⟨⟨response, hok, hflag⟩, -⟩ := h.apply c
  constructor
  · rintro ⟨response', hok', hflag'⟩
    obtain rfl := Except.ok.inj (hok.symm.trans hok')
    rw [← hflag, hflag']
  · intro hsuccess
    exact ⟨response, hok, by rw [hflag, hsuccess]⟩

/-! ## Expiry -/

omit [LockFormat] in
/-- A lock taken in range expires when its time is up, or never. -/
theorem isExpired_lockRecord {t : UInt64} {u : Uuid} {atUnix ttlSecs : Int64}
    (hrange : (LockCommand.acquireLock t u atUnix ttlSecs).InRange) (now : Int64) :
    (lockRecord t u atUnix ttlSecs).isExpired now = true ↔
      0 < ttlSecs.toInt ∧ atUnix.toInt + ttlSecs.toInt ≤ now.toInt := by
  obtain ⟨hat, hlow, hhigh⟩ := hrange
  have hsum : (atUnix + ttlSecs).toInt = atUnix.toInt + ttlSecs.toInt := by
    rw [Int64.toInt_add]
    exact Int.bmod_eq_of_le hlow hhigh
  have hpos : ttlSecs > 0 ↔ 0 < ttlSecs.toInt := Int64.lt_iff_toInt_lt
  rw [LockInfo.isExpired, lockRecord]
  by_cases httl : ttlSecs > 0
  · have hne : atUnix + ttlSecs ≠ 0 := by
      intro hzero
      have := congrArg Int64.toInt hzero
      rw [hsum] at this
      have hzero' : Int64.toInt 0 = 0 := rfl
      have := hpos.mp httl
      omega
    simp only [if_pos httl, bne_iff_ne, Bool.and_eq_true, decide_eq_true_eq]
    rw [Int64.le_iff_toInt_le, hsum]
    exact ⟨fun h => ⟨hpos.mp httl, h.2⟩, fun h => ⟨hne, h.2⟩⟩
  · simp only [if_neg httl]
    have : ¬ 0 < ttlSecs.toInt := fun h => httl (hpos.mpr h)
    simp [this]

omit [LockFormat] in
/-- The commands that end a lock taken in range are those that close its lease. -/
theorem closes_iff_ends {t : UInt64} {u : Uuid} {atUnix ttlSecs : Int64}
    (hrange : (LockCommand.acquireLock t u atUnix ttlSecs).InRange) (c : LockCommand) :
    Lease.closes lockPolicy t (lockRecord t u atUnix ttlSecs) c.toLease ↔
      c.Ends t u atUnix ttlSecs := by
  cases c with
  | acquireLock t' u' at' ttl' =>
      simp only [LockCommand.toLease, Lease.closes, LockCommand.Ends, lockPolicy,
        isExpired_lockRecord hrange]
      rfl
  | releaseLock t' u' => exact Iff.rfl

/-! ## Exclusion -/

/-- Within a window the lease is on record. -/
theorem lease_in_window {log : List LockCommand} (hlog : ∀ c ∈ log, c.InRange) {t : UInt64}
    {u : Uuid} {atUnix ttlSecs : Int64} (hwindow : InWindow log t u atUnix ttlSecs) :
    Lease.run lockPolicy (fun _ => none) (log.map LockCommand.toLease) t =
      some (lockRecord t u atUnix ttlSecs) := by
  obtain ⟨pre, mid, rfl, hsuccess, hmid⟩ := hwindow
  have hrange := hlog (.acquireLock t u atUnix ttlSecs) (by simp)
  rw [(Holds.empty.applyLocks pre).answers_iff] at hsuccess
  rw [List.map_append, List.map_cons, Lease.run_append, Lease.run_cons]
  refine Lease.run_keeps (Lease.step_granted hsuccess) fun d hd => ?_
  obtain ⟨c, hc, rfl⟩ := List.mem_map.mp hd
  rw [closes_iff_ends hrange]
  exact hmid c hc

/-- A lease on record is the one of a window. -/
theorem window_of_lease {log : List LockCommand} (hlog : ∀ c ∈ log, c.InRange) {t : UInt64}
    {held : LockInfo}
    (h : Lease.run lockPolicy (fun _ => none) (log.map LockCommand.toLease) t = some held) :
    ∃ u atUnix ttlSecs, held = lockRecord t u atUnix ttlSecs ∧
      (LockCommand.acquireLock t u atUnix ttlSecs).InRange ∧
      InWindow log t u atUnix ttlSecs := by
  obtain ⟨pre', now, mid', hsplit, hsuccess, hmid⟩ := Lease.held_origin h
  obtain ⟨pre, tail, rfl, rfl, htail⟩ := List.map_eq_append_iff.mp hsplit
  obtain ⟨c, mid, rfl, hc, rfl⟩ := List.map_eq_cons_iff.mp htail
  have hrange := hlog c (by simp)
  cases c with
  | releaseLock t' u => cases hc
  | acquireLock t' u atUnix ttlSecs =>
      obtain ⟨rfl, rfl, rfl⟩ := Lease.Command.acquire.inj hc
      refine ⟨u, atUnix, ttlSecs, rfl, hrange, pre, mid, rfl, ?_, fun d hd => ?_⟩
      · exact (Holds.empty.applyLocks pre).answers_iff.mpr hsuccess
      · rw [← closes_iff_ends hrange]
        exact hmid _ (List.mem_map_of_mem hd)

/-- The lock record of a ticket is the one that was written by this acquisition. -/
def RecordIs (storage : Sled) (t : UInt64) (u : Uuid) (atUnix ttlSecs : Int64) : Prop :=
  getLockInfo storage t = .ok (some (lockRecord t u atUnix ttlSecs))

/-- Locks exclude each other. In the window of an acquisition every command of another user on the
ticket that does not end the window is refused and leaves the record as the acquisition wrote
it; a command is refused in such a window only; and a user whose lock was taken over cannot
release the lock of the new holder. -/
theorem lock_mutual_exclusion {log : List LockCommand} (hlog : ∀ c ∈ log, c.InRange) :
    (∀ t u atUnix ttlSecs, InWindow log t u atUnix ttlSecs →
      RecordIs (applyLocks Keyspace.empty log) t u atUnix ttlSecs ∧
      ∀ c : LockCommand, c.ticketId = t → c.userId ≠ u → ¬ c.Ends t u atUnix ttlSecs →
        Answers (applyLocks Keyspace.empty log) c false ∧
        RecordIs (applyLocks Keyspace.empty (log ++ [c])) t u atUnix ttlSecs) ∧
    (∀ c : LockCommand, Answers (applyLocks Keyspace.empty log) c false →
      ∃ u atUnix ttlSecs, InWindow log c.ticketId u atUnix ttlSecs ∧ c.userId ≠ u ∧
        ¬ c.Ends c.ticketId u atUnix ttlSecs) ∧
    (∀ t old new atUnix ttlSecs, InWindow log t new atUnix ttlSecs → old ≠ new →
      Answers (applyLocks Keyspace.empty log) (.releaseLock t old) false ∧
      RecordIs (applyLocks Keyspace.empty (log ++ [.releaseLock t old])) t new atUnix ttlSecs) := by
  have hholds := Holds.empty.applyLocks log
  have hwindow : ∀ t u atUnix ttlSecs, InWindow log t u atUnix ttlSecs →
      ∀ c : LockCommand, c.ticketId = t → ¬ c.Ends t u atUnix ttlSecs →
        Answers (applyLocks Keyspace.empty log) c false ∧
        RecordIs (applyLocks Keyspace.empty (log ++ [c])) t u atUnix ttlSecs := by
    intro t u atUnix ttlSecs hin c hc hends
    have hrange : (LockCommand.acquireLock t u atUnix ttlSecs).InRange := by
      obtain ⟨pre, mid, rfl, -⟩ := hin
      exact hlog _ (by simp)
    obtain ⟨hkept, hrefused⟩ := Lease.step_keeps (lease_in_window hlog hin)
      fun hcloses => hends ((closes_iff_ends hrange c).mp hcloses)
    refine ⟨hholds.answers_iff.mpr (hrefused (by rw [toLease_resource, hc])), ?_⟩
    have hafter := (hholds.apply c).2
    rw [RecordIs, applyLocks, List.foldl_append]
    exact (hafter.getLockInfo t).trans (by rw [hkept])
  refine ⟨fun t u atUnix ttlSecs hin => ⟨?_, fun c hc _ => hwindow t u atUnix ttlSecs hin c hc⟩,
    fun c hrefused => ?_, fun t old new atUnix ttlSecs hin hne => ?_⟩
  · rw [RecordIs, hholds.getLockInfo, lease_in_window hlog hin]
  · obtain ⟨held, hheld, huser, hcloses⟩ := Lease.refused_cause (hholds.answers_iff.mp hrefused)
    rw [toLease_resource] at hheld hcloses
    obtain ⟨u, atUnix, ttlSecs, rfl, hrange, hin⟩ := window_of_lease hlog hheld
    refine ⟨u, atUnix, ttlSecs, hin, fun hc => huser (by rw [toLease_user, hc]; rfl), ?_⟩
    rw [← closes_iff_ends hrange]
    exact hcloses
  · exact hwindow t new atUnix ttlSecs hin _ rfl fun hends => hne hends.2

end InfoVulcan.Custodian

/-! ## A run on the JSON formats -/

namespace InfoVulcan.Custodian

open scoped SerdeJson

/-- A lock that is taken over after its expiry. -/
def takeover : List LockCommand :=
  [.acquireLock 7 ⟨1⟩ 100 50, .acquireLock 7 ⟨2⟩ 150 0]

/-- The old holder of a lock that was taken over cannot give it up. -/
theorem lock_mutual_exclusion_takeover :
    Answers (applyLocks Keyspace.empty takeover) (.releaseLock 7 ⟨1⟩) false ∧
      RecordIs (applyLocks Keyspace.empty (takeover ++ [.releaseLock 7 ⟨1⟩])) 7 ⟨2⟩ 150 0 := by
  have hrange : ∀ c ∈ takeover, c.InRange := by
    intro c hc
    rcases List.mem_pair.mp hc with rfl | rfl <;> exact ⟨by decide, by decide, by decide⟩
  have htaken : Answers (applyLocks Keyspace.empty [.acquireLock 7 ⟨1⟩ 100 50])
      (.acquireLock 7 ⟨2⟩ 150 0) true :=
    (Holds.empty.applyLocks _).answers_iff.mpr (by decide)
  exact (lock_mutual_exclusion hrange).2.2 7 ⟨1⟩ ⟨2⟩ 150 0
    ⟨[.acquireLock 7 ⟨1⟩ 100 50], [], rfl, htaken, fun c hc => absurd hc List.not_mem_nil⟩
    (by decide)

end InfoVulcan.Custodian
