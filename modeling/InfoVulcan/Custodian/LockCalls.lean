import InfoVulcan.Custodian.Independence
import InfoVulcan.Custodian.Raft
import InfoVulcan.Custodian.Server

/-!
# Lock calls

A call that acquires or releases a lock is replicated as a lock command. When an acquisition is
refused, the holder it is answered with is read after the command has been applied, so that the
commands of other calls may come in between. `acquire_lock_answered` says what the answer tells
about the history of the lock all the same, and `lock_views_agree` what the check before an update
and the listings of locks tell.
-/

namespace InfoVulcan.Custodian

/-- A call to acquire or to release a lock. -/
structure LockRequest where
  ticketId : UInt64
  userUuid : String
  deriving DecidableEq

/-- The answer to a call on a lock. -/
structure LockResponseMessage where
  success : Bool
  error : String
  currentHolder : Option String
  deriving DecidableEq

variable [Chrono] [LockFormat]

/-! ## Views of the lock table -/

/-- Whether a ticket is locked. -/
def isLocked (db : Sled) (ticketId : UInt64) : Bool :=
  (get db TREE_LOCKS (Bytes.ofU64 ticketId)).isSome

/-- The ticket and the lock of a binding of the lock tree. -/
def lockEntry (binding : Bytes × Bytes) : Except String (UInt64 × LockInfo) :=
  match Bytes.toU64? binding.1 with
  | none => .error "Invalid key length"
  | some ticketId => (LockFormat.lockInfo.decode binding.2).map fun lock => (ticketId, lock)

/-- All current locks. -/
def getAllLocks (db : Sled) : Except String (List (UInt64 × LockInfo)) :=
  (Keyspace.scan db TREE_LOCKS).mapM lockEntry

/-! ## Handlers -/

namespace CustodianServiceImpl

variable [FailureText] [UuidParser]

/-- Acquires a lock. The commands in `between` are those of other calls that are applied before the
holder is read. -/
def acquireLock (locks : Sled) (now ttlSecs : Int64) (between : List LockCommand)
    (req : LockRequest) : Except Status LockResponseMessage × Sled :=
  match UuidParser.parseStr req.userUuid with
  | none => (.error (.invalidArgument "Invalid user UUID"), locks)
  | some userId =>
      match CustodianStateMachine.apply locks (.acquireLock req.ticketId userId now ttlSecs) with
      | (.error e, locks) =>
          (.error (.internal s!"Raft write failed: {FailureText.raftWrite e}"), locks)
      | (.ok response, locks) =>
          let locks := applyLocks locks between
          let currentHolder :=
            if response.success then none
            else match getLockInfo locks req.ticketId with
              | .ok (some lock) => some (toString lock.userId)
              | _ => none
          (.ok { success := response.success, error := response.error.getD "", currentHolder },
            locks)

/-- Releases a lock. -/
def releaseLock (locks : Sled) (req : LockRequest) : Except Status LockResponseMessage × Sled :=
  match UuidParser.parseStr req.userUuid with
  | none => (.error (.invalidArgument "Invalid user UUID"), locks)
  | some userId =>
      match CustodianStateMachine.apply locks (.releaseLock req.ticketId userId) with
      | (.error e, locks) =>
          (.error (.internal s!"Raft write failed: {FailureText.raftWrite e}"), locks)
      | (.ok response, locks) =>
          (.ok { success := response.success, error := response.error.getD "",
                 currentHolder := none }, locks)

end CustodianServiceImpl

/-! ## Locks in force -/

/-- By its own clock, a lock that was taken at `atUnix` for `ttlSecs` seconds has not expired. -/
def Unexpired (atUnix ttlSecs now : Int64) : Prop :=
  0 < ttlSecs.toInt → now.toInt < atUnix.toInt + ttlSecs.toInt

omit [LockFormat] in
theorem isExpired_eq_false {t : UInt64} {u : Uuid} {atUnix ttlSecs : Int64}
    (hrange : (LockCommand.acquireLock t u atUnix ttlSecs).InRange) (now : Int64) :
    (lockRecord t u atUnix ttlSecs).isExpired now = false ↔ Unexpired atUnix ttlSecs now := by
  rw [← Bool.not_eq_true, isExpired_lockRecord hrange, Unexpired]
  omega

/-- The leases after a log of lock commands. -/
def leases (log : List LockCommand) : Lease.Table UInt64 LockInfo :=
  Lease.run lockPolicy (fun _ => none) (log.map LockCommand.toLease)

theorem holds_leases (log : List LockCommand) :
    Holds (leases log) (applyLocks Keyspace.empty log) :=
  Holds.empty.applyLocks log

variable {log : List LockCommand} (hlog : ∀ c ∈ log, c.InRange)

include hlog

/-- A lease on record is that of a window. -/
theorem leases_eq_some {t : UInt64} {lock : LockInfo} :
    leases log t = some lock ↔ ∃ u atUnix ttlSecs, lock = lockRecord t u atUnix ttlSecs ∧
      (LockCommand.acquireLock t u atUnix ttlSecs).InRange ∧ InWindow log t u atUnix ttlSecs := by
  constructor
  · exact window_of_lease hlog
  · rintro ⟨u, atUnix, ttlSecs, rfl, -, hwindow⟩
    exact lease_in_window hlog hwindow

/-- At most one acquisition of a ticket is in its window. -/
theorem InWindow.unique {t : UInt64} {u u' : Uuid} {atUnix atUnix' ttlSecs ttlSecs' : Int64}
    (h : InWindow log t u atUnix ttlSecs) (h' : InWindow log t u' atUnix' ttlSecs') :
    lockRecord t u atUnix ttlSecs = lockRecord t u' atUnix' ttlSecs' :=
  Option.some.inj ((lease_in_window hlog h).symm.trans (lease_in_window hlog h'))

omit hlog

/-! ## Answers to calls -/

/-- What the answer to an acquisition tells, given the commands before it and those that are applied
between it and the reading of the holder. -/
structure AcquireAnswered (pre between : List LockCommand) (t : UInt64) (u : Uuid)
    (now ttlSecs : Int64) (response : LockResponseMessage) : Prop where
  granted : response.success = true →
    InWindow (pre ++ [.acquireLock t u now ttlSecs]) t u now ttlSecs ∧ response.error = "" ∧
      response.currentHolder = none
  refused : response.success = false → ∃ holder atUnix ttlSecs', holder ≠ u ∧
    InWindow pre t holder atUnix ttlSecs' ∧ Unexpired atUnix ttlSecs' now ∧
    response.error = s!"ticket {t} is locked by {holder}" ∧
    ((∀ c ∈ between, ¬ c.Ends t holder atUnix ttlSecs') →
      response.currentHolder = some (toString holder))
  named : response.success = false → ∀ name, response.currentHolder = some name ↔
    ∃ holder atUnix ttlSecs',
      InWindow (pre ++ .acquireLock t u now ttlSecs :: between) t holder atUnix ttlSecs' ∧
        name = toString holder

/-- A window goes on while no command ends it. -/
theorem InWindow.append {t : UInt64} {u : Uuid} {atUnix ttlSecs : Int64}
    (h : InWindow log t u atUnix ttlSecs) {later : List LockCommand}
    (hlater : ∀ c ∈ later, ¬ c.Ends t u atUnix ttlSecs) :
    InWindow (log ++ later) t u atUnix ttlSecs := by
  obtain ⟨pre, mid, rfl, hanswers, hmid⟩ := h
  refine ⟨pre, mid ++ later, by simp, hanswers, fun c hc => ?_⟩
  rcases List.mem_append.mp hc with hmem | hmem
  · exact hmid c hmem
  · exact hlater c hmem

/-- What stands in the way of an acquisition is the lock of somebody else, in its window and not
expired. -/
theorem refusal_eq_some (hlog : ∀ c ∈ log, c.InRange) {t : UInt64} {u : Uuid}
    {now ttlSecs : Int64} {lock : LockInfo}
    (h : Lease.refusal lockPolicy (leases log) (LockCommand.acquireLock t u now ttlSecs).toLease =
      some lock) :
    ∃ holder atUnix ttlSecs', lock = lockRecord t holder atUnix ttlSecs' ∧ holder ≠ u ∧
      InWindow log t holder atUnix ttlSecs' ∧ Unexpired atUnix ttlSecs' now := by
  rw [Lease.refusal] at h
  split at h
  case isTrue => cases h
  case isFalse hrefused =>
    obtain ⟨held, hheld, hholder, hcloses⟩ := Lease.refused_cause (by simpa using hrefused)
    obtain rfl : held = lock := Option.some.inj (hheld.symm.trans h)
    obtain ⟨holder, atUnix, ttlSecs', rfl, hrange, hwindow⟩ := window_of_lease hlog hheld
    refine ⟨holder, atUnix, ttlSecs', rfl, hholder, hwindow, ?_⟩
    rw [← isExpired_eq_false hrange, ← Bool.not_eq_true]
    exact fun hexpired => hcloses ⟨rfl, .inr hexpired⟩

/-- An acquisition is answered, and its answer is honest: if it is granted, the caller holds the
lock; if it is refused, somebody else held it at that time, and whoever is named holds it when the
answer is made. Unless the lock has changed hands in between, that is still the one who stood in
the way. -/
theorem acquire_lock_answered [FailureText] [UuidParser] {pre between : List LockCommand}
    (hpre : ∀ c ∈ pre, c.InRange) (hbetween : ∀ c ∈ between, c.InRange) {req : LockRequest}
    {u : Uuid} (hparse : UuidParser.parseStr req.userUuid = some u) {now ttlSecs : Int64}
    (hrange : (LockCommand.acquireLock req.ticketId u now ttlSecs).InRange) :
    ∃ response, CustodianServiceImpl.acquireLock (applyLocks Keyspace.empty pre) now ttlSecs
        between req = (.ok response, applyLocks Keyspace.empty
          (pre ++ .acquireLock req.ticketId u now ttlSecs :: between)) ∧
      AcquireAnswered pre between req.ticketId u now ttlSecs response := by
  let c := LockCommand.acquireLock req.ticketId u now ttlSecs
  have hreply := (holds_leases pre).apply_reply c
  have hafter : applyLocks (CustodianStateMachine.apply (applyLocks Keyspace.empty pre) c).2
      between = applyLocks Keyspace.empty (pre ++ c :: between) := by
    simp [applyLocks]
  have hall : ∀ d ∈ pre ++ c :: between, d.InRange := by
    intro d hd
    rcases List.mem_append.mp hd with hmem | hmem
    · exact hpre d hmem
    · rcases List.mem_cons.mp hmem with rfl | hmem
      · exact hrange
      · exact hbetween d hmem
  have hread := (holds_leases (pre ++ c :: between)).getLockInfo req.ticketId
  have hcall : ∀ reply, (CustodianStateMachine.apply (applyLocks Keyspace.empty pre) c).1 =
      .ok reply → CustodianServiceImpl.acquireLock (applyLocks Keyspace.empty pre) now ttlSecs
        between req = (.ok
          { success := reply.success, error := reply.error.getD ""
            currentHolder := if reply.success then none else
              (leases (pre ++ c :: between) req.ticketId).map fun lock => toString lock.userId },
          applyLocks Keyspace.empty (pre ++ c :: between)) := by
    intro reply hok
    have hpair : CustodianStateMachine.apply (applyLocks Keyspace.empty pre) c =
        (.ok reply, (CustodianStateMachine.apply (applyLocks Keyspace.empty pre) c).2) :=
      Prod.ext hok rfl
    have happly : CustodianStateMachine.apply (applyLocks Keyspace.empty pre)
        (.acquireLock req.ticketId u now ttlSecs) = _ := hpair
    simp only [CustodianServiceImpl.acquireLock, hparse, happly, hafter, hread]
    cases leases (pre ++ c :: between) req.ticketId <;> rfl
  refine ⟨_, hcall _ hreply, ?_⟩
  cases hrefusal : Lease.refusal lockPolicy (leases pre) c.toLease with
  | none =>
      have hgranted : Answers (applyLocks Keyspace.empty pre) c true :=
        ⟨_, hreply, by rw [lockReply_success, hrefusal]; rfl⟩
      refine ⟨fun _ => ⟨⟨pre, [], rfl, hgranted, ?_⟩, rfl, rfl⟩, ?_, ?_⟩
      · exact fun d hd => absurd hd List.not_mem_nil
      · exact fun hfalse => absurd hfalse Bool.noConfusion
      · exact fun hfalse => absurd hfalse Bool.noConfusion
  | some lock =>
      obtain ⟨holder, atUnix, ttlSecs', rfl, hne, hwindow, hunexpired⟩ :=
        refusal_eq_some hpre hrefusal
      refine ⟨fun htrue => absurd htrue Bool.noConfusion, fun _ => ?_, fun _ name => ?_⟩
      · refine ⟨holder, atUnix, ttlSecs', hne, hwindow, hunexpired, rfl, fun hends => ?_⟩
        have hstill : InWindow (pre ++ c :: between) req.ticketId holder atUnix ttlSecs' := by
          refine hwindow.append fun d hd => ?_
          rcases List.mem_cons.mp hd with rfl | hmem
          · rintro ⟨-, hsame | ⟨hpos, hexpired⟩⟩
            · exact hne hsame.symm
            · have := hunexpired hpos
              omega
          · exact hends d hmem
        show Option.map _ (leases _ _) = _
        rw [(leases_eq_some hall).mpr ⟨_, _, _, rfl, ?_, hstill⟩]
        · rfl
        · obtain ⟨before, mid, rfl, -⟩ := hwindow
          exact hpre _ (by simp)
      · show Option.map _ (leases _ _) = _ ↔ _
        rw [Option.map_eq_some_iff]
        constructor
        · rintro ⟨held, hheld, rfl⟩
          obtain ⟨holder', atUnix', ttl', rfl, -, hin⟩ := (leases_eq_some hall).mp hheld
          exact ⟨holder', atUnix', ttl', hin, rfl⟩
        · rintro ⟨holder', atUnix', ttl', hin, rfl⟩
          exact ⟨_, lease_in_window hall hin, rfl⟩

/-! ## Views of the history -/

omit [Chrono] [LockFormat] in
/-- A list each of whose elements can be read is read as a whole. -/
theorem mapM_eq_ok {ε α β : Type} {f : α → Except ε β} {g : α → β} {xs : List α}
    (h : ∀ x ∈ xs, f x = .ok (g x)) : xs.mapM f = .ok (xs.map g) := by
  induction xs with
  | nil => rfl
  | cons x xs ih =>
      rw [List.mapM_cons, h x List.mem_cons_self, ih fun y hy => h y (List.mem_cons_of_mem _ hy)]
      rfl

/-- The lock tree holds encoded locks under the ids of their tickets. -/
theorem mem_scan_locks {key value : Bytes} :
    (key, value) ∈ Keyspace.scan (applyLocks Keyspace.empty log) TREE_LOCKS ↔
      ∃ t lock, key = Bytes.ofU64 t ∧ leases log t = some lock ∧
        value = LockFormat.lockInfo.encode lock := by
  rw [Keyspace.mem_scan]
  constructor
  · intro hget
    by_cases hkey : ∃ t, key = Bytes.ofU64 t
    · obtain ⟨t, rfl⟩ := hkey
      obtain ⟨lock, hlock, rfl⟩ :=
        Option.map_eq_some_iff.mp ((holds_leases log t).symm.trans hget)
      exact ⟨t, lock, rfl, hlock, rfl⟩
    · have hnone : (applyLocks Keyspace.empty log).at? ⟨TREE_LOCKS, key⟩ = none :=
        at_applyLocks_eq_none fun t heq => hkey ⟨t, (congrArg Cell.key heq).symm⟩
      exact absurd (hnone.symm.trans hget) (by simp)
  · rintro ⟨t, lock, rfl, hlock, rfl⟩
    exact (holds_leases log t).trans (by rw [hlock]; rfl)

/-- The listing of locks shows the leases, in ascending order of their tickets. -/
theorem getAllLocks_eq : ∃ locks, getAllLocks (applyLocks Keyspace.empty log) = .ok locks ∧
    locks.Pairwise (fun a b => a.1 < b.1) ∧
    ∀ t lock, (t, lock) ∈ locks ↔ leases log t = some lock := by
  let shown (binding : Bytes × Bytes) : UInt64 × LockInfo :=
    match lockEntry binding with
    | .ok entry => entry
    | .error _ => (0, lockRecord 0 ⟨0⟩ 0 0)
  have hentry : ∀ t lock,
      lockEntry (Bytes.ofU64 t, LockFormat.lockInfo.encode lock) = .ok (t, lock) := by
    intro t lock
    simp [lockEntry, Except.map]
  have hshown : ∀ t lock, shown (Bytes.ofU64 t, LockFormat.lockInfo.encode lock) = (t, lock) := by
    intro t lock
    simp only [shown, hentry]
  refine ⟨_, mapM_eq_ok (g := shown) ?_, ?_, fun t lock => ?_⟩
  · rintro ⟨key, value⟩ hmem
    obtain ⟨t, lock, rfl, -, rfl⟩ := mem_scan_locks.mp hmem
    rw [hshown, hentry]
  · refine List.pairwise_map.mpr (List.Pairwise.imp_of_mem (fun {a b} ha hb hlt => ?_)
      (Keyspace.scan_sorted _ TREE_LOCKS))
    obtain ⟨t, lock, hkey, -, hvalue⟩ := mem_scan_locks.mp (show (a.1, a.2) ∈ _ from ha)
    obtain ⟨t', lock', hkey', -, hvalue'⟩ := mem_scan_locks.mp (show (b.1, b.2) ∈ _ from hb)
    rw [show a = (Bytes.ofU64 t, LockFormat.lockInfo.encode lock) from Prod.ext hkey hvalue,
      show b = (Bytes.ofU64 t', LockFormat.lockInfo.encode lock') from Prod.ext hkey' hvalue',
      hshown, hshown]
    rw [hkey, hkey', Bytes.compare_ofU64] at hlt
    exact UInt64.lt_iff_toNat_lt.mpr (Nat.compare_eq_lt.mp hlt)
  · rw [List.mem_map]
    constructor
    · rintro ⟨⟨key, value⟩, hmem, heq⟩
      obtain ⟨t', lock', rfl, hlock, rfl⟩ := mem_scan_locks.mp hmem
      obtain ⟨rfl, rfl⟩ := Prod.mk.inj ((hshown t' lock').symm.trans heq)
      exact hlock
    · intro hlock
      exact ⟨_, mem_scan_locks.mpr ⟨t, lock, rfl, hlock, rfl⟩, hshown t lock⟩

/-- The check before an update lets a user through exactly while an acquisition of theirs is in its
window, until it expires. -/
theorem checkLock_eq_ok [UuidParser] (hlog : ∀ c ∈ log, c.InRange) {req : UpdateTicketRequest}
    {now : Chrono.DateTime} {u : Uuid} :
    CustodianServiceImpl.checkLock (applyLocks Keyspace.empty log) now req = .ok u ↔
      (∃ text, req.updatedByUuid = some text ∧ UuidParser.parseStr text = some u) ∧
      ∃ atUnix ttlSecs, InWindow log req.ticketId u atUnix ttlSecs ∧
        Unexpired atUnix ttlSecs (Chrono.timestamp now) := by
  rw [CustodianServiceImpl.checkLock, (holds_leases log).getLockInfo]
  cases hby : req.updatedByUuid with
  | none => simp
  | some text =>
      cases hparse : UuidParser.parseStr text with
      | none => simp [hparse]
      | some updater =>
          cases hlock : leases log req.ticketId with
          | none =>
              have hnot : ¬ ∃ atUnix ttlSecs, InWindow log req.ticketId u atUnix ttlSecs ∧
                  Unexpired atUnix ttlSecs (Chrono.timestamp now) := by
                rintro ⟨atUnix, ttlSecs, hin, -⟩
                exact absurd (hlock.symm.trans (lease_in_window hlog hin)) (by simp)
              simp [hparse, hnot]
          | some lock =>
              obtain ⟨holder, atUnix, ttlSecs, rfl, hrange, hin⟩ :=
                (leases_eq_some hlog).mp hlock
              have hforce : (∃ atUnix' ttl', InWindow log req.ticketId u atUnix' ttl' ∧
                  Unexpired atUnix' ttl' (Chrono.timestamp now)) ↔
                  holder = u ∧ (lockRecord req.ticketId holder atUnix ttlSecs).isExpired
                    (Chrono.timestamp now) = false := by
                constructor
                · rintro ⟨atUnix', ttl', hin', hunexpired⟩
                  have hsame := InWindow.unique hlog hin hin'
                  have hrange' : (LockCommand.acquireLock req.ticketId u atUnix' ttl').InRange := by
                    obtain ⟨pre, mid, rfl, -⟩ := hin'
                    exact hlog _ (by simp)
                  rw [hsame, isExpired_eq_false hrange']
                  exact ⟨congrArg LockInfo.userId hsame, hunexpired⟩
                · rintro ⟨rfl, hunexpired⟩
                  exact ⟨atUnix, ttlSecs, hin, (isExpired_eq_false hrange _).mp hunexpired⟩
              have hholder : (lockRecord req.ticketId holder atUnix ttlSecs).userId = holder := rfl
              simp only [hparse, Option.some.injEq, exists_eq_left', hforce, hholder]
              cases hexpired : (lockRecord req.ticketId holder atUnix ttlSecs).isExpired
                  (Chrono.timestamp now) with
              | true => simp
              | false =>
                  by_cases heq : holder = updater
                  · simp [heq]
                  · simp only [Bool.false_eq_true, if_false, ne_eq, heq, not_false_eq_true,
                      if_true, reduceCtorEq, and_true, false_iff]
                    rintro ⟨rfl, rfl⟩
                    exact heq rfl

/-- Every view of the lock table tells the same about the history of a ticket: it is locked and
listed while an acquisition is in its window, and an update is let through exactly for the user of
that acquisition, until it expires. -/
theorem lock_views_agree [UuidParser] (hlog : ∀ c ∈ log, c.InRange) :
    (∀ t, isLocked (applyLocks Keyspace.empty log) t ↔
      ∃ u atUnix ttlSecs, InWindow log t u atUnix ttlSecs) ∧
    (∃ locks, getAllLocks (applyLocks Keyspace.empty log) = .ok locks ∧
      locks.Pairwise (fun a b => a.1 < b.1) ∧ ∀ t lock, (t, lock) ∈ locks ↔
        ∃ u atUnix ttlSecs, lock = lockRecord t u atUnix ttlSecs ∧
          InWindow log t u atUnix ttlSecs) ∧
    ∀ req now u, CustodianServiceImpl.checkLock (applyLocks Keyspace.empty log) now req = .ok u ↔
      (∃ text, req.updatedByUuid = some text ∧ UuidParser.parseStr text = some u) ∧
      ∃ atUnix ttlSecs, InWindow log req.ticketId u atUnix ttlSecs ∧
        Unexpired atUnix ttlSecs (Chrono.timestamp now) := by
  have hwindow : ∀ t lock, leases log t = some lock ↔
      ∃ u atUnix ttlSecs, lock = lockRecord t u atUnix ttlSecs ∧
        InWindow log t u atUnix ttlSecs := by
    intro t lock
    rw [leases_eq_some hlog]
    constructor
    · rintro ⟨u, atUnix, ttlSecs, hlock, -, hin⟩
      exact ⟨u, atUnix, ttlSecs, hlock, hin⟩
    · rintro ⟨u, atUnix, ttlSecs, hlock, hin⟩
      refine ⟨u, atUnix, ttlSecs, hlock, ?_, hin⟩
      obtain ⟨pre, mid, rfl, -⟩ := hin
      exact hlog _ (by simp)
  refine ⟨fun t => ?_, ?_, fun _ _ _ => checkLock_eq_ok hlog⟩
  · rw [isLocked, holds_leases log t, Option.isSome_map, Option.isSome_iff_exists]
    constructor
    · rintro ⟨lock, hlock⟩
      obtain ⟨u, atUnix, ttlSecs, -, hin⟩ := (hwindow t lock).mp hlock
      exact ⟨u, atUnix, ttlSecs, hin⟩
    · rintro ⟨u, atUnix, ttlSecs, hin⟩
      exact ⟨_, lease_in_window hlog hin⟩
  · obtain ⟨locks, hlocks, hsorted, hmem⟩ := getAllLocks_eq
    exact ⟨locks, hlocks, hsorted, fun t lock => (hmem t lock).trans (hwindow t lock)⟩

end InfoVulcan.Custodian

/-! ## Runs on the JSON formats -/

namespace InfoVulcan.Custodian

open scoped SerdeJson

/-- The holder of a lock. -/
def firstUser : Uuid := ⟨1⟩

/-- Somebody else, who asks for the lock. -/
def secondUser : Uuid := ⟨2⟩

/-- A call that is refused, with a release by the holder before the holder is read. -/
theorem acquire_lock_answered_released :
    ∃ response, CustodianServiceImpl.acquireLock
        (applyLocks Keyspace.empty [.acquireLock 7 firstUser 100 900]) 200 900
        [.releaseLock 7 firstUser] ⟨7, toString secondUser⟩ = (.ok response,
          applyLocks Keyspace.empty ([.acquireLock 7 firstUser 100 900] ++
            .acquireLock 7 secondUser 200 900 :: [.releaseLock 7 firstUser])) ∧
      AcquireAnswered [.acquireLock 7 firstUser 100 900] [.releaseLock 7 firstUser] 7 secondUser
        200 900 response := by
  have hparse := Uuid.parseHyphenated_toString secondUser
  refine acquire_lock_answered ?_ ?_ hparse ⟨by decide, by decide, by decide⟩
  · intro c hc
    obtain rfl := List.mem_singleton.mp hc
    exact ⟨by decide, by decide, by decide⟩
  · intro c hc
    obtain rfl := List.mem_singleton.mp hc
    trivial

/-- After a takeover the ticket is locked, and the locks can be listed. -/
theorem lock_views_agree_takeover :
    (isLocked (applyLocks Keyspace.empty takeover) 7 ↔
      ∃ u atUnix ttlSecs, InWindow takeover 7 u atUnix ttlSecs) ∧
    ∃ locks, getAllLocks (applyLocks Keyspace.empty takeover) = .ok locks ∧
      locks.Pairwise (fun a b => a.1 < b.1) ∧ ∀ t lock, (t, lock) ∈ locks ↔
        ∃ u atUnix ttlSecs, lock = lockRecord t u atUnix ttlSecs ∧
          InWindow takeover t u atUnix ttlSecs := by
  have hrange : ∀ c ∈ takeover, c.InRange := by
    intro c hc
    rcases List.mem_pair.mp hc with rfl | rfl <;> exact ⟨by decide, by decide, by decide⟩
  have hviews := lock_views_agree hrange
  exact ⟨hviews.1 7, hviews.2.1⟩

end InfoVulcan.Custodian
