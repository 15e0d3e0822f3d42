import InfoVulcan.Custodian.Exclusion
import InfoVulcan.Library.Decimal

/-!
# Expiry of ticket locks

The lifetime of a lock comes from the environment, and nothing bounds it. The expiry that is
recorded is a 64-bit sum, with `0` for locks that never expire. It is the sum of the integers, and
the lock expires then and not before, exactly when the sum fits or the lifetime is not positive
(`lock_expiry_exact_iff`). A sum that does not fit wraps around to a time long past.
-/

namespace InfoVulcan.Custodian

/-! ## Lifetimes -/

/-- The lifetime of locks in seconds, from the variable `LOCK_TTL_SECS`. -/
def lockTtlSecs (var : Option String) : Int64 :=
  (var.bind Decimal.parseI64).getD 900

example : lockTtlSecs none = 900 ∧ lockTtlSecs (some "15m") = 900 ∧
    lockTtlSecs (some "-9223372036854775808") = -9223372036854775808 := by decide

/-! ## The recorded expiry -/

variable [Chrono]

/-- The expiry of a lock is the sum of the integers. It does not overflow, and it is not the
mark of the locks that never expire. -/
def SumExact (atUnix ttlSecs : Int64) : Prop :=
  ttlSecs > 0 → (atUnix + ttlSecs).toInt = atUnix.toInt + ttlSecs.toInt ∧ atUnix + ttlSecs ≠ 0

/-- A lock is expired from the end of its lifetime on, if it has one. -/
def ExpiresOnTime (lock : LockInfo) (atUnix ttlSecs : Int64) : Prop :=
  ∀ now : Int64, lock.isExpired now = true ↔
    0 < ttlSecs.toInt ∧ atUnix.toInt + ttlSecs.toInt ≤ now.toInt

/-- A lifetime that the expiry has room for, or that never ends. -/
def Fits (atUnix ttlSecs : Int64) : Prop :=
  ttlSecs.toInt ≤ 0 ∨ atUnix.toInt + ttlSecs.toInt < 2 ^ 63

omit [Chrono] in
/-- The sum of a time and a positive lifetime is exact when it fits. -/
theorem sumExact_of_fits {atUnix ttlSecs : Int64} (hat : 0 ≤ atUnix.toInt)
    (hfits : Fits atUnix ttlSecs) : SumExact atUnix ttlSecs := by
  intro hpos
  have hpos : 0 < ttlSecs.toInt := Int64.lt_iff_toInt_lt.mp hpos
  have hhigh : atUnix.toInt + ttlSecs.toInt < 2 ^ 63 := hfits.resolve_left (by omega)
  -- Both summands are not negative, so the sum can leave the range upwards only.
  have hsum : (atUnix + ttlSecs).toInt = atUnix.toInt + ttlSecs.toInt := by
    rw [Int64.toInt_add]
    exact Int.bmod_eq_of_le (by omega) hhigh
  refine ⟨hsum, fun hzero => ?_⟩
  rw [hzero] at hsum
  have : Int64.toInt 0 = 0 := rfl
  omega

/-- The expiry is on time when it fits. -/
theorem expiresOnTime_of_fits {t : UInt64} {u : Uuid} {atUnix ttlSecs : Int64}
    (hat : 0 ≤ atUnix.toInt) (hfits : Fits atUnix ttlSecs) :
    ExpiresOnTime (lockRecord t u atUnix ttlSecs) atUnix ttlSecs := by
  intro now
  have hbound := Int64.le_toInt ttlSecs
  have hbound' := Int64.toInt_lt atUnix
  refine isExpired_lockRecord ⟨hat, by omega, ?_⟩ now
  rcases hfits with hnever | hhigh
  · omega
  · exact hhigh

/-- A sum that does not fit has wrapped around, and the lock expires before its time. -/
theorem expired_early {t : UInt64} {u : Uuid} {atUnix ttlSecs : Int64}
    (hfits : ¬ Fits atUnix ttlSecs) (hat : 0 ≤ atUnix.toInt) :
    (lockRecord t u atUnix ttlSecs).isExpired atUnix = true := by
  unfold Fits at hfits
  push Not at hfits
  obtain ⟨hpos, hhigh⟩ := hfits
  have hbound := Int64.toInt_lt ttlSecs
  have hbound' := Int64.toInt_lt atUnix
  -- The sum has gone around once, which makes it negative.
  have hsum : (atUnix + ttlSecs).toInt = atUnix.toInt + ttlSecs.toInt - 2 ^ 64 := by
    rw [Int64.toInt_add, Int.bmod_def]
    omega
  have hne : atUnix + ttlSecs ≠ 0 := by
    intro hzero
    rw [hzero] at hsum
    have : Int64.toInt 0 = 0 := rfl
    omega
  have hle : atUnix + ttlSecs ≤ atUnix := by
    rw [Int64.le_iff_toInt_le]
    omega
  have hpos' : ttlSecs > 0 := Int64.lt_iff_toInt_lt.mpr (by simpa using hpos)
  have hexpires : (lockRecord t u atUnix ttlSecs).expiresAtUnix = atUnix + ttlSecs :=
    if_pos hpos'
  simp [LockInfo.isExpired, hexpires, hne, hle]

/-- An expiry that is on time fits. -/
theorem fits_of_expiresOnTime {t : UInt64} {u : Uuid} {atUnix ttlSecs : Int64}
    (hat : 0 ≤ atUnix.toInt)
    (h : ExpiresOnTime (lockRecord t u atUnix ttlSecs) atUnix ttlSecs) :
    Fits atUnix ttlSecs := by
  by_contra hfits
  obtain ⟨hpos, hexpired⟩ := (h atUnix).mp (expired_early hfits hat)
  omega

variable [LockFormat]

/-- The record that an acquisition leaves. -/
theorem getLockInfo_acquireLockAt (db : Sled) (t : UInt64) (u : Uuid) (atUnix ttlSecs : Int64) :
    getLockInfo (acquireLockAt db t u atUnix ttlSecs) t =
      .ok (some (lockRecord t u atUnix ttlSecs)) := by
  have hget : get (acquireLockAt db t u atUnix ttlSecs) TREE_LOCKS (Bytes.ofU64 t) =
      some (LockFormat.lockInfo.encode (lockRecord t u atUnix ttlSecs)) :=
    (Keyspace.at_put db ..).trans (if_pos rfl)
  rw [getLockInfo, hget]
  simp [Except.map]

/-- What is asked of the lock that an acquisition records: its expiry is computed exactly, and it
has expired then and not before. -/
def ExpiryExact (db : Sled) (t : UInt64) (u : Uuid) (atUnix ttlSecs : Int64) : Prop :=
  SumExact atUnix ttlSecs ∧ ∃ lock,
    getLockInfo (acquireLockAt db t u atUnix ttlSecs) t = .ok (some lock) ∧
      ExpiresOnTime lock atUnix ttlSecs

/-- An exact expiry is one that fits. -/
theorem fits_of_expiryExact {db : Sled} {t : UInt64} {u : Uuid} {atUnix ttlSecs : Int64}
    (hat : 0 ≤ atUnix.toInt) (h : ExpiryExact db t u atUnix ttlSecs) : Fits atUnix ttlSecs := by
  obtain ⟨-, lock, hlock, hexpires⟩ := h
  rw [getLockInfo_acquireLockAt] at hlock
  obtain rfl := Option.some.inj (Except.ok.inj hlock)
  exact fits_of_expiresOnTime hat hexpires

/-- The expiry of a lock is exact if and only if its lifetime is not positive or the sum of the
time and the lifetime fits. -/
theorem lock_expiry_exact_iff (db : Sled) (t : UInt64) (u : Uuid) {atUnix : Int64}
    (ttlSecs : Int64) (hat : 0 ≤ atUnix.toInt) :
    ExpiryExact db t u atUnix ttlSecs ↔
      ttlSecs.toInt ≤ 0 ∨ atUnix.toInt + ttlSecs.toInt < 2 ^ 63 := by
  refine ⟨fits_of_expiryExact hat, fun hfits => ⟨sumExact_of_fits hat hfits, ?_⟩⟩
  exact ⟨_, getLockInfo_acquireLockAt .., expiresOnTime_of_fits hat hfits⟩

end InfoVulcan.Custodian

/-! ## A lifetime without end -/

namespace InfoVulcan.Custodian

open scoped SerdeJson

/-- A lock for a hundred seconds is exact. -/
theorem lock_expiry_exact_hundred : ExpiryExact Keyspace.empty 7 ⟨1⟩ 1000 100 := by
  have hat : 0 ≤ Int64.toInt 1000 := by decide
  have hfits : Int64.toInt 1000 + Int64.toInt 100 < 2 ^ 63 := by decide
  exact (lock_expiry_exact_iff Keyspace.empty 7 ⟨1⟩ 100 hat).mpr (Or.inr hfits)

/-- With the largest lifetime that can be configured the expiry is not exact. -/
theorem largest_lifetime_not_exact :
    ¬ ExpiryExact Keyspace.empty 7 ⟨1⟩ 1700000000
      (lockTtlSecs (some "9223372036854775807")) := by
  have hat : 0 ≤ Int64.toInt 1700000000 := by decide
  have hmax : lockTtlSecs (some "9223372036854775807") = 9223372036854775807 := by decide
  rw [hmax]
  intro h
  have hfits := fits_of_expiryExact hat h
  revert hfits
  unfold Fits
  decide

end InfoVulcan.Custodian
