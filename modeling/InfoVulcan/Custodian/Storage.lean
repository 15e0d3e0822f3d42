import InfoVulcan.Shared.Foreign
import InfoVulcan.Sled

/-!
# The storage layer of the custodian

The custodian keeps one lock record per ticket. Timestamps are whole unix seconds; the calendar
type they are stored as comes from a library and is a parameter (`Chrono`).
-/

namespace InfoVulcan.Custodian

def TREE_LOCKS : String := "locks"

variable [Chrono]

/-- Lock information stored in the database. An expiry of `0` means that the lock never expires. -/
structure LockInfo where
  ticketId : UInt64
  userId : Uuid
  acquiredAt : Chrono.DateTime
  expiresAtUnix : Int64

/-- The JSON format of lock records. -/
class LockFormat where
  lockInfo : Codec LockInfo

/-- Whether the lock has expired as of `nowUnix`. -/
def LockInfo.isExpired (lock : LockInfo) (nowUnix : Int64) : Bool :=
  lock.expiresAtUnix != 0 && lock.expiresAtUnix ≤ nowUnix

/-! ## Key-value operations -/

omit [Chrono] in
/-- Stores a key-value pair. -/
def put (db : Sled) (tree : String) (key value : Bytes) : Sled :=
  Keyspace.put db ⟨tree, key⟩ value

omit [Chrono] in
/-- Retrieves a value by key. -/
def get (db : Sled) (tree : String) (key : Bytes) : Option Bytes :=
  Keyspace.get db tree key

omit [Chrono] in
/-- Deletes a key. -/
def delete (db : Sled) (tree : String) (key : Bytes) : Sled :=
  Keyspace.remove db ⟨tree, key⟩

/-! ## Locks -/

/-- The record of a lock taken at `atUnix` for `ttlSecs` seconds. -/
def lockRecord (ticketId : UInt64) (userId : Uuid) (atUnix ttlSecs : Int64) : LockInfo where
  ticketId := ticketId
  userId := userId
  acquiredAt := (Chrono.fromTimestamp atUnix 0).getD Chrono.default
  expiresAtUnix := if ttlSecs > 0 then atUnix + ttlSecs else 0

variable [LockFormat]

/-- Acquires a lock with an explicit acquisition time and lifetime. -/
def acquireLockAt (db : Sled) (ticketId : UInt64) (userId : Uuid) (atUnix ttlSecs : Int64) :
    Sled :=
  put db TREE_LOCKS (Bytes.ofU64 ticketId)
    (LockFormat.lockInfo.encode (lockRecord ticketId userId atUnix ttlSecs))

omit [Chrono] [LockFormat] in
/-- Releases a lock. -/
def releaseLock (db : Sled) (ticketId : UInt64) : Sled :=
  delete db TREE_LOCKS (Bytes.ofU64 ticketId)

/-- The lock record of a ticket, if there is one. -/
def getLockInfo (db : Sled) (ticketId : UInt64) : Except String (Option LockInfo) :=
  match get db TREE_LOCKS (Bytes.ofU64 ticketId) with
  | some value => (LockFormat.lockInfo.decode value).map some
  | none => .ok none

/-! ## Commands -/

/-- A replicated lock command. -/
inductive LockCommand where
  | acquireLock (ticketId : UInt64) (userId : Uuid) (atUnix ttlSecs : Int64)
  | releaseLock (ticketId : UInt64) (userId : Uuid)
  deriving DecidableEq

/-- Response type for client requests. -/
structure LockResponse where
  success : Bool
  error : Option String
  value : Option Bytes
  deriving DecidableEq

/-- The response to a command that took effect. -/
def LockResponse.ok : LockResponse where
  success := true
  error := none
  value := none

/-- The response to a command that was turned down. -/
def LockResponse.refused (error : String) : LockResponse where
  success := false
  error := some error
  value := none

/-- Applies a command to the locks. A lock of another user that has not expired at the command's
own time is respected; only the holder may release. -/
def CustodianStateMachine.apply (storage : Sled) :
    LockCommand → Except String LockResponse × Sled
  | .acquireLock ticketId userId atUnix ttlSecs =>
      match getLockInfo storage ticketId with
      | .error e => (.error e, storage)
      | .ok (some existing) =>
          if existing.userId ≠ userId ∧ existing.isExpired atUnix = false then
            (.ok (.refused s!"ticket {ticketId} is locked by {existing.userId}"), storage)
          else (.ok .ok, acquireLockAt storage ticketId userId atUnix ttlSecs)
      | .ok none => (.ok .ok, acquireLockAt storage ticketId userId atUnix ttlSecs)
  | .releaseLock ticketId userId =>
      match getLockInfo storage ticketId with
      | .error e => (.error e, storage)
      | .ok (some existing) =>
          if existing.userId ≠ userId then
            (.ok (.refused s!"ticket {ticketId} is held by another user"), storage)
          else (.ok .ok, releaseLock storage ticketId)
      | .ok none => (.ok .ok, releaseLock storage ticketId)

end InfoVulcan.Custodian
