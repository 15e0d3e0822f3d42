import InfoVulcan.Library.Codec
import InfoVulcan.Shared.Encryption

/-!
# User accounts

An account is kept in two records: the profile, under the id of the user, and the credentials,
under the user's name. Password hashing, one-time codes and session tokens come from libraries and
are parameters, one class a library.
-/

namespace InfoVulcan

/-! ## Domain types -/

/-- User role for role-based access control. -/
inductive Role where
  | admin
  | manager
  | supervisor
  | technician
  | ebondPartner
  | readOnly
  deriving DecidableEq, Repr

namespace Role

def toU8 : Role → UInt8
  | admin => 0
  | manager => 1
  | supervisor => 2
  | technician => 3
  | ebondPartner => 4
  | readOnly => 5

/-- The name of the role in tokens and messages. -/
def debug : Role → String
  | admin => "Admin"
  | manager => "Manager"
  | supervisor => "Supervisor"
  | technician => "Technician"
  | ebondPartner => "EbondPartner"
  | readOnly => "ReadOnly"

/-- The role has admin privileges. -/
def isAdmin (role : Role) : Bool :=
  role == admin

/-- The role can modify tickets. -/
def canModifyTickets : Role → Bool
  | admin | manager | supervisor | technician => true
  | _ => false

/-- The role can manage users. -/
def canManageUsers : Role → Bool
  | admin | manager => true
  | _ => false

end Role

/-- Authentication method used. -/
inductive AuthMethod where
  | password
  | webAuthn
  | u2f
  | totp
  | activeDirectory
  deriving DecidableEq, Repr

/-- User authentication credentials, encrypted at rest. -/
structure UserAuth where
  userId : Uuid
  passwordHash : String
  mfaSecret : Option String
  mfaMethod : Option AuthMethod
  deriving DecidableEq

/-- User account information. -/
structure User [Chrono] where
  userId : Uuid
  username : String
  displayName : String
  email : String
  role : Role
  isActive : Bool
  mfaEnabled : Bool
  lastLogin : Option Chrono.DateTime
  createdAt : Chrono.DateTime
  updatedAt : Chrono.DateTime

/-- The user may act where a role is required. An inactive user may not act at all. -/
def User.hasPermission [Chrono] (user : User) (requiredRole : Role) : Bool :=
  if !user.isActive then false
  else if user.role.isAdmin then true
  else decide (user.role.toU8 ≤ requiredRole.toU8)

/-- Everybody but an inactive user may read. -/
theorem User.hasPermission_readOnly [Chrono] (user : User) :
    user.hasPermission .readOnly = user.isActive := by
  rw [hasPermission]
  cases user.isActive with
  | false => rfl
  | true => cases user.role <;> rfl

/-! ## Libraries -/

/-- The hashing of passwords. A stored hash is parsed before a password is verified against it. -/
class PasswordHasher where
  Salt : Type
  ParsedHash : Type
  hashPassword : Bytes → Salt → Except String String
  parse : String → Except String ParsedHash
  verifyPassword : Bytes → ParsedHash → Except String Unit

/-- Time-based one-time codes: the bytes of an encoded secret, and the check of a code at a time
for six digits, a step of thirty seconds and a skew of one step. -/
class Totp [Chrono] where
  secretBytes : String → Except String Bytes
  checkCurrent : Bytes → String → Chrono.DateTime → Except String Bool

/-- What a session token says: whose session it is, when it expires and the user's role. -/
structure Claims where
  sub : String
  exp : Nat
  role : String
  deriving DecidableEq

/-- Session tokens. A token that is accepted at some time says what it was made for. -/
class Jwt [Chrono] where
  encode : Claims → Bytes → Except String String
  decode : String → Bytes → Chrono.DateTime → Option Claims
  decode_encode : ∀ {claims secret token}, encode claims secret = .ok token →
    ∀ {now decoded}, decode token secret now = some decoded → decoded = claims

/-- The calendar time 24 hours later, if there is one. -/
class SessionClock [Chrono] where
  inADay : Chrono.DateTime → Option Chrono.DateTime

/-- The JSON formats of accounts. -/
class AccountFormat [Chrono] [Primitives] where
  user : Codec User
  userAuth : Codec UserAuth
  encryptedData : Codec EncryptedData

/-! ## Storage keys -/

/-- The sixteen bytes of a UUID. -/
def Uuid.asBytes (u : Uuid) : Bytes :=
  Bytes.toBe 16 u.bits.toNat

/-- Distinct UUIDs have distinct bytes. -/
@[simp] theorem Uuid.asBytes_inj {u v : Uuid} : u.asBytes = v.asBytes ↔ u = v := by
  refine ⟨fun h => ?_, fun h => h ▸ rfl⟩
  have hu : u.bits.toNat < 256 ^ 16 := u.bits.isLt
  have hv : v.bits.toNat < 256 ^ 16 := v.bits.isLt
  have hbits : u.bits.toNat = v.bits.toNat := by
    rw [← Bytes.ofBe_toBe hu, ← Bytes.ofBe_toBe hv]
    exact congrArg Bytes.ofBe h
  cases u
  cases v
  exact congrArg Uuid.mk (BitVec.eq_of_toNat_eq hbits)

/-- The key of the credentials of a username. -/
def authKey (username : String) : Bytes :=
  Bytes.ofText s!"auth:username:{username}"

/-- Distinct usernames have distinct keys. -/
@[simp] theorem authKey_inj {s t : String} : authKey s = authKey t ↔ s = t := by
  simp [authKey, String.append_right_inj, toString]

/-! ## Encrypted records -/

namespace KeyPair

variable [Chrono] [Primitives] [AccountFormat] {α : Type}

/-- Serialises and encrypts a record. -/
def sealRecord (keypair : KeyPair) (codec : Codec α) (a : α) (entropy : Primitives.Entropy) :
    Except Status Bytes :=
  match EncryptionService.encryptWithPublicKey (codec.encode a) keypair.publicKey entropy with
  | .error e => .error (.internal s!"Encryption error: {e}")
  | .ok encrypted => .ok (AccountFormat.encryptedData.encode encrypted)

/-- Decrypts and reads a record. The texts name what cannot be decoded, outside and inside. -/
def openRecord (keypair : KeyPair) (codec : Codec α) (outer inner : String) (value : Bytes) :
    Except (Stop Status) α :=
  match AccountFormat.encryptedData.decode value with
  | .error e => .error (.error (.internal s!"Failed to decode {outer}: {e}"))
  | .ok encrypted =>
      match EncryptionService.decryptWithPrivateKey encrypted keypair.privateKey with
      | .error stop => .error (stop.map fun e => .internal s!"Decryption failed: {e}")
      | .ok decrypted =>
          match codec.decode decrypted with
          | .error e => .error (.error (.internal s!"Failed to decode {inner}: {e}"))
          | .ok a => .ok a

/-- A record reads back as what it was made from. -/
theorem openRecord_sealRecord {keypair : KeyPair} {codec : Codec α} {a : α}
    {entropy : Primitives.Entropy} {value : Bytes}
    (h : keypair.sealRecord codec a entropy = .ok value) (outer inner : String) :
    keypair.openRecord codec outer inner value = .ok a := by
  rw [sealRecord] at h
  cases hencrypted : EncryptionService.encryptWithPublicKey (codec.encode a) keypair.publicKey
      entropy with
  | error e =>
      rw [hencrypted] at h
      cases h
  | ok encrypted =>
      rw [hencrypted] at h
      cases h
      simp [openRecord, keypair.decrypt_encrypt hencrypted]

end KeyPair

end InfoVulcan
