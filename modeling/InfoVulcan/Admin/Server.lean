import InfoVulcan.Db.Storage
import InfoVulcan.Shared.User

/-!
# The account handlers of the admin service

Creating an account stores a profile under a fresh id and credentials under the username; neither
is looked up first. Updating and deleting go by the id, and reach the credentials through the
username of the profile. The two records are kept in collections of the DB service, whose reads
and writes succeed here. What a handler draws from the system (ids, salts, entropy, the clock) is
an argument.
-/

namespace InfoVulcan.Admin

/-! ## Messages -/

/-- A request to create an account. -/
structure CreateUserRequest where
  username : String
  password : String
  email : String
  displayName : String
  role : Int32
  deriving DecidableEq

/-- A request to change the fields it sets. -/
structure UpdateUserRequest where
  id : String
  email : Option String
  displayName : Option String
  role : Option Int32
  active : Option Bool
  password : Option String
  deriving DecidableEq

/-- A request to delete an account. -/
structure DeleteUserRequest where
  id : String
  deriving DecidableEq

/-- A request to read an account. -/
structure GetUserRequest where
  id : String
  deriving DecidableEq

/-- The message of an account. -/
structure UserMessage where
  id : String
  username : String
  email : String
  displayName : String
  role : Int32
  active : Bool
  createdAt : UInt64
  deriving DecidableEq

/-! ## Conversions -/

/-- The role of a number. An unknown one may only read. -/
def mapRole (role : Int32) : Role :=
  match role.toInt with
  | 0 => .admin
  | 1 => .manager
  | 2 => .supervisor
  | 3 => .technician
  | 4 => .ebondPartner
  | _ => .readOnly

/-- A role as it is sent in a message. -/
def mapProtoRole (role : Role) : Int32 :=
  Int32.ofInt role.toU8.toNat

variable [Chrono]

/-- Unix seconds as they are sent in a message. A time before the epoch counts as zero. -/
def unixSeconds (time : Chrono.DateTime) : UInt64 :=
  if 0 ≤ (Chrono.timestamp time).toInt then (Chrono.timestamp time).toUInt64 else 0

/-- The message of an account. -/
def userToProto (user : User) : UserMessage where
  id := toString user.userId
  username := user.username
  email := user.email
  displayName := user.displayName
  role := mapProtoRole user.role
  active := user.isActive
  createdAt := unixSeconds user.createdAt

/-- The storage key of a profile: the id of the user. -/
def userKey [UuidParser] (id : String) : Except Status Uuid :=
  match UuidParser.parseStr id with
  | some userId => .ok userId
  | none => .error (.invalidArgument "invalid user id")

/-! ## Draws -/

variable [Primitives] [PasswordHasher]

/-- What a call draws for a new password. -/
structure PasswordDraws where
  salt : PasswordHasher.Salt
  entropy : Primitives.Entropy

/-- What the creation of an account draws. -/
structure CreateDraws where
  userId : Uuid
  credentials : PasswordDraws
  entropy : Primitives.Entropy
  createdAt : Chrono.DateTime
  updatedAt : Chrono.DateTime

/-- What an update of an account draws. -/
structure UpdateDraws where
  credentials : PasswordDraws
  entropy : Primitives.Entropy
  updatedAt : Chrono.DateTime

/-! ## Records -/

/-- The service with its keys. -/
structure AdminServiceImpl where
  keypair : KeyPair

namespace AdminServiceImpl

variable [AccountFormat] (service : AdminServiceImpl)

/-- Decrypts a stored profile. -/
def decryptUser (value : Bytes) : Except (Stop Status) User :=
  service.keypair.openRecord AccountFormat.user "encrypted data" "User" value

/-- Serialises and encrypts a profile. -/
def encryptUser (user : User) (entropy : Primitives.Entropy) : Except Status Bytes :=
  service.keypair.sealRecord AccountFormat.user user entropy

/-- Hashes a password. -/
def hashPassword (password : String) (salt : PasswordHasher.Salt) : Except Status String :=
  match PasswordHasher.hashPassword (Bytes.ofText password) salt with
  | .error e => .error (.internal s!"Failed to hash password: {e}")
  | .ok hash => .ok hash

/-! ## Creating an account -/

/-- The profile of a new account. -/
def newUser (draws : CreateDraws) (req : CreateUserRequest) : User where
  userId := draws.userId
  username := req.username
  email := req.email
  displayName := req.displayName
  role := mapRole req.role
  isActive := true
  mfaEnabled := false
  createdAt := draws.createdAt
  updatedAt := draws.updatedAt
  lastLogin := none

/-- The credentials of a new account. -/
def newAuth (userId : Uuid) (passwordHash : String) : UserAuth where
  userId := userId
  passwordHash := passwordHash
  mfaSecret := none
  mfaMethod := some .password

/-- The two records of a new account, before anything is stored. -/
def prepareAccount (draws : CreateDraws) (req : CreateUserRequest) :
    Except Status (Bytes × Bytes) :=
  match hashPassword req.password draws.credentials.salt with
  | .error status => .error status
  | .ok passwordHash =>
      match service.keypair.sealRecord AccountFormat.userAuth (newAuth draws.userId passwordHash)
          draws.credentials.entropy with
      | .error status => .error status
      | .ok authBytes =>
          match service.encryptUser (newUser draws req) draws.entropy with
          | .error status => .error status
          | .ok userBytes => .ok (userBytes, authBytes)

/-- Creates an account. Its records replace those that are stored under its id and its username. -/
def createUser (db : Sled) (draws : CreateDraws) (req : CreateUserRequest) :
    Except Status UserMessage × Sled :=
  match service.prepareAccount draws req with
  | .error status => (.error status, db)
  | .ok (userBytes, authBytes) =>
      let db := Db.put db "users" draws.userId.asBytes userBytes
      let db := Db.put db "auth" (authKey req.username) authBytes
      (.ok { userToProto (newUser draws req) with role := req.role }, db)

/-! ## Updating an account -/

/-- The MFA enrollment that is stored for a username, or that of a new account. -/
def priorMfa (db : Sled) (username : String) :
    Except (Stop Status) (Option String × Option AuthMethod) :=
  match Db.get db "auth" (authKey username) with
  | none => .ok (none, some .password)
  | some value =>
      match service.keypair.openRecord AccountFormat.userAuth "auth" "UserAuth" value with
      | .error stop => .error stop
      | .ok prior => .ok (prior.mfaSecret, prior.mfaMethod)

/-- Hashes and stores a password, preserving any existing MFA enrollment. -/
def updatePassword (db : Sled) (draws : PasswordDraws) (username : String) (userId : Uuid)
    (password : String) : Except (Stop Status) Unit × Sled :=
  match hashPassword password draws.salt with
  | .error status => (.error (.error status), db)
  | .ok passwordHash =>
      match service.priorMfa db username with
      | .error stop => (.error stop, db)
      | .ok (mfaSecret, mfaMethod) =>
          match service.keypair.sealRecord AccountFormat.userAuth
              { userId, passwordHash, mfaSecret, mfaMethod } draws.entropy with
          | .error status => (.error (.error status), db)
          | .ok authBytes => (.ok (), Db.put db "auth" (authKey username) authBytes)

/-- The profile with the fields a request sets. -/
def applyUpdate (draws : UpdateDraws) (req : UpdateUserRequest) (user : User) : User :=
  { user with
    email := req.email.getD user.email
    displayName := req.displayName.getD user.displayName
    role := (req.role.map mapRole).getD user.role
    isActive := req.active.getD user.isActive
    updatedAt := draws.updatedAt }

/-- Reads the profile of a user who must exist. -/
def existingUser [UuidParser] (db : Sled) (id : String) : Except (Stop Status) User :=
  match userKey id with
  | .error status => .error (.error status)
  | .ok userId =>
      match Db.get db "users" userId.asBytes with
      | none => .error (.error (.notFound "User not found"))
      | some value => service.decryptUser value

/-- Reads an account. -/
def getUser [UuidParser] (db : Sled) (req : GetUserRequest) : Except (Stop Status) UserMessage :=
  (service.existingUser db req.id).map userToProto

/-- Stores a profile. -/
def storeUser (db : Sled) (user : User) (entropy : Primitives.Entropy) :
    Except Status Unit × Sled :=
  match service.encryptUser user entropy with
  | .error status => (.error status, db)
  | .ok userBytes => (.ok (), Db.put db "users" user.userId.asBytes userBytes)

/-- Updates an account. A new password is stored first, before the profile. -/
def updateUser [UuidParser] (db : Sled) (draws : UpdateDraws) (req : UpdateUserRequest) :
    Except (Stop Status) UserMessage × Sled :=
  match service.existingUser db req.id with
  | .error stop => (.error stop, db)
  | .ok user =>
      let user := applyUpdate draws req user
      let (stored, db) := match req.password with
        | some password =>
            service.updatePassword db draws.credentials user.username user.userId password
        | none => (.ok (), db)
      match stored with
      | .error stop => (.error stop, db)
      | .ok () =>
          match service.storeUser db user draws.entropy with
          | (.error status, db) => (.error (.error status), db)
          | (.ok (), db) => (.ok (userToProto user), db)

/-- Deletes an account: deactivates it, and never removes it. -/
def deleteUser [UuidParser] (db : Sled) (draws : UpdateDraws) (req : DeleteUserRequest) :
    Except (Stop Status) Bool × Sled :=
  match service.existingUser db req.id with
  | .error stop => (.error stop, db)
  | .ok user =>
      let user := { user with isActive := false, updatedAt := draws.updatedAt }
      match service.storeUser db user draws.entropy with
      | (.error status, db) => (.error (.error status), db)
      | (.ok (), db) => (.ok true, db)

end AdminServiceImpl

end InfoVulcan.Admin
