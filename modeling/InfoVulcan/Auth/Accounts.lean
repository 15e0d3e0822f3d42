import InfoVulcan.Admin.Server
import InfoVulcan.Auth.Server

/-!
# The account records of the two services

The admin and the auth service share one store and one key pair. The records they keep are those
of two tables, profiles by id and credentials by username (`Stores`), and what each call does to
the tables is one lemma: `createUser_cases`, `updateUser_cases` and `deleteUser_cases`. Logins and
checks of sessions read only.
-/

namespace InfoVulcan.Auth

open Admin

variable [Chrono]

/-! ## Tables -/

/-- The records of all accounts: profiles by id, credentials by username. -/
structure Accounts where
  profiles : Uuid → Option User
  auths : String → Option UserAuth

namespace Accounts

/-- No accounts. -/
def empty : Accounts where
  profiles _ := none
  auths _ := none

/-- The accounts with a profile stored under its id. -/
def withProfile (accounts : Accounts) (user : User) : Accounts :=
  { accounts with profiles := Function.update accounts.profiles user.userId (some user) }

/-- The accounts with credentials stored under a username. -/
def withAuth (accounts : Accounts) (username : String) (auth : UserAuth) : Accounts :=
  { accounts with auths := Function.update accounts.auths username (some auth) }

section Lookups

variable (accounts : Accounts)

theorem profiles_withProfile (user : User) (id : Uuid) :
    (accounts.withProfile user).profiles id =
      if id = user.userId then some user else accounts.profiles id :=
  Function.update_apply _ _ _ _

@[simp] theorem auths_withProfile (user : User) (username : String) :
    (accounts.withProfile user).auths username = accounts.auths username := rfl

theorem auths_withAuth (name : String) (auth : UserAuth) (username : String) :
    (accounts.withAuth name auth).auths username =
      if username = name then some auth else accounts.auths username :=
  Function.update_apply _ _ _ _

@[simp] theorem profiles_withAuth (name : String) (auth : UserAuth) (id : Uuid) :
    (accounts.withAuth name auth).profiles id = accounts.profiles id := rfl

end Lookups

/-- The credentials of a user with a new password: MFA stays as it is. -/
def rehashed (accounts : Accounts) (user : User) (passwordHash : String) : UserAuth where
  userId := user.userId
  passwordHash := passwordHash
  mfaSecret := (accounts.auths user.username).elim none UserAuth.mfaSecret
  mfaMethod := (accounts.auths user.username).elim (some .password) UserAuth.mfaMethod

end Accounts

variable [Primitives] [AccountFormat]

/-- The cell holds the record, encrypted, if there is one. -/
def Sealed {α : Type} (keypair : KeyPair) (codec : Codec α) (cell : Option Bytes) :
    Option α → Prop
  | none => cell = none
  | some a => ∃ value entropy, cell = some value ∧ keypair.sealRecord codec a entropy = .ok value

/-- Records are held in cells, and one more is put in its cell. -/
theorem sealed_put {ι α : Type} [DecidableEq ι] {keypair : KeyPair} {codec : Codec α}
    {cell : ι → SledCell} (hcell : Function.Injective cell) {records : ι → Option α} {db : Sled}
    (h : ∀ i, Sealed keypair codec (db.at? (cell i)) (records i)) {a : α}
    {entropy : Primitives.Entropy} {value : Bytes}
    (hvalue : keypair.sealRecord codec a entropy = .ok value) (i j : ι) :
    Sealed keypair codec ((Db.put db (cell i).space (cell i).key value).at? (cell j))
      (if j = i then some a else records j) := by
  rw [Db.put, Keyspace.at_put]
  by_cases hj : j = i
  · subst hj
    rw [if_pos rfl, if_pos rfl]
    exact ⟨value, entropy, rfl, hvalue⟩
  · rw [if_neg fun heq => hj (hcell heq.symm), if_neg hj]
    exact h j

omit [Chrono] [Primitives] [AccountFormat] in
/-- A profile has a cell of its own. -/
theorem users_cell_injective :
    Function.Injective fun id : Uuid => (⟨"users", id.asBytes⟩ : SledCell) := by
  intro id id' h
  simpa using h

omit [Chrono] [Primitives] [AccountFormat] in
/-- Credentials have a cell of their own. -/
theorem auth_cell_injective :
    Function.Injective fun username => (⟨"auth", authKey username⟩ : SledCell) := by
  intro username username' h
  simpa using h

/-- The store holds the accounts, every profile under its own id. -/
structure Stores (keypair : KeyPair) (accounts : Accounts) (db : Sled) : Prop where
  profiles : ∀ id, Sealed keypair AccountFormat.user (db.at? ⟨"users", id.asBytes⟩)
    (accounts.profiles id)
  auths : ∀ username, Sealed keypair AccountFormat.userAuth (db.at? ⟨"auth", authKey username⟩)
    (accounts.auths username)
  keyed : ∀ id user, accounts.profiles id = some user → user.userId = id

namespace Stores

variable {keypair : KeyPair} {accounts : Accounts} {db : Sled}

theorem empty : Stores keypair .empty Keyspace.empty where
  profiles id := Keyspace.at_empty _
  auths username := Keyspace.at_empty _
  keyed id user h := by cases h

/-- A profile is stored under its id. -/
theorem putProfile (h : Stores keypair accounts db) {user : User} {entropy : Primitives.Entropy}
    {value : Bytes} (hvalue : keypair.sealRecord AccountFormat.user user entropy = .ok value) :
    Stores keypair (accounts.withProfile user) (Db.put db "users" user.userId.asBytes value) where
  profiles id := by
    rw [Accounts.profiles_withProfile]
    exact sealed_put users_cell_injective h.profiles hvalue user.userId id
  auths username := by
    rw [Db.put, Keyspace.at_put, if_neg (by simp)]
    exact h.auths username
  keyed id user' h' := by
    rw [Accounts.profiles_withProfile] at h'
    split at h'
    case isTrue hid => rw [← Option.some.inj h', hid]
    case isFalse => exact h.keyed id user' h'

/-- Credentials are stored under a username. -/
theorem putAuth (h : Stores keypair accounts db) (username : String) {auth : UserAuth}
    {entropy : Primitives.Entropy} {value : Bytes}
    (hvalue : keypair.sealRecord AccountFormat.userAuth auth entropy = .ok value) :
    Stores keypair (accounts.withAuth username auth)
      (Db.put db "auth" (authKey username) value) where
  profiles id := by
    rw [Db.put, Keyspace.at_put, if_neg (by simp)]
    exact h.profiles id
  auths username' := by
    rw [Accounts.auths_withAuth]
    exact sealed_put auth_cell_injective h.auths hvalue username username'
  keyed := h.keyed

end Stores

namespace Sealed

variable {α : Type} {keypair : KeyPair} {codec : Codec α} {o : Option α}

/-- An empty cell holds no record. -/
theorem none_eq (h : Sealed keypair codec none o) : o = none := by
  cases o with
  | none => rfl
  | some a =>
      obtain ⟨value, entropy, hcell, -⟩ := h
      cases hcell

/-- The record of a cell is opened. -/
theorem open_eq {value : Bytes} (h : Sealed keypair codec (some value) o) :
    ∃ a, o = some a ∧ ∀ outer inner, keypair.openRecord codec outer inner value = .ok a := by
  cases o with
  | none => cases h
  | some a =>
      obtain ⟨value', entropy, hcell, hsealed⟩ := h
      obtain rfl := Option.some.inj hcell
      exact ⟨a, rfl, KeyPair.openRecord_sealRecord hsealed⟩

end Sealed

/-! ## Calls -/

variable [PasswordHasher] [UuidParser]

/-- The admin and the auth service, with the keys they share. -/
structure AccountServices where
  keypair : KeyPair
  jwtSecret : Bytes

namespace AccountServices

def admin (services : AccountServices) : AdminServiceImpl where
  keypair := services.keypair

def auth (services : AccountServices) : AuthServiceImpl where
  keypair := services.keypair
  jwtSecret := services.jwtSecret

end AccountServices

/-- A call to one of the services, with what it draws from the system. -/
inductive Call where
  | createUser (draws : CreateDraws) (req : CreateUserRequest)
  | updateUser (draws : UpdateDraws) (req : UpdateUserRequest)
  | deleteUser (draws : UpdateDraws) (req : DeleteUserRequest)
  | authenticate (around : Surroundings) (req : AuthenticateRequest)
  | validateSession (now : Chrono.DateTime) (req : ValidateSessionRequest)

/-- The store after a call. -/
def perform (services : AccountServices) (db : Sled) : Call → Sled
  | .createUser draws req => (services.admin.createUser db draws req).2
  | .updateUser draws req => (services.admin.updateUser db draws req).2
  | .deleteUser draws req => (services.admin.deleteUser db draws req).2
  | .authenticate _ _ => db
  | .validateSession _ _ => db

/-- The store after a list of calls, from an empty one. -/
def performAll (services : AccountServices) (calls : List Call) : Sled :=
  calls.foldl (perform services) Keyspace.empty

theorem performAll_snoc (services : AccountServices) (calls : List Call) (call : Call) :
    performAll services (calls ++ [call]) = perform services (performAll services calls) call := by
  rw [performAll, List.foldl_append]
  rfl

/-! ## Reading -/

namespace Stores

variable {services : AccountServices} {accounts : Accounts} {db : Sled}

omit [PasswordHasher] [UuidParser] in
/-- The auth service reads the profiles that are stored. -/
theorem getUserProfile (h : Stores services.keypair accounts db) (id : Uuid) :
    services.auth.getUserProfile db id = .ok (accounts.profiles id) := by
  have hcell : Sealed _ _ (Db.get db "users" id.asBytes) _ := h.profiles id
  rw [AuthServiceImpl.getUserProfile]
  cases hget : Db.get db "users" id.asBytes with
  | none =>
      rw [hget] at hcell
      rw [hcell.none_eq]
  | some value =>
      rw [hget] at hcell
      obtain ⟨user, hprofile, hopen⟩ := hcell.open_eq
      rw [hprofile]
      exact congrArg (Except.map some) (hopen _ _)

omit [PasswordHasher] [UuidParser] in
/-- The auth service reads the credentials that are stored. -/
theorem getUserAuth (h : Stores services.keypair accounts db) (username : String) :
    services.auth.getUserAuth db username = .ok (accounts.auths username) := by
  have hcell : Sealed _ _ (Db.get db "auth" (authKey username)) _ := h.auths username
  rw [AuthServiceImpl.getUserAuth]
  cases hget : Db.get db "auth" (authKey username) with
  | none =>
      rw [hget] at hcell
      rw [hcell.none_eq]
  | some value =>
      rw [hget] at hcell
      obtain ⟨auth, hauth, hopen⟩ := hcell.open_eq
      rw [hauth]
      exact congrArg (Except.map some) (hopen _ _)

omit [PasswordHasher] in
/-- The admin service reads a profile that is stored under the id it is given. -/
theorem existingUser (h : Stores services.keypair accounts db) {id : String} {user : User} :
    services.admin.existingUser db id = .ok user ↔
      ∃ userId, UuidParser.parseStr id = some userId ∧ accounts.profiles userId = some user := by
  rw [AdminServiceImpl.existingUser, userKey]
  cases hparse : UuidParser.parseStr id with
  | none => simp
  | some userId =>
      have hcell : Sealed _ _ (Db.get db "users" userId.asBytes) _ := h.profiles userId
      simp only [Option.some.injEq, exists_eq_left']
      cases hget : Db.get db "users" userId.asBytes with
      | none =>
          rw [hget] at hcell
          simp [hcell.none_eq]
      | some value =>
          rw [hget] at hcell
          obtain ⟨user', hprofile, hopen⟩ := hcell.open_eq
          rw [hprofile]
          simp only [AdminServiceImpl.decryptUser, AccountServices.admin, hopen, Except.ok.injEq,
            Option.some.injEq]

omit [PasswordHasher] [UuidParser] in
/-- The admin service reads the enrollment that is stored. -/
theorem priorMfa (h : Stores services.keypair accounts db) (username : String) :
    services.admin.priorMfa db username =
      .ok ((accounts.auths username).elim none UserAuth.mfaSecret,
        (accounts.auths username).elim (some .password) UserAuth.mfaMethod) := by
  have hcell : Sealed _ _ (Db.get db "auth" (authKey username)) _ := h.auths username
  rw [AdminServiceImpl.priorMfa]
  cases hget : Db.get db "auth" (authKey username) with
  | none =>
      rw [hget] at hcell
      rw [hcell.none_eq]
      rfl
  | some value =>
      rw [hget] at hcell
      obtain ⟨auth, hauth, hopen⟩ := hcell.open_eq
      simp only [AccountServices.admin, hopen, hauth, Option.elim_some]

/-! ## Effects -/

omit [UuidParser] in
/-- An account is created when its records can be made. They replace what is stored under its id
and its username. -/
theorem createUser_cases (h : Stores services.keypair accounts db) (draws : CreateDraws)
    (req : CreateUserRequest) :
    (∃ status, services.admin.prepareAccount draws req = .error status ∧
        services.admin.createUser db draws req = (.error status, db)) ∨
      ∃ records passwordHash, services.admin.prepareAccount draws req = .ok records ∧
        AdminServiceImpl.hashPassword req.password draws.credentials.salt = .ok passwordHash ∧
        Stores services.keypair
          ((accounts.withProfile (AdminServiceImpl.newUser draws req)).withAuth req.username
            (AdminServiceImpl.newAuth draws.userId passwordHash))
          (services.admin.createUser db draws req).2 := by
  rw [AdminServiceImpl.createUser]
  cases hprepare : services.admin.prepareAccount draws req with
  | error status => exact .inl ⟨status, rfl, rfl⟩
  | ok records =>
      obtain ⟨userBytes, authBytes⟩ := records
      refine .inr ⟨(userBytes, authBytes), ?_⟩
      rw [AdminServiceImpl.prepareAccount] at hprepare
      split at hprepare
      · cases hprepare
      next passwordHash hhash =>
      split at hprepare
      · cases hprepare
      next authBytes' hauth =>
      split at hprepare
      · cases hprepare
      next userBytes' huser =>
      obtain ⟨rfl, rfl⟩ := Prod.mk.inj (Except.ok.inj hprepare)
      exact ⟨passwordHash, rfl, hhash, (h.putProfile huser).putAuth req.username hauth⟩

omit [UuidParser] in
/-- A new password is stored with the enrollment that is there. -/
theorem updatePassword_cases (h : Stores services.keypair accounts db) (draws : PasswordDraws)
    (user : User) (password : String) :
    (∃ stop, services.admin.updatePassword db draws user.username user.userId password =
        (.error stop, db)) ∨
      ∃ passwordHash db', services.admin.updatePassword db draws user.username user.userId
          password = (.ok (), db') ∧
        Stores services.keypair
          (accounts.withAuth user.username (accounts.rehashed user passwordHash)) db' := by
  rw [AdminServiceImpl.updatePassword]
  split
  · exact .inl ⟨_, rfl⟩
  next passwordHash hhash =>
  rw [h.priorMfa]
  dsimp only
  split
  · exact .inl ⟨_, rfl⟩
  next authBytes hauth =>
  exact .inr ⟨passwordHash, _, rfl, h.putAuth user.username hauth⟩

omit [PasswordHasher] [UuidParser] in
/-- A profile is stored when it can be encrypted. -/
theorem storeUser_cases (h : Stores services.keypair accounts db) (user : User)
    (entropy : Primitives.Entropy) :
    (∃ status, services.admin.storeUser db user entropy = (.error status, db)) ∨
      ∃ db', services.admin.storeUser db user entropy = (.ok (), db') ∧
        Stores services.keypair (accounts.withProfile user) db' := by
  rw [AdminServiceImpl.storeUser]
  split
  · exact .inl ⟨_, rfl⟩
  next userBytes huser =>
  exact .inr ⟨_, rfl, h.putProfile huser⟩

end Stores

/-- What an update does to the credentials: nothing, or, if it sets a password, a new hash in those
of the user. -/
def PasswordEffect (accounts : Accounts) (user : User) (password : Option String)
    (accounts' : Accounts) : Prop :=
  accounts' = accounts ∨
    password.isSome ∧ ∃ passwordHash,
      accounts' = accounts.withAuth user.username (accounts.rehashed user passwordHash)

namespace Stores

variable {services : AccountServices} {accounts : Accounts} {db : Sled}

/-- An update changes the credentials of its user, if it sets a password, and then the profile. It
may fail before, in between, or not at all. -/
theorem updateUser_cases (h : Stores services.keypair accounts db) (draws : UpdateDraws)
    (req : UpdateUserRequest) :
    ((services.admin.updateUser db draws req).1.isOk = false ∧
        Stores services.keypair accounts (services.admin.updateUser db draws req).2) ∨
      ∃ userId user, UuidParser.parseStr req.id = some userId ∧
        accounts.profiles userId = some user ∧
        ∃ accounts', PasswordEffect accounts user req.password accounts' ∧
          ((services.admin.updateUser db draws req).1.isOk = false ∧
              Stores services.keypair accounts' (services.admin.updateUser db draws req).2 ∨
            (services.admin.updateUser db draws req).1.isOk ∧
              Stores services.keypair
                (accounts'.withProfile (AdminServiceImpl.applyUpdate draws req user))
                (services.admin.updateUser db draws req).2) := by
  cases hexisting : services.admin.existingUser db req.id with
  | error stop =>
      simp only [AdminServiceImpl.updateUser, hexisting]
      exact .inl ⟨rfl, h⟩
  | ok user =>
      obtain ⟨userId, hparse, hprofile⟩ := h.existingUser.mp hexisting
      cases hpassword : req.password with
      | none =>
          refine .inr ⟨userId, user, hparse, hprofile, accounts, .inl rfl, ?_⟩
          rcases h.storeUser_cases (AdminServiceImpl.applyUpdate draws req user) draws.entropy with
            ⟨status, hstore⟩ | ⟨db', hstore, hdb'⟩
          · simp only [AdminServiceImpl.updateUser, hexisting, hpassword, hstore]
            exact .inl ⟨rfl, h⟩
          · simp only [AdminServiceImpl.updateUser, hexisting, hpassword, hstore]
            exact .inr ⟨rfl, hdb'⟩
      | some password =>
          have hstored : (AdminServiceImpl.applyUpdate draws req user).username = user.username ∧
              (AdminServiceImpl.applyUpdate draws req user).userId = user.userId := ⟨rfl, rfl⟩
          rcases h.updatePassword_cases draws.credentials user password with
            ⟨stop, hfail⟩ | ⟨passwordHash, db₁, hok, hdb₁⟩
          · simp only [AdminServiceImpl.updateUser, hexisting, hpassword, hstored, hfail]
            exact .inl ⟨rfl, h⟩
          refine .inr ⟨userId, user, hparse, hprofile, _, .inr ⟨rfl, passwordHash, rfl⟩, ?_⟩
          rcases hdb₁.storeUser_cases (AdminServiceImpl.applyUpdate draws req user) draws.entropy
            with ⟨status, hstore⟩ | ⟨db', hstore, hdb'⟩
          · simp only [AdminServiceImpl.updateUser, hexisting, hpassword, hstored, hok, hstore]
            exact .inl ⟨rfl, hdb₁⟩
          · simp only [AdminServiceImpl.updateUser, hexisting, hpassword, hstored, hok, hstore]
            exact .inr ⟨rfl, hdb'⟩

/-- A deletion deactivates a profile that is there. -/
theorem deleteUser_cases (h : Stores services.keypair accounts db) (draws : UpdateDraws)
    (req : DeleteUserRequest) :
    ((services.admin.deleteUser db draws req).1.isOk = false ∧
        Stores services.keypair accounts (services.admin.deleteUser db draws req).2) ∨
      ∃ userId user, UuidParser.parseStr req.id = some userId ∧
        accounts.profiles userId = some user ∧
        (services.admin.deleteUser db draws req).1.isOk ∧
        Stores services.keypair
          (accounts.withProfile { user with isActive := false, updatedAt := draws.updatedAt })
          (services.admin.deleteUser db draws req).2 := by
  cases hexisting : services.admin.existingUser db req.id with
  | error stop =>
      simp only [AdminServiceImpl.deleteUser, hexisting]
      exact .inl ⟨rfl, h⟩
  | ok user =>
      obtain ⟨userId, hparse, hprofile⟩ := h.existingUser.mp hexisting
      rcases h.storeUser_cases { user with isActive := false, updatedAt := draws.updatedAt }
        draws.entropy with ⟨status, hstore⟩ | ⟨db', hstore, hdb'⟩
      · simp only [AdminServiceImpl.deleteUser, hexisting, hstore]
        exact .inl ⟨rfl, h⟩
      · simp only [AdminServiceImpl.deleteUser, hexisting, hstore]
        exact .inr ⟨userId, user, hparse, hprofile, rfl, hdb'⟩

end Stores

end InfoVulcan.Auth
