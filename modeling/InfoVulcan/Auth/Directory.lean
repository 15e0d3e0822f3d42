import InfoVulcan.Admin.Users
import InfoVulcan.Auth.Json
import InfoVulcan.Db.RecordBook

/-!
# The account services keep a directory

What the admin and the auth service are for can be said without keys, formats and a DB: they keep
profiles by id and credentials by username in plain tables (`Accounts`), and answer from those.
`services_keep_directory` says that they answer every list of requests so, whatever other services
store elsewhere in between.
-/

namespace InfoVulcan.Auth

open Admin

variable [Chrono] [Primitives]

/-! ## Requests -/

section Requests

variable [PasswordHasher]

/-- A request to one of the two services, or one of another service to the DB they share. -/
inductive AccountRequest where
  | createUser (draws : CreateDraws) (req : CreateUserRequest)
  | getUser (req : GetUserRequest)
  | listUsers (req : ListUsersRequest)
  | updateUser (draws : UpdateDraws) (req : UpdateUserRequest)
  | deleteUser (draws : UpdateDraws) (req : DeleteUserRequest)
  | authenticate (around : Surroundings) (req : AuthenticateRequest)
  | validateSession (now : Chrono.DateTime) (req : ValidateSessionRequest)
  | logout
  | elsewhere (req : Db.Request)

/-- A reply to such a request. -/
inductive AccountReply where
  | created (result : Except Status UserMessage)
  | shown (result : Except (Stop Status) UserMessage)
  | page (result : Except (Stop Status) ListUsersResponse)
  | updated (result : Except (Stop Status) UserMessage)
  | deleted (result : Except (Stop Status) Bool)
  | login (result : Except (Stop Status) AuthenticateResponse)
  | session (result : Except (Stop Status) ValidateSessionResponse)
  | loggedOut (response : LogoutResponse)
  | elsewhere (reply : Db.Reply)

/-- The other services leave the two collections of accounts alone. -/
def AccountRequest.Apart : AccountRequest → Prop
  | .elsewhere req => ∀ e ∈ req.command?, "users" ∉ e.trees ∧ "auth" ∉ e.trees
  | _ => True

variable [AccountFormat] [Totp] [Jwt] [SessionClock] [UuidParser] [Db.RowFormat] [FailureText]

/-- Answers a request, and changes the store. -/
def AccountServices.handle (services : AccountServices) (db : Sled) :
    AccountRequest → AccountReply × Sled
  | .createUser draws req => (services.admin.createUser db draws req).map .created id
  | .getUser req => (.shown (services.admin.getUser db req), db)
  | .listUsers req => (.page (services.admin.listUsers db req), db)
  | .updateUser draws req => (services.admin.updateUser db draws req).map .updated id
  | .deleteUser draws req => (services.admin.deleteUser db draws req).map .deleted id
  | .authenticate around req => (.login (services.auth.authenticate db around req), db)
  | .validateSession now req => (.session (services.auth.validateSession db now req), db)
  | .logout => (.loggedOut AuthServiceImpl.logout, db)
  | .elsewhere req => (Db.DatabaseService.answer db req).map .elsewhere id

end Requests

/-! ## The directory -/

namespace Accounts

section Directory

variable [PasswordHasher] [AccountFormat] [Totp] [Jwt] [SessionClock] [UuidParser]

variable (services : AccountServices) (accounts : Accounts)

/-- The profile of a user who must exist. -/
def existingUser (id : String) : Except Status User :=
  match userKey id with
  | .error status => .error status
  | .ok userId =>
      match accounts.profiles userId with
      | none => .error (.notFound "User not found")
      | some user => .ok user

/-- Creates an account, if its records can be made. -/
def createUser (draws : CreateDraws) (req : CreateUserRequest) :
    Except Status UserMessage × Accounts :=
  match services.admin.prepareAccount draws req,
      AdminServiceImpl.hashPassword req.password draws.credentials.salt with
  | .ok _, .ok passwordHash =>
      (.ok { userToProto (AdminServiceImpl.newUser draws req) with role := req.role },
        (accounts.withProfile (AdminServiceImpl.newUser draws req)).withAuth req.username
          (AdminServiceImpl.newAuth draws.userId passwordHash))
  | .error status, _ => (.error status, accounts)
  | _, .error status => (.error status, accounts)

/-- Sets a password and keeps the second factor. -/
def setPassword (draws : PasswordDraws) (user : User) (password : String) :
    Except Status Unit × Accounts :=
  match AdminServiceImpl.hashPassword password draws.salt with
  | .error status => (.error status, accounts)
  | .ok passwordHash =>
      match services.keypair.sealRecord AccountFormat.userAuth (accounts.rehashed user passwordHash)
          draws.entropy with
      | .error status => (.error status, accounts)
      | .ok _ => (.ok (), accounts.withAuth user.username (accounts.rehashed user passwordHash))

/-- Replaces a profile, if it can be encrypted. -/
def storeUser (user : User) (entropy : Primitives.Entropy) : Except Status Unit × Accounts :=
  match services.admin.encryptUser user entropy with
  | .error status => (.error status, accounts)
  | .ok _ => (.ok (), accounts.withProfile user)

/-- Updates an account: the password first, then the profile. -/
def updateUser (draws : UpdateDraws) (req : UpdateUserRequest) :
    Except Status UserMessage × Accounts :=
  match accounts.existingUser req.id with
  | .error status => (.error status, accounts)
  | .ok user =>
      let user := AdminServiceImpl.applyUpdate draws req user
      let (stored, accounts) := match req.password with
        | some password => accounts.setPassword services draws.credentials user password
        | none => (.ok (), accounts)
      match stored with
      | .error status => (.error status, accounts)
      | .ok () => (accounts.storeUser services user draws.entropy).map
          (Except.map fun _ => userToProto user) id

/-- Deactivates an account. -/
def deleteUser (draws : UpdateDraws) (req : DeleteUserRequest) : Except Status Bool × Accounts :=
  match accounts.existingUser req.id with
  | .error status => (.error status, accounts)
  | .ok user =>
      (accounts.storeUser services { user with isActive := false, updatedAt := draws.updatedAt }
        draws.entropy).map (Except.map fun _ => true) id

/-- Logs a user in whose password and second factor are right. -/
def authenticate (around : Surroundings) (req : AuthenticateRequest) :
    Except Status AuthenticateResponse :=
  match accounts.auths req.username with
  | none => .ok (.denied "Invalid credentials")
  | some userAuth =>
      match PasswordHasher.parse userAuth.passwordHash with
      | .error e => .error (.internal s!"Invalid password hash in DB: {e}")
      | .ok parsedHash =>
          match PasswordHasher.verifyPassword (Bytes.ofText req.password) parsedHash with
          | .error _ => .ok (.denied "Invalid credentials")
          | .ok () =>
              match checkMfa userAuth.mfaSecret req.mfaToken around,
                accounts.profiles userAuth.userId
                with
              | .error status, _ => .error status
              | .ok (some denial), _ => .ok (.denied denial)
              | .ok none, none => .error (.internal "User profile missing for valid auth")
              | .ok none, some user =>
                  (services.auth.issueToken user around.now).map fun token =>
                    { success := true, sessionToken := token, error := "",
                      user := some (userInfo user) }

/-- Checks a session, and shows the profile of its user. -/
def validateSession (now : Chrono.DateTime) (req : ValidateSessionRequest) :
    Except Status ValidateSessionResponse :=
  match Jwt.decode req.sessionToken services.jwtSecret now with
  | none => .ok (.invalid "Invalid token")
  | some claims =>
      match UuidParser.parseStr claims.sub with
      | none => .error (.internal "Invalid user_id in token")
      | some userId =>
          match accounts.profiles userId with
          | none => .ok (.invalid "User not found")
          | some user => .ok { valid := true, user := some (userInfo user), error := "" }

/-- A page of the profiles, which are given in the order of their ids. -/
def page (users : List User) (req : ListUsersRequest) : ListUsersResponse :=
  let sorted := (users.map userToProto).mergeSort byUsername
  ⟨(sorted.drop (saturatingMul (max req.page 1 - 1) (effectiveSize req.pageSize)).toNat).take
    (effectiveSize req.pageSize).toNat, countU32 sorted.length⟩

/-- The users are those who have a profile, in the order of their ids. -/
structure Lists (users : List User) : Prop where
  ascending : users.Pairwise fun a b => compare a.userId.asBytes b.userId.asBytes = .lt
  mem_iff : ∀ user, user ∈ users ↔ accounts.profiles user.userId = some user

/-- The reply to a request is the one the tables give. -/
def Answers : AccountRequest → AccountReply → Prop
  | .createUser draws req, reply => reply = .created (accounts.createUser services draws req).1
  | .getUser req, reply =>
      reply = .shown (((accounts.existingUser req.id).map userToProto).mapError .error)
  | .listUsers req, reply => ∃ users, accounts.Lists users ∧ reply = .page (.ok (page users req))
  | .updateUser draws req, reply =>
      reply = .updated ((accounts.updateUser services draws req).1.mapError .error)
  | .deleteUser draws req, reply =>
      reply = .deleted ((accounts.deleteUser services draws req).1.mapError .error)
  | .authenticate around req, reply =>
      reply = .login ((accounts.authenticate services around req).mapError .error)
  | .validateSession now req, reply =>
      reply = .session ((accounts.validateSession services now req).mapError .error)
  | .logout, reply => reply = .loggedOut ⟨true, ""⟩
  | .elsewhere _, _ => True

/-- The tables after a request. -/
def after : AccountRequest → Accounts
  | .createUser draws req => (accounts.createUser services draws req).2
  | .updateUser draws req => (accounts.updateUser services draws req).2
  | .deleteUser draws req => (accounts.deleteUser services draws req).2
  | _ => accounts

/-- The directory: replies from the tables, and the tables that come next. -/
def specification : Specification Accounts AccountRequest AccountReply where
  permits accounts := accounts.Answers services
  after accounts := accounts.after services

end Directory

end Accounts

/-! ## The store keeps the directory -/

section Keeps

variable [AccountFormat] {services : AccountServices} {accounts : Accounts} {db : Sled}

/-- The store keeps the tables, and the collection of users holds nothing but their profiles. -/
structure Keeps (services : AccountServices) (accounts : Accounts) (db : Sled) : Prop where
  stores : Stores services.keypair accounts db
  rows : ∀ key value, db.at? ⟨"users", key⟩ = some value → ∃ id : Uuid, key = id.asBytes

theorem keeps_empty : Keeps services .empty Keyspace.empty where
  stores := .empty
  rows key value hget := by rw [Keyspace.at_empty] at hget; cases hget

namespace Keeps

/-- A profile is stored under the id of its user. -/
theorem putProfile (h : Keeps services accounts db) {user : User} {entropy : Primitives.Entropy}
    {value : Bytes}
    (hvalue : services.keypair.sealRecord AccountFormat.user user entropy = .ok value) :
    Keeps services (accounts.withProfile user) (Db.put db "users" user.userId.asBytes value) where
  stores := h.stores.putProfile hvalue
  rows key value' hget := by
    rw [Db.put, Keyspace.at_put] at hget
    split at hget
    next hcell => exact ⟨user.userId, by simpa using hcell.symm⟩
    next => exact h.rows key value' hget

/-- Credentials are stored under a username. -/
theorem putAuth (h : Keeps services accounts db) (username : String) {auth : UserAuth}
    {entropy : Primitives.Entropy} {value : Bytes}
    (hvalue : services.keypair.sealRecord AccountFormat.userAuth auth entropy = .ok value) :
    Keeps services (accounts.withAuth username auth)
      (Db.put db "auth" (authKey username) value) where
  stores := h.stores.putAuth username hvalue
  rows key value' hget := by
    rw [Db.put, Keyspace.at_put, if_neg (by simp)] at hget
    exact h.rows key value' hget

/-- Writes elsewhere change nothing. -/
theorem congr (h : Keeps services accounts db) {db' : Sled}
    (hcells : ∀ c : SledCell, c.space = "users" ∨ c.space = "auth" → db'.at? c = db.at? c) :
    Keeps services accounts db' where
  stores :=
    { profiles := fun id => (hcells ⟨"users", _⟩ (.inl rfl)).symm ▸ h.stores.profiles id
      auths := fun username => (hcells ⟨"auth", _⟩ (.inr rfl)).symm ▸ h.stores.auths username
      keyed := h.stores.keyed }
  rows key value hget := h.rows key value ((hcells _ (.inl rfl)).symm.trans hget)

/-! ## Reading -/

/-- The admin service reads the profile of a user who must exist. -/
theorem existingUser [UuidParser] (h : Keeps services accounts db) (id : String) :
    services.admin.existingUser db id = (accounts.existingUser id).mapError .error := by
  rw [AdminServiceImpl.existingUser, Accounts.existingUser]
  cases userKey id with
  | error status => rfl
  | ok userId =>
      have hcell : Sealed _ _ (Db.get db "users" userId.asBytes) _ := h.stores.profiles userId
      dsimp only
      cases hget : Db.get db "users" userId.asBytes with
      | none =>
          rw [hget] at hcell
          rw [hcell.none_eq]
          rfl
      | some value =>
          rw [hget] at hcell
          obtain ⟨user, hprofile, hopen⟩ := hcell.open_eq
          rw [hprofile]
          exact hopen _ _

/-- The rows of the collection of users are the profiles, in the order of their ids. -/
theorem exists_users (h : Keeps services accounts db) :
    ∃ users, accounts.Lists users ∧ services.admin.decodeUsers (listItems db "users" [] 0) [] =
      .ok (users.map userToProto) := by
  rw [listItems_all]
  -- Every row holds the profile whose id is its key.
  have hrow : ∀ kv ∈ Keyspace.scan db "users", ∃ user : User, kv.1 = user.userId.asBytes ∧
      accounts.profiles user.userId = some user ∧
      services.admin.decryptUser kv.2 = .ok user := by
    rintro ⟨key, value⟩ hmem
    have hget : db.at? ⟨"users", key⟩ = some value := Keyspace.mem_scan.mp hmem
    obtain ⟨id, rfl⟩ := h.rows key value hget
    have hcell := h.stores.profiles id
    rw [hget] at hcell
    obtain ⟨user, hprofile, hopen⟩ := hcell.open_eq
    obtain rfl := h.stores.keyed id user hprofile
    exact ⟨user, rfl, hprofile, hopen _ _⟩
  let decoded (kv : Bytes × Bytes) : Option User := (services.admin.decryptUser kv.2).toOption
  have hdecoded : ∀ kv ∈ Keyspace.scan db "users", ∀ user, decoded kv = some user →
      kv.1 = user.userId.asBytes ∧ accounts.profiles user.userId = some user := by
    intro kv hmem user hsome
    obtain ⟨user', hkey, hprofile, hopen⟩ := hrow kv hmem
    simp only [decoded, hopen, Except.toOption, Option.some.injEq] at hsome
    exact hsome ▸ ⟨hkey, hprofile⟩
  refine ⟨(Keyspace.scan db "users").filterMap decoded, ⟨?_, fun user => ?_⟩, ?_⟩
  · refine List.pairwise_filterMap.mpr ((Keyspace.scan_sorted db "users").imp_of_mem ?_)
    intro kv kv' hmem hmem' hlt user huser user' huser'
    rwa [← (hdecoded kv hmem user huser).1, ← (hdecoded kv' hmem' user' huser').1]
  · rw [List.mem_filterMap]
    constructor
    · rintro ⟨kv, hmem, hsome⟩
      exact (hdecoded kv hmem user hsome).2
    · intro hprofile
      have hcell := h.stores.profiles user.userId
      rw [hprofile] at hcell
      obtain ⟨value, entropy, hget, hsealed⟩ := hcell
      have hopen : services.admin.decryptUser value = .ok user :=
        KeyPair.openRecord_sealRecord hsealed _ _
      exact ⟨(user.userId.asBytes, value), Keyspace.mem_scan.mpr hget, by simp [decoded, hopen,
        Except.toOption]⟩
  · rw [services.admin.decodeUsers_eq [], List.map_filterMap, List.nil_append]
    · refine congrArg Except.ok (List.filterMap_congr fun kv hmem => ?_)
      obtain ⟨user, -, -, hopen⟩ := hrow kv hmem
      simp [decoded, hopen, Except.toOption]
    · intro kv hmem hpanic
      obtain ⟨user, -, -, hopen⟩ := hrow kv hmem
      rw [hopen] at hpanic
      cases hpanic

/-! ## Changing -/

section Changes

variable [PasswordHasher]

omit [AccountFormat] in
/-- The records of a new account, one by one. -/
theorem of_prepareAccount [AccountFormat] {draws : CreateDraws} {req : CreateUserRequest}
    {userBytes authBytes : Bytes}
    (h : services.admin.prepareAccount draws req = .ok (userBytes, authBytes)) :
    ∃ passwordHash,
      AdminServiceImpl.hashPassword req.password draws.credentials.salt = .ok passwordHash ∧
      services.keypair.sealRecord AccountFormat.userAuth
        (AdminServiceImpl.newAuth draws.userId passwordHash) draws.credentials.entropy =
          .ok authBytes ∧
      services.keypair.sealRecord AccountFormat.user (AdminServiceImpl.newUser draws req)
        draws.entropy = .ok userBytes := by
  rw [AdminServiceImpl.prepareAccount] at h
  split at h
  · cases h
  next passwordHash hhash =>
  split at h
  · cases h
  next authBytes' hauth =>
  split at h
  · cases h
  next userBytes' huser =>
  cases h
  exact ⟨passwordHash, hhash, hauth, huser⟩

/-- An account is created in the store as in the tables. -/
theorem createUser (h : Keeps services accounts db) (draws : CreateDraws)
    (req : CreateUserRequest) :
    (services.admin.createUser db draws req).1 = (accounts.createUser services draws req).1 ∧
      Keeps services (accounts.createUser services draws req).2
        (services.admin.createUser db draws req).2 := by
  rw [AdminServiceImpl.createUser, Accounts.createUser]
  cases hprepare : services.admin.prepareAccount draws req with
  | error status => exact ⟨rfl, h⟩
  | ok records =>
      obtain ⟨userBytes, authBytes⟩ := records
      obtain ⟨passwordHash, hhash, hauth, huser⟩ := of_prepareAccount hprepare
      rw [hhash]
      exact ⟨rfl, (h.putProfile huser).putAuth req.username hauth⟩

/-- A password is set in the store as in the tables. -/
theorem setPassword (h : Keeps services accounts db) (draws : PasswordDraws) (user : User)
    (password : String) :
    (services.admin.updatePassword db draws user.username user.userId password).1 =
        (accounts.setPassword services draws user password).1.mapError .error ∧
      Keeps services (accounts.setPassword services draws user password).2
        (services.admin.updatePassword db draws user.username user.userId password).2 := by
  rw [AdminServiceImpl.updatePassword, Accounts.setPassword]
  cases AdminServiceImpl.hashPassword password draws.salt with
  | error status => exact ⟨rfl, h⟩
  | ok passwordHash =>
      dsimp only
      rw [h.stores.priorMfa]
      cases hseal : services.keypair.sealRecord AccountFormat.userAuth
          (accounts.rehashed user passwordHash) draws.entropy with
      | error status =>
          rw [Accounts.rehashed] at hseal
          simp only [AccountServices.admin, hseal]
          exact ⟨rfl, h⟩
      | ok authBytes =>
          have hseal' := hseal
          rw [Accounts.rehashed] at hseal'
          simp only [AccountServices.admin, hseal']
          exact ⟨rfl, h.putAuth user.username hseal⟩

omit [PasswordHasher] in
/-- A profile is replaced in the store as in the tables. -/
theorem storeUser (h : Keeps services accounts db) (user : User) (entropy : Primitives.Entropy) :
    (services.admin.storeUser db user entropy).1 = (accounts.storeUser services user entropy).1 ∧
      Keeps services (accounts.storeUser services user entropy).2
        (services.admin.storeUser db user entropy).2 := by
  rw [AdminServiceImpl.storeUser, Accounts.storeUser]
  cases hencrypt : services.admin.encryptUser user entropy with
  | error status => exact ⟨rfl, h⟩
  | ok userBytes => exact ⟨rfl, h.putProfile hencrypt⟩

omit [PasswordHasher] in
/-- The last step of a change: a profile is replaced, and the answer is made. -/
theorem storeUser_then (h : Keeps services accounts db) (user : User)
    (entropy : Primitives.Entropy) {α : Type} (answer : α) {stored : Except (Stop Status) α × Sled}
    (hstored : stored = match services.admin.storeUser db user entropy with
      | (.error status, db) => (.error (.error status), db)
      | (.ok (), db) => (.ok answer, db)) :
    stored.1 = ((accounts.storeUser services user entropy).1.map fun _ => answer).mapError .error ∧
      Keeps services (accounts.storeUser services user entropy).2 stored.2 := by
  obtain ⟨hreply, hkeeps⟩ := h.storeUser user entropy
  rw [← hreply]
  revert hkeeps
  subst hstored
  rcases services.admin.storeUser db user entropy with ⟨status | ⟨⟩, db'⟩
  · exact fun hkeeps => ⟨rfl, hkeeps⟩
  · exact fun hkeeps => ⟨rfl, hkeeps⟩

variable [UuidParser]

/-- An account is updated in the store as in the tables. -/
theorem updateUser (h : Keeps services accounts db) (draws : UpdateDraws)
    (req : UpdateUserRequest) :
    (services.admin.updateUser db draws req).1 =
        (accounts.updateUser services draws req).1.mapError .error ∧
      Keeps services (accounts.updateUser services draws req).2
        (services.admin.updateUser db draws req).2 := by
  rw [AdminServiceImpl.updateUser, Accounts.updateUser, h.existingUser]
  cases accounts.existingUser req.id with
  | error status => exact ⟨rfl, h⟩
  | ok user =>
      simp only [Except.mapError]
      generalize AdminServiceImpl.applyUpdate draws req user = user
      cases req.password with
      | none => exact h.storeUser_then user draws.entropy (userToProto user) rfl
      | some password =>
          obtain ⟨hreply, hkeeps⟩ := h.setPassword draws.credentials user password
          dsimp only
          cases hset : (accounts.setPassword services draws.credentials user password).1 with
          | error status =>
              rw [hset] at hreply
              simp only [hreply, Except.mapError]
              exact ⟨trivial, hkeeps⟩
          | ok =>
              rw [hset] at hreply
              simp only [hreply, Except.mapError]
              exact hkeeps.storeUser_then user draws.entropy (userToProto user) rfl

/-- An account is deactivated in the store as in the tables. -/
theorem deleteUser (h : Keeps services accounts db) (draws : UpdateDraws)
    (req : DeleteUserRequest) :
    (services.admin.deleteUser db draws req).1 =
        (accounts.deleteUser services draws req).1.mapError .error ∧
      Keeps services (accounts.deleteUser services draws req).2
        (services.admin.deleteUser db draws req).2 := by
  rw [AdminServiceImpl.deleteUser, Accounts.deleteUser, h.existingUser]
  cases accounts.existingUser req.id with
  | error status => exact ⟨rfl, h⟩
  | ok user => exact h.storeUser_then _ draws.entropy true rfl

end Changes

/-! ## Logins and sessions -/

section Logins

variable [Jwt] [SessionClock] [UuidParser]

omit [UuidParser] in
/-- A login is answered as the tables say. -/
theorem authenticate [PasswordHasher] [Totp] (h : Keeps services accounts db)
    (around : Surroundings) (req : AuthenticateRequest) :
    services.auth.authenticate db around req =
      (accounts.authenticate services around req).mapError .error := by
  rw [AuthServiceImpl.authenticate, Accounts.authenticate, h.stores.getUserAuth]
  cases accounts.auths req.username with
  | none => rfl
  | some userAuth =>
      dsimp only
      cases PasswordHasher.parse userAuth.passwordHash with
      | error e => rfl
      | ok parsedHash =>
          dsimp only
          cases PasswordHasher.verifyPassword (Bytes.ofText req.password) parsedHash with
          | error e => rfl
          | ok =>
              dsimp only
              cases checkMfa userAuth.mfaSecret req.mfaToken around with
              | error status => rfl
              | ok denial =>
                  cases denial with
                  | some text => rfl
                  | none =>
                      dsimp only
                      rw [h.stores.getUserProfile]
                      cases accounts.profiles userAuth.userId with
                      | none => rfl
                      | some user =>
                          dsimp only
                          cases services.auth.issueToken user around.now <;> rfl

omit [SessionClock] in
/-- A session is checked as the tables say. -/
theorem validateSession (h : Keeps services accounts db) (now : Chrono.DateTime)
    (req : ValidateSessionRequest) :
    services.auth.validateSession db now req =
      (accounts.validateSession services now req).mapError .error := by
  rw [AuthServiceImpl.validateSession, Accounts.validateSession]
  show (match Jwt.decode req.sessionToken services.jwtSecret now with | none => _ | some _ => _) = _
  cases Jwt.decode req.sessionToken services.jwtSecret now with
  | none => rfl
  | some claims =>
      dsimp only
      cases UuidParser.parseStr claims.sub with
      | none => rfl
      | some userId =>
          dsimp only
          rw [h.stores.getUserProfile]
          cases accounts.profiles userId <;> rfl

end Logins

end Keeps

/-! ## Runs -/

section Runs

variable [PasswordHasher] [Totp] [Jwt] [SessionClock] [UuidParser] [Db.RowFormat] [FailureText]

/-- A request is answered from the tables, and the store keeps the next ones. -/
theorem Keeps.handle (h : Keeps services accounts db) {req : AccountRequest} (hreq : req.Apart) :
    accounts.Answers services req (services.handle db req).1 ∧
      Keeps services (accounts.after services req) (services.handle db req).2 := by
  cases req with
  | createUser draws req =>
      obtain ⟨hreply, hkeeps⟩ := h.createUser draws req
      exact ⟨congrArg AccountReply.created hreply, hkeeps⟩
  | getUser req =>
      refine ⟨congrArg AccountReply.shown ?_, h⟩
      rw [AdminServiceImpl.getUser, h.existingUser]
      cases accounts.existingUser req.id <;> rfl
  | listUsers req =>
      obtain ⟨users, hlists, hdecode⟩ := h.exists_users
      refine ⟨⟨users, hlists, congrArg AccountReply.page ?_⟩, h⟩
      rw [AdminServiceImpl.listUsers, hdecode]
      rfl
  | updateUser draws req =>
      obtain ⟨hreply, hkeeps⟩ := h.updateUser draws req
      exact ⟨congrArg AccountReply.updated hreply, hkeeps⟩
  | deleteUser draws req =>
      obtain ⟨hreply, hkeeps⟩ := h.deleteUser draws req
      exact ⟨congrArg AccountReply.deleted hreply, hkeeps⟩
  | authenticate around req => exact ⟨congrArg AccountReply.login (h.authenticate around req), h⟩
  | validateSession now req =>
      exact ⟨congrArg AccountReply.session (h.validateSession now req), h⟩
  | logout => exact ⟨rfl, h⟩
  | elsewhere req =>
      refine ⟨trivial, h.congr fun c hc => ?_⟩
      show (Db.DatabaseService.answer db req).2.at? c = db.at? c
      rw [Db.answer_storage]
      -- A request to the DB from elsewhere keeps out of the two collections.
      cases hcommand : req.command? with
      | none => rfl
      | some e =>
          obtain ⟨husers, hauth⟩ := hreq e hcommand
          refine e.at_apply_outside db ?_
          rcases hc with hspace | hspace
          · exact hspace ▸ husers
          · exact hspace ▸ hauth

/-- The services answer every list of requests as a directory does, whatever is stored elsewhere in
between, and keep in step with it. -/
theorem services_keep_directory (services : AccountServices) {reqs : List AccountRequest}
    (hreqs : ∀ req ∈ reqs, req.Apart) :
    (Accounts.specification services).Explains .empty reqs
        (serve services.handle Keyspace.empty reqs).1 ∧
      Keeps services (reqs.foldl (Accounts.after services) .empty)
        (serve services.handle Keyspace.empty reqs).2 :=
  Specification.explains_serve (fun _ req => req.Apart) (fun h hreq => h.handle hreq) keeps_empty
    fun pre req hpre => hreqs req (hpre.subset (by simp))

end Runs

end Keeps

end InfoVulcan.Auth

/-! ## Runs on the JSON formats -/

namespace InfoVulcan.Auth

open scoped SerdeJson

open Admin SerdeJson

/-- An account is created, another service stores a pair, the user logs in and the accounts are
listed. -/
def firstLogin : List AccountRequest :=
  [.createUser (drawsFor ⟨1⟩) (accountRequest "alice"), .elsewhere (.put "audit" [1] [2]),
    .authenticate ⟨CivilTime.unixEpoch, false⟩ ⟨"alice", "secret", ""⟩, .listUsers ⟨1, 0⟩]

theorem firstLogin_apart : ∀ req ∈ firstLogin, req.Apart := by
  simp [firstLogin, AccountRequest.Apart, Db.Request.command?, Db.LogEntry.trees]

theorem services_keep_directory_firstLogin :
    (Accounts.specification accountServices).Explains .empty firstLogin
        (serve accountServices.handle Keyspace.empty firstLogin).1 ∧
      Keeps accountServices (firstLogin.foldl (Accounts.after accountServices) .empty)
        (serve accountServices.handle Keyspace.empty firstLogin).2 :=
  services_keep_directory accountServices firstLogin_apart

end InfoVulcan.Auth
