import InfoVulcan.Admin.Server

/-!
# The DB requests of the account handlers

A handler makes several requests to the DB, each of which may fail, and other calls may have theirs
in between. `CallPhase` says where a call stands between two requests, and `step` carries out the
next one. A call that is left alone and whose requests succeed does what its handler does
(`perform_create`, `perform_update`, `perform_delete`).
-/

namespace InfoVulcan.Admin

variable [Chrono] [Primitives] [PasswordHasher]

/-! ## Calls -/

/-- A call of a handler, with what it draws. -/
inductive AccountCall where
  | create (draws : CreateDraws) (req : CreateUserRequest)
  | update (draws : UpdateDraws) (req : UpdateUserRequest)
  | delete (draws : UpdateDraws) (req : DeleteUserRequest)

/-- What a call answers when it succeeds. -/
inductive AccountAnswer where
  | created (user : UserMessage)
  | updated (user : UserMessage)
  | deleted (success : Bool)
  deriving DecidableEq

/-- Where a call stands: before its first request, with the credentials of a new account to store,
with a new password hash to complete, with credentials and a profile to store, with a profile to
store, or done. -/
inductive CallPhase where
  | started
  | creatingAuth (username : String) (authBytes : Bytes) (message : UserMessage)
  | rehashing (user : User) (passwordHash : String)
  | storingAuth (user : User) (authBytes : Bytes)
  | storingUser (user : User)
  | returned (result : Except (Stop Status) AccountAnswer)

namespace CallPhase

/-- The call returns an error. -/
def failed (status : Status) : CallPhase :=
  returned (.error (.error status))

/-- The changed profile of a call that has yet to store it. -/
def pending : CallPhase → Option User
  | rehashing user _ | storingAuth user _ | storingUser user => some user
  | _ => none

end CallPhase

namespace AccountCall

/-- The message of a new account. -/
def createdMessage (draws : CreateDraws) (req : CreateUserRequest) : UserMessage :=
  { userToProto (AdminServiceImpl.newUser draws req) with role := req.role }

/-- A new password is hashed before anything is read. -/
def afterReading (draws : UpdateDraws) (req : UpdateUserRequest) (user : User) : CallPhase :=
  match req.password with
  | none => .storingUser user
  | some password =>
      match AdminServiceImpl.hashPassword password draws.credentials.salt with
      | .error status => .failed status
      | .ok passwordHash => .rehashing user passwordHash

/-- What the call draws to store a profile. -/
def entropy : AccountCall → Primitives.Entropy
  | create draws _ => draws.entropy
  | update draws _ => draws.entropy
  | delete draws _ => draws.entropy

/-- What the call draws to store credentials. -/
def credentials : AccountCall → PasswordDraws
  | create draws _ => draws.credentials
  | update draws _ => draws.credentials
  | delete draws _ => draws.credentials

/-- The answer of a call that has stored a profile. -/
def answer : AccountCall → User → AccountAnswer
  | create draws req, _ => .created (createdMessage draws req)
  | update .., user => .updated (userToProto user)
  | delete .., _ => .deleted true

variable [AccountFormat] [UuidParser]

/-- Reads the profile of a user who must exist. The request fails with `failure`, if that is set,
once the id has been parsed. -/
def readUser (service : AdminServiceImpl) (db : Sled) (failure : Option Status) (id : String) :
    Except (Stop Status) User :=
  match userKey id, failure with
  | .ok _, some status => .error (.error status)
  | _, _ => service.existingUser db id

/-- The first request of a call. -/
def start (service : AdminServiceImpl) (db : Sled) (failure : Option Status) :
    AccountCall → CallPhase × Sled
  | create draws req =>
      match service.prepareAccount draws req, failure with
      | .error status, _ => (.failed status, db)
      | .ok _, some status => (.failed status, db)
      | .ok (userBytes, authBytes), none =>
          (.creatingAuth req.username authBytes (createdMessage draws req),
            Db.put db "users" draws.userId.asBytes userBytes)
  | update draws req =>
      match readUser service db failure req.id with
      | .error stop => (.returned (.error stop), db)
      | .ok user => (afterReading draws req (AdminServiceImpl.applyUpdate draws req user), db)
  | delete draws req =>
      match readUser service db failure req.id with
      | .error stop => (.returned (.error stop), db)
      | .ok user =>
          (.storingUser { user with isActive := false, updatedAt := draws.updatedAt }, db)

/-- The next request of a call, which fails with `failure`, if that is set. -/
def step (service : AdminServiceImpl) (call : AccountCall) (db : Sled) (failure : Option Status) :
    CallPhase → CallPhase × Sled
  | .started => call.start service db failure
  | .creatingAuth username authBytes message =>
      match failure with
      | some status => (.failed status, db)
      | none =>
          (.returned (.ok (.created message)), Db.put db "auth" (authKey username) authBytes)
  | .rehashing user passwordHash =>
      match failure with
      | some status => (.failed status, db)
      | none =>
          match service.priorMfa db user.username with
          | .error stop => (.returned (.error stop), db)
          | .ok (mfaSecret, mfaMethod) =>
              match service.keypair.sealRecord AccountFormat.userAuth
                  { userId := user.userId, passwordHash, mfaSecret, mfaMethod }
                  call.credentials.entropy with
              | .error status => (.failed status, db)
              | .ok authBytes => (.storingAuth user authBytes, db)
  | .storingAuth user authBytes =>
      match failure with
      | some status => (.failed status, db)
      | none => (.storingUser user, Db.put db "auth" (authKey user.username) authBytes)
  | .storingUser user =>
      match service.encryptUser user call.entropy, failure with
      | .error status, _ => (.failed status, db)
      | .ok _, some status => (.failed status, db)
      | .ok userBytes, none =>
          (.returned (.ok (call.answer user)), Db.put db "users" user.userId.asBytes userBytes)
  | .returned result => (.returned result, db)

/-- A call makes its next requests, which fail or not, with no other calls in between. -/
def resume (service : AdminServiceImpl) (call : AccountCall) (s : CallPhase × Sled)
    (failures : List (Option Status)) : CallPhase × Sled :=
  failures.foldl (fun s failure => call.step service s.2 failure s.1) s

/-- A call makes its requests, which fail or not, with no other calls in between. -/
def perform (service : AdminServiceImpl) (call : AccountCall) (db : Sled)
    (failures : List (Option Status)) : CallPhase × Sled :=
  call.resume service (.started, db) failures

/-! ## Calls that are left alone -/

section Alone

variable (service : AdminServiceImpl) (db : Sled)

omit [PasswordHasher] in
theorem readUser_none (id : String) : readUser service db none id = service.existingUser db id := by
  unfold readUser
  cases userKey id <;> rfl

omit [PasswordHasher] in
/-- A user cannot be read when the request fails. -/
theorem readUser_some (status : Status) (id : String) :
    ∃ stop, readUser service db (some status) id = .error stop := by
  unfold readUser
  cases hkey : userKey id with
  | error status' => exact ⟨.error status', by simp [AdminServiceImpl.existingUser, hkey]⟩
  | ok userId => exact ⟨.error status, rfl⟩

/-- A call that has returned makes no more requests. -/
theorem resume_returned (call : AccountCall) (result : Except (Stop Status) AccountAnswer)
    (failures : List (Option Status)) :
    call.resume service (.returned result, db) failures = (.returned result, db) := by
  induction failures with
  | nil => rfl
  | cons failure failures ih => exact ih

/-- What is left to do once a profile has been changed: it is stored. -/
theorem resume_storingUser (call : AccountCall) (user : User) (n : Nat) :
    call.resume service (.storingUser user, db) (List.replicate (n + 1) none) =
      match service.storeUser db user call.entropy with
      | (.error status, db) => (.failed status, db)
      | (.ok (), db) => (.returned (.ok (call.answer user)), db) := by
  show call.resume service (call.step service db none (.storingUser user))
    (List.replicate n none) = _
  cases hbytes : service.encryptUser user call.entropy with
  | error status =>
      simp only [step, AdminServiceImpl.storeUser, hbytes]
      exact resume_returned ..
  | ok userBytes =>
      simp only [step, AdminServiceImpl.storeUser, hbytes]
      exact resume_returned ..

/-- What is left to do once a new password has been hashed: credentials and profile are stored. -/
theorem resume_rehashing (call : AccountCall) (user : User) (password : String)
    {passwordHash : String}
    (hhash : AdminServiceImpl.hashPassword password call.credentials.salt = .ok passwordHash) :
    call.resume service (.rehashing user passwordHash, db) (List.replicate 3 none) =
      match service.updatePassword db call.credentials user.username user.userId password with
      | (.error stop, db) => (.returned (.error stop), db)
      | (.ok (), db) => call.resume service (.storingUser user, db) (List.replicate 1 none) := by
  show call.resume service (call.step service db none (.rehashing user passwordHash))
    (List.replicate 2 none) = _
  cases hmfa : service.priorMfa db user.username with
  | error stop =>
      simp only [step, AdminServiceImpl.updatePassword, hhash, hmfa]
      exact resume_returned ..
  | ok mfa =>
      cases hauth : service.keypair.sealRecord AccountFormat.userAuth
          { userId := user.userId, passwordHash, mfaSecret := mfa.1, mfaMethod := mfa.2 }
          call.credentials.entropy with
      | error status =>
          simp only [step, AdminServiceImpl.updatePassword, hhash, hmfa, hauth]
          exact resume_returned ..
      | ok authBytes =>
          simp only [step, AdminServiceImpl.updatePassword, hhash, hmfa, hauth]
          rfl

/-- The creation of an account, request by request. -/
theorem perform_create (draws : CreateDraws) (req : CreateUserRequest) :
    (create draws req).perform service db (List.replicate 2 none) =
      (.returned (((service.createUser db draws req).1.map .created).mapError .error),
        (service.createUser db draws req).2) := by
  show (create draws req).resume service (start service db none (create draws req))
    (List.replicate 1 none) = _
  simp only [start, AdminServiceImpl.createUser]
  cases service.prepareAccount draws req with
  | error status => rfl
  | ok records => rfl

/-- The update of an account, request by request. -/
theorem perform_update (draws : UpdateDraws) (req : UpdateUserRequest) :
    (update draws req).perform service db (List.replicate 4 none) =
      (.returned ((service.updateUser db draws req).1.map .updated),
        (service.updateUser db draws req).2) := by
  show (update draws req).resume service (start service db none (update draws req))
    (List.replicate 3 none) = _
  simp only [start, readUser_none, AdminServiceImpl.updateUser]
  cases service.existingUser db req.id with
  | error stop => exact resume_returned ..
  | ok user =>
      have hstore : ∀ n db', (update draws req).resume service
          (.storingUser (AdminServiceImpl.applyUpdate draws req user), db')
          (List.replicate (n + 1) none) = _ := fun n db' => resume_storingUser service db' _ _ n
      cases hpassword : req.password with
      | none =>
          simp only [afterReading, hpassword, hstore]
          split <;> simp_all [CallPhase.failed, Except.map, entropy, answer]
      | some password =>
          cases hhash : AdminServiceImpl.hashPassword password draws.credentials.salt with
          | error status =>
              simp only [afterReading, hpassword, hhash, AdminServiceImpl.updatePassword]
              exact resume_returned ..
          | ok passwordHash =>
              simp only [afterReading, hpassword, hhash]
              rw [resume_rehashing service db (update draws req) _ password hhash]
              show (match service.updatePassword db draws.credentials
                (AdminServiceImpl.applyUpdate draws req user).username
                (AdminServiceImpl.applyUpdate draws req user).userId password with
                | (.error stop, db) => (CallPhase.returned (.error stop), db)
                | (.ok (), db) => _) = _
              rcases service.updatePassword db draws.credentials
                (AdminServiceImpl.applyUpdate draws req user).username
                (AdminServiceImpl.applyUpdate draws req user).userId password with
                ⟨stop | _, db'⟩
              · rfl
              · simp only [hstore 0]
                split <;> simp_all [CallPhase.failed, Except.map, entropy, answer]

/-- The deletion of an account, request by request. -/
theorem perform_delete (draws : UpdateDraws) (req : DeleteUserRequest) :
    (delete draws req).perform service db (List.replicate 2 none) =
      (.returned ((service.deleteUser db draws req).1.map .deleted),
        (service.deleteUser db draws req).2) := by
  show (delete draws req).resume service (start service db none (delete draws req))
    (List.replicate 1 none) = _
  simp only [start, readUser_none, AdminServiceImpl.deleteUser]
  cases service.existingUser db req.id with
  | error stop => exact resume_returned ..
  | ok user =>
      simp only [resume_storingUser service db (delete draws req) _ 0]
      split <;> simp_all [CallPhase.failed, Except.map, entropy, answer]

end Alone

end AccountCall

end InfoVulcan.Admin
