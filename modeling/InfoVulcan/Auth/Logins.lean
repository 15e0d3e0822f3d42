import InfoVulcan.Auth.Directory

/-!
# Logins in the directory

What the directory says about logins over whole runs. Nothing that can be asked of the services
enrolls a second factor, so a login depends on none (`second_factor_never_asked`). Credentials last:
who has an account can log in with its password, and check the session, until the username is given
to a new account or the password is set anew (`login_until_reset`).
-/

namespace InfoVulcan.Auth

open Admin

variable [Chrono] [Primitives] [PasswordHasher] [AccountFormat] [UuidParser]

namespace Accounts

variable (services : AccountServices) (accounts : Accounts)

/-! ## What a request leaves alone -/

/-- A request that is accepted sets the credentials of the username. -/
def Resets (username : String) : AccountRequest → Prop
  | .createUser _ req => req.username = username
  | .updateUser _ req =>
      req.password.isSome ∧ ∃ user, accounts.existingUser req.id = .ok user ∧
        user.username = username
  | _ => False

omit [PasswordHasher] [UuidParser] in
/-- Storing a profile changes no credentials. -/
theorem auths_storeUser (user : User) (entropy : Primitives.Entropy) (username : String) :
    (accounts.storeUser services user entropy).2.auths username = accounts.auths username := by
  rw [storeUser]
  cases services.admin.encryptUser user entropy <;> rfl

omit [PasswordHasher] [UuidParser] in
/-- Storing a profile removes none. -/
theorem profiles_storeUser (user : User) (entropy : Primitives.Entropy) {id : Uuid}
    (h : (accounts.profiles id).isSome) :
    ((accounts.storeUser services user entropy).2.profiles id).isSome := by
  rw [storeUser]
  cases services.admin.encryptUser user entropy with
  | error status => exact h
  | ok userBytes =>
      show ((accounts.withProfile user).profiles id).isSome
      rw [profiles_withProfile]
      split
      · rfl
      · exact h

/-- The second factor that is enrolled for a username. -/
def secondFactor (username : String) : Option String :=
  (accounts.auths username).elim none UserAuth.mfaSecret

/-- The credentials of a username are new, with no second factor but the one before. -/
structure Renewed (accounts' : Accounts) (username : String) (auth : UserAuth) : Prop where
  current : accounts'.auths username = some auth
  secondFactor : auth.mfaSecret = none ∨ auth.mfaSecret = accounts.secondFactor username

omit [UuidParser] in
/-- A new password renews the credentials of its username. -/
theorem auths_setPassword (draws : PasswordDraws) (user : User) (password username : String) :
    (accounts.setPassword services draws user password).2.auths username =
        accounts.auths username ∨
      user.username = username ∧ ∃ auth,
        accounts.Renewed (accounts.setPassword services draws user password).2 username auth := by
  rw [setPassword]
  cases AdminServiceImpl.hashPassword password draws.salt with
  | error status => exact .inl rfl
  | ok passwordHash =>
      dsimp only
      cases services.keypair.sealRecord AccountFormat.userAuth (accounts.rehashed user passwordHash)
          draws.entropy with
      | error status => exact .inl rfl
      | ok authBytes =>
          by_cases hname : user.username = username
          · subst hname
            exact .inr ⟨rfl, _, Function.update_self .., .inr rfl⟩
          · exact .inl (Function.update_of_ne (Ne.symm hname) ..)

omit [UuidParser] in
/-- A new password changes no profile. -/
theorem profiles_setPassword (draws : PasswordDraws) (user : User) (password : String) :
    (accounts.setPassword services draws user password).2.profiles = accounts.profiles := by
  rw [setPassword]
  cases AdminServiceImpl.hashPassword password draws.salt with
  | error status => rfl
  | ok passwordHash =>
      dsimp only
      cases services.keypair.sealRecord AccountFormat.userAuth (accounts.rehashed user passwordHash)
          draws.entropy <;> rfl

/-! ## What a request does -/

section After

/-- A request leaves the credentials of a username as they are, or renews them. -/
theorem auths_after (req : AccountRequest) (username : String) :
    (accounts.after services req).auths username = accounts.auths username ∨
      accounts.Resets username req ∧ ∃ auth,
        accounts.Renewed (accounts.after services req) username auth := by
  cases req with
  | createUser draws req =>
      simp only [after, createUser]
      split
      next passwordHash _ _ =>
        by_cases hname : req.username = username
        · subst hname
          exact .inr ⟨rfl, _, Function.update_self .., .inl rfl⟩
        · exact .inl (Function.update_of_ne (Ne.symm hname) ..)
      next => exact .inl rfl
      next => exact .inl rfl
  | updateUser draws req =>
      simp only [after, updateUser]
      cases hexisting : accounts.existingUser req.id with
      | error status => exact .inl rfl
      | ok user =>
          dsimp only
          cases hpassword : req.password with
          | none => exact .inl (accounts.auths_storeUser services _ _ username)
          | some password =>
              have hset := accounts.auths_setPassword services draws.credentials
                (AdminServiceImpl.applyUpdate draws req user) password username
              have hresets : (AdminServiceImpl.applyUpdate draws req user).username = username →
                  accounts.Resets username (.updateUser draws req) := fun hname =>
                ⟨hpassword ▸ rfl, user, hexisting, hname⟩
              revert hset
              dsimp only
              rcases accounts.setPassword services draws.credentials
                (AdminServiceImpl.applyUpdate draws req user) password with
                ⟨status | ⟨⟩, accounts'⟩
              · rintro (hsame | ⟨hname, auth, hrenewed⟩)
                · exact .inl hsame
                · exact .inr ⟨hresets hname, auth, hrenewed⟩
              · rintro (hsame | ⟨hname, auth, hrenewed⟩)
                · exact .inl ((accounts'.auths_storeUser services _ _ username).trans hsame)
                · refine .inr ⟨hresets hname, auth, ?_, hrenewed.secondFactor⟩
                  exact (accounts'.auths_storeUser services _ _ username).trans hrenewed.current
  | deleteUser draws req =>
      simp only [after, deleteUser]
      cases accounts.existingUser req.id with
      | error status => exact .inl rfl
      | ok user => exact .inl (accounts.auths_storeUser services _ _ username)
  | _ => exact .inl rfl

/-- A request removes no profile. -/
theorem profiles_after (req : AccountRequest) {id : Uuid} (h : (accounts.profiles id).isSome) :
    ((accounts.after services req).profiles id).isSome := by
  cases req with
  | createUser draws req =>
      simp only [after, createUser]
      split
      next =>
        rw [profiles_withAuth, profiles_withProfile]
        split
        · rfl
        · exact h
      next => exact h
      next => exact h
  | updateUser draws req =>
      simp only [after, updateUser]
      cases accounts.existingUser req.id with
      | error status => exact h
      | ok user =>
          dsimp only
          cases req.password with
          | none => exact accounts.profiles_storeUser services _ _ h
          | some password =>
              have hset := accounts.profiles_setPassword services draws.credentials
                (AdminServiceImpl.applyUpdate draws req user) password
              rw [← hset] at h
              revert h
              dsimp only
              rcases accounts.setPassword services draws.credentials
                (AdminServiceImpl.applyUpdate draws req user) password with
                ⟨status | ⟨⟩, accounts'⟩
              · exact fun h => h
              · exact accounts'.profiles_storeUser services _ _
  | deleteUser draws req =>
      simp only [after, deleteUser]
      cases accounts.existingUser req.id with
      | error status => exact h
      | ok user => exact accounts.profiles_storeUser services _ _ h
  | _ => exact h

end After

end Accounts

/-! ## The second factor -/

section SecondFactor

variable {services : AccountServices} {accounts : Accounts}

/-- No request enrolls a second factor. -/
theorem Accounts.secondFactor_after (h : ∀ username, accounts.secondFactor username = none)
    (req : AccountRequest) (username : String) :
    (accounts.after services req).secondFactor username = none := by
  rcases accounts.auths_after services req username with hsame | ⟨-, auth, hrenewed⟩
  · rw [secondFactor, hsame]
    exact h username
  · rw [secondFactor, hrenewed.current]
    rcases hrenewed.secondFactor with hnone | hprior
    · exact hnone
    · exact hprior.trans (h username)

/-- After any requests, no second factor is enrolled. -/
theorem Accounts.secondFactor_run (services : AccountServices) (reqs : List AccountRequest) :
    ∀ username, (reqs.foldl (after services) empty).secondFactor username = none :=
  List.foldlRecOn (motive := fun accounts : Accounts =>
      ∀ username, accounts.secondFactor username = none)
    reqs (after services) (fun _ => rfl) fun _ hnone req _ => secondFactor_after hnone req

variable [Totp] [Jwt] [SessionClock]

omit [AccountFormat] [UuidParser] in
/-- Where no second factor is enrolled, a login asks for none. -/
theorem Accounts.authenticate_of_no_secondFactor
    (h : ∀ username, accounts.secondFactor username = none) (around : Surroundings)
    (req : AuthenticateRequest) (mfaDisabled : Bool) (mfaToken : String) :
    accounts.authenticate services { around with mfaDisabled } { req with mfaToken } =
      accounts.authenticate services around req := by
  have hnone := h req.username
  rw [authenticate, authenticate]
  dsimp only
  cases hauth : accounts.auths req.username with
  | none => rfl
  | some auth =>
      rw [secondFactor, hauth, Option.elim_some] at hnone
      dsimp only
      rw [hnone]
      rfl

variable [Db.RowFormat] [FailureText]

/-- After any requests to the services, a login does not depend on a one-time code, nor on whether
the second factor is switched off: nobody has one. -/
theorem second_factor_never_asked (services : AccountServices) {reqs : List AccountRequest}
    (hreqs : ∀ req ∈ reqs, req.Apart) (around : Surroundings) (req : AuthenticateRequest)
    (mfaDisabled : Bool) (mfaToken : String) :
    services.auth.authenticate (serve services.handle Keyspace.empty reqs).2
        { around with mfaDisabled } { req with mfaToken } =
      services.auth.authenticate (serve services.handle Keyspace.empty reqs).2 around req := by
  obtain ⟨-, hkeeps⟩ := services_keep_directory services hreqs
  rw [hkeeps.authenticate, hkeeps.authenticate,
    Accounts.authenticate_of_no_secondFactor (Accounts.secondFactor_run services reqs)]

end SecondFactor

/-! ## Lasting credentials -/

section Lasting

variable [Totp] [Jwt] [SessionClock]

/-- A request that is accepted sets the credentials of the username: it is for a new account, or
for a new password of a user who is shown with the username. -/
def AccountRequest.Resets (services : AccountServices) (db : Sled) (username : String) :
    AccountRequest → Prop
  | .createUser _ req => req.username = username
  | .updateUser _ req =>
      req.password.isSome ∧ ∃ message, services.admin.getUser db ⟨req.id⟩ = .ok message ∧
        message.username = username
  | _ => False

/-- Logins under the username are decided by the password. Who has the password that was hashed is
let in as the user, and so is who has the token they are given. -/
def LogsIn (services : AccountServices) (db : Sled) (username passwordHash : String)
    (userId : Uuid) : Prop :=
  ∃ user : User, user.userId = userId ∧ ∀ around password mfaToken parsedHash,
    PasswordHasher.parse passwordHash = .ok parsedHash →
    (∀ e, PasswordHasher.verifyPassword (Bytes.ofText password) parsedHash = .error e →
      services.auth.authenticate db around ⟨username, password, mfaToken⟩ =
        .ok (.denied "Invalid credentials")) ∧
    (PasswordHasher.verifyPassword (Bytes.ofText password) parsedHash = .ok () →
      ∀ token, services.auth.issueToken user around.now = .ok token →
        services.auth.authenticate db around ⟨username, password, mfaToken⟩ =
          .ok ⟨true, token, "", some (userInfo user)⟩ ∧
        ∀ now claims, Jwt.decode token services.jwtSecret now = some claims →
          services.auth.validateSession db now ⟨token⟩ = .ok ⟨true, some (userInfo user), ""⟩)

variable {services : AccountServices} {accounts : Accounts} {db : Sled}

omit [Totp] [Jwt] [SessionClock] in
/-- Who is shown with a username is in the tables with it. -/
theorem Keeps.resets_iff (h : Keeps services accounts db) {username : String}
    {req : AccountRequest} :
    req.Resets services db username ↔ accounts.Resets username req := by
  cases req with
  | updateUser draws req =>
      simp only [AccountRequest.Resets, Accounts.Resets, AdminServiceImpl.getUser, h.existingUser]
      cases accounts.existingUser req.id <;> simp [Except.mapError, Except.map, userToProto]
  | _ => rfl

omit [PasswordHasher] [AccountFormat] [UuidParser] [Totp] in
/-- A token that is accepted names the user it was made for. -/
theorem sub_of_issueToken {user : User} {now now' : Chrono.DateTime} {token : String}
    (htoken : services.auth.issueToken user now = .ok token) {claims : Claims}
    (hdecode : Jwt.decode token services.jwtSecret now' = some claims) :
    claims.sub = toString user.userId := by
  rw [AuthServiceImpl.issueToken] at htoken
  split at htoken
  · cases htoken
  dsimp only at htoken
  split at htoken
  · cases htoken
  next hencode =>
  cases htoken
  rw [Jwt.decode_encode hencode hdecode]

/-- Credentials without a second factor let their user log in. -/
theorem Keeps.logsIn (hparse : ∀ id : Uuid, UuidParser.parseStr (toString id) = some id)
    (h : Keeps services accounts db) {username passwordHash : String} {userId : Uuid}
    (hauth : accounts.auths username = some (AdminServiceImpl.newAuth userId passwordHash))
    (hprofile : (accounts.profiles userId).isSome) :
    LogsIn services db username passwordHash userId := by
  obtain ⟨user, huser⟩ := Option.isSome_iff_exists.mp hprofile
  obtain rfl := h.stores.keyed userId user huser
  refine ⟨user, rfl, fun around password mfaToken parsedHash hhash => ⟨?_, ?_⟩⟩
  · intro e hverify
    rw [h.authenticate, Accounts.authenticate, hauth]
    simp only [AdminServiceImpl.newAuth, hhash, hverify]
    rfl
  · intro hverify token htoken
    refine ⟨?_, fun now claims hdecode => ?_⟩
    · rw [h.authenticate, Accounts.authenticate, hauth]
      simp only [AdminServiceImpl.newAuth, hhash, hverify, checkMfa, huser, htoken]
      rfl
    · rw [h.validateSession, Accounts.validateSession, hdecode]
      simp only [sub_of_issueToken htoken hdecode, hparse, huser]
      rfl

variable [Db.RowFormat] [FailureText]

/-- Credentials last while no request sets them, and the profile of their user as well. -/
theorem Keeps.lasting (h : Keeps services accounts db) {username : String} {auth : UserAuth}
    (hauth : accounts.auths username = some auth) (userId : Uuid)
    (hprofile : (accounts.profiles userId).isSome) {later : List AccountRequest}
    (hapart : ∀ req ∈ later, req.Apart)
    (hlater : Throughout (fun db req => (services.handle db req).2)
      (fun db req => ¬ req.Resets services db username) db later) :
    ∃ accounts', Keeps services accounts' (serve services.handle db later).2 ∧
      accounts'.auths username = some auth ∧ (accounts'.profiles userId).isSome := by
  induction later generalizing accounts db with
  | nil => exact ⟨accounts, h, hauth, hprofile⟩
  | cons req later ih =>
      obtain ⟨hquiet, hlater⟩ := Throughout.cons_iff.mp hlater
      obtain ⟨-, hnext⟩ := h.handle (hapart req List.mem_cons_self)
      refine ih hnext ?_ (accounts.profiles_after services req hprofile)
        (fun req' hmem => hapart req' (List.mem_cons_of_mem _ hmem)) hlater
      rcases accounts.auths_after services req username with hsame | ⟨hresets, -⟩
      · exact hsame.trans hauth
      · exact absurd (h.resets_iff.mpr hresets) hquiet

/-- An account that has been created lets its user log in by the password of the creation, and
check the session, after any requests that do not set the credentials of its username: deactivated
or not, and whatever is stored elsewhere. -/
theorem login_until_reset (hparse : ∀ id : Uuid, UuidParser.parseStr (toString id) = some id)
    (services : AccountServices) {pre later : List AccountRequest} {draws : CreateDraws}
    {req : CreateUserRequest} {message : UserMessage} (hpre : ∀ req ∈ pre, req.Apart)
    (hcreated : (services.admin.createUser (serve services.handle Keyspace.empty pre).2 draws
      req).1 = .ok message)
    (hlater : ∀ req ∈ later, req.Apart)
    (hquiet : Throughout (fun db req => (services.handle db req).2)
      (fun db other => ¬ other.Resets services db req.username)
      (services.admin.createUser (serve services.handle Keyspace.empty pre).2 draws req).2 later) :
    ∃ passwordHash,
      AdminServiceImpl.hashPassword req.password draws.credentials.salt = .ok passwordHash ∧
      LogsIn services
        (serve services.handle Keyspace.empty (pre ++ .createUser draws req :: later)).2
        req.username passwordHash draws.userId := by
  obtain ⟨-, hkeeps⟩ := services_keep_directory services hpre
  rw [serve_append]
  revert hcreated hquiet hkeeps
  generalize (serve services.handle Keyspace.empty pre).2 = db
  generalize pre.foldl (Accounts.after services) .empty = accounts
  intro hcreated hquiet hkeeps
  obtain ⟨hreply, hnext⟩ := hkeeps.createUser draws req
  rw [hcreated] at hreply
  revert hnext hreply
  rw [Accounts.createUser]
  split
  next passwordHash _ hhash =>
    intro _ hnext
    obtain ⟨accounts', hend, hauth, hprofile⟩ := hnext.lasting
      (Function.update_self ..) draws.userId
      (by rw [Accounts.profiles_withAuth, Accounts.profiles_withProfile]; exact if_pos rfl ▸ rfl)
      hlater hquiet
    exact ⟨passwordHash, hhash, hend.logsIn hparse hauth hprofile⟩
  next => exact fun hreply => by cases hreply
  next => exact fun hreply => by cases hreply

end Lasting

end InfoVulcan.Auth

/-! ## Runs on the JSON formats -/

namespace InfoVulcan.Auth

open scoped SerdeJson

open Admin SerdeJson

/-- A code, or none, and the switch make no difference to the first login. -/
theorem second_factor_never_asked_firstLogin :
    accountServices.auth.authenticate
        (serve accountServices.handle Keyspace.empty firstLogin).2
        ⟨CivilTime.unixEpoch, true⟩ ⟨"alice", "secret", "123456"⟩ =
      accountServices.auth.authenticate
        (serve accountServices.handle Keyspace.empty firstLogin).2
        ⟨CivilTime.unixEpoch, false⟩ ⟨"alice", "secret", ""⟩ :=
  second_factor_never_asked accountServices firstLogin_apart ⟨CivilTime.unixEpoch, false⟩
    ⟨"alice", "secret", ""⟩ true "123456"

/-- What comes after the creation: the account is deleted, and another one is created. -/
def afterCreation : List AccountRequest :=
  [.deleteUser changeDraws ⟨toString (⟨1⟩ : Uuid)⟩,
    .createUser (drawsFor ⟨2⟩) (accountRequest "bob")]

/-- A deleted account still logs in after another has been created. -/
theorem login_until_reset_deleted : ∃ passwordHash,
    AdminServiceImpl.hashPassword (accountRequest "alice").password
      (drawsFor ⟨1⟩).credentials.salt = .ok passwordHash ∧
    LogsIn accountServices (serve accountServices.handle Keyspace.empty
      ([] ++ .createUser (drawsFor ⟨1⟩) (accountRequest "alice") :: afterCreation)).2
      "alice" passwordHash ⟨1⟩ := by
  obtain ⟨records, hprepare⟩ := prepareAccount_ok (drawsFor ⟨1⟩) (accountRequest "alice")
  have hpre : ∀ req ∈ ([] : List AccountRequest), req.Apart := by simp
  have hcreated : ∃ message, (accountServices.admin.createUser
      (serve accountServices.handle Keyspace.empty []).2 (drawsFor ⟨1⟩)
      (accountRequest "alice")).1 = .ok message :=
    ⟨_, by rw [AdminServiceImpl.createUser, hprepare]⟩
  obtain ⟨message, hcreated⟩ := hcreated
  refine login_until_reset Uuid.parseHyphenated_toString accountServices hpre hcreated ?_ ?_
  · simp [afterCreation, AccountRequest.Apart]
  · intro upto req hupto hresets
    have hmem : req ∈ afterCreation := hupto.subset (by simp)
    simp only [afterCreation, List.mem_cons, List.not_mem_nil, or_false] at hmem
    rcases hmem with rfl | rfl
    · exact hresets
    · exact absurd hresets (by simp [AccountRequest.Resets, accountRequest])

end InfoVulcan.Auth
