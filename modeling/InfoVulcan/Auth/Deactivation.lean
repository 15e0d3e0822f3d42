import InfoVulcan.Auth.Ownership

/-!
# Deactivated accounts

Deactivating an account clears a flag in its profile, and the flag of a profile tells exactly
whether the user has been deactivated and not been activated since (`deactivated_iff`). A login and
a check of a session read the profile, but not the flag. A deactivated account is therefore shut
out of a run exactly when nobody presents its credentials or one of its tokens
(`shut_out_iff`).
-/

namespace InfoVulcan.Auth

open Admin

variable [Chrono] [Primitives] [AccountFormat] [PasswordHasher] [UuidParser]

/-! ## Deactivation -/

/-- The call succeeds in deactivating the user. -/
def Call.Deactivates (services : AccountServices) (db : Sled) (id : Uuid) : Call → Prop
  | .deleteUser draws req =>
      UuidParser.parseStr req.id = some id ∧ (services.admin.deleteUser db draws req).1.isOk
  | .updateUser draws req =>
      UuidParser.parseStr req.id = some id ∧ req.active = some false ∧
        (services.admin.updateUser db draws req).1.isOk
  | _ => False

/-- The call succeeds in activating the user. -/
def Call.Activates (services : AccountServices) (db : Sled) (id : Uuid) : Call → Prop
  | .updateUser draws req =>
      UuidParser.parseStr req.id = some id ∧ req.active = some true ∧
        (services.admin.updateUser db draws req).1.isOk
  | _ => False

/-- The user has been deactivated, and no later call has activated them. -/
def Deactivated (services : AccountServices) (calls : List Call) (id : Uuid) : Prop :=
  ∃ pre call mid, calls = pre ++ call :: mid ∧
    call.Deactivates services (performAll services pre) id ∧
    ∀ mid₁ call' mid₂, mid = mid₁ ++ call' :: mid₂ →
      ¬ call'.Activates services (performAll services (pre ++ call :: mid₁)) id

/-- Whether a user is deactivated is decided by the last call that is about it. -/
theorem deactivated_snoc {services : AccountServices} {calls : List Call} {call : Call}
    {id : Uuid} :
    Deactivated services (calls ++ [call]) id ↔
      call.Deactivates services (performAll services calls) id ∨
        Deactivated services calls id ∧
          ¬ call.Activates services (performAll services calls) id := by
  constructor
  · rintro ⟨pre, first, mid, hcalls, hfirst, hmid⟩
    rcases List.eq_nil_or_concat mid with rfl | ⟨mid', last, rfl⟩
    · obtain ⟨rfl, hcall⟩ := List.append_inj' hcalls rfl
      obtain rfl := (List.cons.inj hcall).1
      exact .inl hfirst
    · rw [List.concat_eq_append, ← List.cons_append, ← List.append_assoc] at hcalls
      obtain ⟨rfl, hlast⟩ := List.append_inj' hcalls rfl
      obtain rfl := (List.cons.inj hlast).1
      refine .inr ⟨⟨pre, first, mid', rfl, hfirst, fun mid₁ call' mid₂ heq => ?_⟩, ?_⟩
      · exact hmid mid₁ call' (mid₂ ++ [call]) (by rw [heq]; simp)
      · exact hmid mid' call [] (by simp)
  · rintro (hcall | ⟨⟨pre, first, mid, rfl, hfirst, hmid⟩, hcall⟩)
    · exact ⟨calls, call, [], rfl, hcall, fun mid₁ call' mid₂ heq => by simp at heq⟩
    · refine ⟨pre, first, mid ++ [call], by simp, hfirst, fun mid₁ call' mid₂ heq => ?_⟩
      rcases List.eq_nil_or_concat mid₂ with rfl | ⟨mid₂', last, rfl⟩
      · obtain ⟨rfl, hlast⟩ := List.append_inj' heq rfl
        obtain rfl := (List.cons.inj hlast).1
        exact hcall
      · rw [List.concat_eq_append, ← List.cons_append, ← List.append_assoc] at heq
        obtain ⟨rfl, -⟩ := List.append_inj' heq rfl
        exact hmid mid₁ call' mid₂' rfl

/-- The profile of the user is stored as inactive. -/
def Accounts.Inactive (accounts : Accounts) (id : Uuid) : Prop :=
  ∃ user, accounts.profiles id = some user ∧ user.isActive = false

omit [Primitives] [AccountFormat] [PasswordHasher] [UuidParser] in
/-- Storing a profile decides whether its user is active, and nobody else. -/
theorem Accounts.inactive_withProfile {accounts : Accounts} {user : User} {id : Uuid} :
    (accounts.withProfile user).Inactive id ↔
      if id = user.userId then user.isActive = false else accounts.Inactive id := by
  rw [Accounts.Inactive, profiles_withProfile]
  split
  · simp
  · rfl

omit [Primitives] [AccountFormat] [PasswordHasher] [UuidParser] in
/-- A new password makes nobody active or inactive. -/
theorem PasswordEffect.inactive_iff {accounts accounts' : Accounts} {user : User}
    {password : Option String} (h : PasswordEffect accounts user password accounts') (id : Uuid) :
    accounts'.Inactive id ↔ accounts.Inactive id := by
  rw [Accounts.Inactive, h.profiles_eq]
  rfl

/-- A call leaves a user inactive if it deactivates them, or finds them inactive and does not
activate them. -/
theorem perform_inactive {services : AccountServices} {accounts : Accounts} {db : Sled}
    (h : Stores services.keypair accounts db) (call : Call)
    (hfresh : ∀ draws req, call = .createUser draws req → accounts.profiles draws.userId = none) :
    ∃ accounts', Stores services.keypair accounts' (perform services db call) ∧
      ∀ id, accounts'.Inactive id ↔
        call.Deactivates services db id ∨
          accounts.Inactive id ∧ ¬ call.Activates services db id := by
  cases call with
  | createUser draws req =>
      rcases h.createUser_cases draws req with
        ⟨status, -, hfail⟩ | ⟨records, passwordHash, -, -, hstores⟩
      · exact ⟨accounts, by rw [perform, hfail]; exact h,
          fun id => by simp [Call.Deactivates, Call.Activates]⟩
      · refine ⟨_, hstores, fun id => ?_⟩
        have hprofile := hfresh draws req rfl
        show ((accounts.withProfile (AdminServiceImpl.newUser draws req)).Inactive id) ↔ _
        rw [Accounts.inactive_withProfile]
        split
        case isTrue hid =>
            -- The id is fresh: nobody with that id was there to be inactive.
            have hid : id = draws.userId := hid
            simp [Call.Deactivates, Call.Activates, Accounts.Inactive, hid, hprofile,
              AdminServiceImpl.newUser]
        case isFalse => simp [Call.Deactivates, Call.Activates]
  | updateUser draws req =>
      rcases h.updateUser_cases draws req with
        ⟨hfail, hstores⟩ | ⟨userId, user, hparse, hprofile, accounts', heffect, hresult⟩
      · exact ⟨accounts, hstores, fun id => by simp [Call.Deactivates, Call.Activates, hfail]⟩
      rcases hresult with ⟨hfail, hstores⟩ | ⟨hok, hstores⟩
      · exact ⟨accounts', hstores, fun id => by
          simp [Call.Deactivates, Call.Activates, hfail, heffect.inactive_iff]⟩
      · refine ⟨_, hstores, fun id => ?_⟩
        have hkeyed : user.userId = userId := h.keyed _ _ hprofile
        have huser : (AdminServiceImpl.applyUpdate draws req user).userId = userId := hkeyed
        rw [Accounts.inactive_withProfile, heffect.inactive_iff, huser]
        simp only [Call.Deactivates, Call.Activates, hparse, hok, Option.some.injEq, and_true]
        split
        case isTrue hid =>
            subst hid
            cases hactive : req.active with
            | none => simp [AdminServiceImpl.applyUpdate, hactive, Accounts.Inactive, hprofile]
            | some active => cases active <;> simp [AdminServiceImpl.applyUpdate, hactive]
        case isFalse hid => simp [Ne.symm hid]
  | deleteUser draws req =>
      rcases h.deleteUser_cases draws req with
        ⟨hfail, hstores⟩ | ⟨userId, user, hparse, hprofile, hok, hstores⟩
      · exact ⟨accounts, hstores, fun id => by simp [Call.Deactivates, Call.Activates, hfail]⟩
      · refine ⟨_, hstores, fun id => ?_⟩
        have huser : user.userId = userId := h.keyed _ _ hprofile
        rw [Accounts.inactive_withProfile]
        simp only [Call.Deactivates, Call.Activates, hparse, hok, Option.some.injEq, and_true,
          not_false_eq_true, huser]
        split
        case isTrue hid => simp [hid]
        case isFalse hid => simp [Ne.symm hid]
  | authenticate around req =>
      exact ⟨accounts, h, fun id => by simp [Call.Deactivates, Call.Activates]⟩
  | validateSession now req =>
      exact ⟨accounts, h, fun id => by simp [Call.Deactivates, Call.Activates]⟩

/-- The ids of new accounts are fresh in every part of a run. -/
theorem FreshIds.of_append {services : AccountServices} {pre post : List Call}
    (h : FreshIds services (pre ++ post)) : FreshIds services pre :=
  fun pre' draws req post' hpre =>
    h pre' draws req (post' ++ post) (by rw [hpre, List.append_assoc, List.cons_append])

/-- The users whose profiles are inactive are those that have been deactivated. -/
theorem deactivated_iff {services : AccountServices} {calls : List Call}
    (hfresh : FreshIds services calls) :
    ∃ accounts, Stores services.keypair accounts (performAll services calls) ∧
      ∀ id, Deactivated services calls id ↔ accounts.Inactive id := by
  induction calls using List.reverseRecOn with
  | nil =>
      refine ⟨.empty, .empty, fun id => ⟨?_, ?_⟩⟩
      · rintro ⟨pre, call, mid, hcalls, -⟩
        simp at hcalls
      · rintro ⟨user, hprofile, -⟩
        cases hprofile
  | append_singleton calls call ih =>
      obtain ⟨accounts, h, hiff⟩ := ih hfresh.of_append
      obtain ⟨accounts', h', hstep⟩ := perform_inactive h call fun draws req hcall => by
        have hid := hfresh calls draws req [] (by rw [hcall])
        rw [h.getUserProfile] at hid
        exact Except.ok.inj hid
      rw [performAll_snoc]
      exact ⟨accounts', h', fun id => by rw [deactivated_snoc, hstep, hiff]⟩

/-- A user whose profile reads as inactive has been deactivated. -/
theorem deactivated_of_inactive {services : AccountServices} {calls : List Call}
    (hfresh : FreshIds services calls) {id : Uuid} {user : User}
    (hprofile : services.auth.getUserProfile (performAll services calls) id = .ok (some user))
    (hinactive : user.isActive = false) : Deactivated services calls id := by
  obtain ⟨accounts, h, hiff⟩ := deactivated_iff hfresh
  rw [h.getUserProfile] at hprofile
  exact (hiff id).mpr ⟨user, Except.ok.inj hprofile, hinactive⟩

/-- The profile of a user who has been deactivated reads as inactive. -/
theorem inactive_of_deactivated {services : AccountServices} {calls : List Call}
    (hfresh : FreshIds services calls) {id : Uuid} (h : Deactivated services calls id) :
    ∃ user, services.auth.getUserProfile (performAll services calls) id = .ok (some user) ∧
      user.isActive = false := by
  obtain ⟨accounts, hstores, hiff⟩ := deactivated_iff hfresh
  obtain ⟨user, hprofile, hinactive⟩ := (hiff id).mp h
  exact ⟨user, by rw [hstores.getUserProfile, hprofile], hinactive⟩

/-! ## Logins and sessions -/

variable [Totp] [Jwt] [SessionClock]

/-- The password is that of the username, the second factor is right where it is asked for, and a
token can be made for the profile. -/
def CredentialsAccepted (services : AccountServices) (db : Sled) (around : Surroundings)
    (req : AuthenticateRequest) : Prop :=
  ∃ auth parsedHash user token,
    services.auth.getUserAuth db req.username = .ok (some auth) ∧
    PasswordHasher.parse auth.passwordHash = .ok parsedHash ∧
    PasswordHasher.verifyPassword (Bytes.ofText req.password) parsedHash = .ok () ∧
    checkMfa auth.mfaSecret req.mfaToken around = .ok none ∧
    services.auth.getUserProfile db auth.userId = .ok (some user) ∧
    services.auth.issueToken user around.now = .ok token

omit [UuidParser] in
/-- A login that succeeds has checked everything, and issues a token for the profile it read. -/
theorem authenticate_success {services : AccountServices} {db : Sled} {around : Surroundings}
    {req : AuthenticateRequest} {response : AuthenticateResponse}
    (h : services.auth.authenticate db around req = .ok response)
    (hsuccess : response.success = true) :
    CredentialsAccepted services db around req ∧
      ∃ user, response.user = some (userInfo user) ∧
        services.auth.issueToken user around.now = .ok response.sessionToken := by
  rw [AuthServiceImpl.authenticate] at h
  split at h
  · cases h
  · cases h
    cases hsuccess
  next auth hauth =>
  split at h
  · cases h
  next parsedHash hparse =>
  split at h
  · cases h
    cases hsuccess
  next hverify =>
  split at h
  · cases h
  · cases h
    cases hsuccess
  next hmfa =>
  split at h
  · cases h
  · cases h
  next user hprofile =>
  split at h
  · cases h
  next token htoken =>
  cases h
  exact ⟨⟨auth, parsedHash, user, token, hauth, hparse, hverify, hmfa, hprofile, htoken⟩, user,
    rfl, htoken⟩

omit [UuidParser] in
/-- A login with accepted credentials succeeds, active profile or not. -/
theorem authenticate_accepted {services : AccountServices} {db : Sled} {around : Surroundings}
    {req : AuthenticateRequest} (h : CredentialsAccepted services db around req) :
    ∃ response, services.auth.authenticate db around req = .ok response ∧
      response.success = true := by
  obtain ⟨auth, parsedHash, user, token, hauth, hparse, hverify, hmfa, hprofile, htoken⟩ := h
  simp only [AuthServiceImpl.authenticate, hauth, hparse, hverify, hmfa, hprofile, htoken]
  exact ⟨_, rfl, rfl⟩

/-- The token was issued by a login of the user. -/
def Issued (services : AccountServices) (calls : List Call) (id : Uuid) (token : String) : Prop :=
  ∃ pre around req post response info, calls = pre ++ .authenticate around req :: post ∧
    services.auth.authenticate (performAll services pre) around req = .ok response ∧
    response.success = true ∧ response.sessionToken = token ∧ response.user = some info ∧
    info.userUuid = toString id

/-- A token that was issued to a user and is still accepted names the user. -/
theorem Issued.decode {services : AccountServices} {calls : List Call} {id : Uuid}
    {token : String} (h : Issued services calls id token) {now : Chrono.DateTime}
    {claims : Claims} (hdecode : Jwt.decode token services.jwtSecret now = some claims) :
    claims.sub = toString id := by
  obtain ⟨pre, around, req, post, response, info, -, hok, hsuccess, rfl, hinfo, hid⟩ := h
  obtain ⟨-, user, huser, htoken⟩ := authenticate_success hok hsuccess
  rw [hinfo] at huser
  obtain rfl := Option.some.inj huser
  rw [AuthServiceImpl.issueToken] at htoken
  split at htoken
  · cases htoken
  dsimp only at htoken
  split at htoken
  · cases htoken
  next token' hencode =>
  cases htoken
  rw [Jwt.decode_encode hencode hdecode]
  exact hid

/-- From its deactivation on, as long as it is not activated, no login under the username of the
account succeeds, and no token issued to the user is reported valid. -/
def ShutOut (services : AccountServices) (calls : List Call) : Prop :=
  (∀ pre around req post id user response, calls = pre ++ .authenticate around req :: post →
    Deactivated services pre id →
    services.auth.getUserProfile (performAll services pre) id = .ok (some user) →
    user.username = req.username →
    services.auth.authenticate (performAll services pre) around req = .ok response →
    response.success = false) ∧
  ∀ pre now req post id response, calls = pre ++ .validateSession now req :: post →
    Deactivated services pre id → Issued services pre id req.sessionToken →
    services.auth.validateSession (performAll services pre) now req = .ok response →
    response.valid = false

/-- Nobody logs in under the username of an inactive profile with credentials that are accepted,
and nobody presents a token of such a profile that has not expired. -/
def NoInactiveAccess (services : AccountServices) (calls : List Call) : Prop :=
  (∀ pre around req post id user, calls = pre ++ .authenticate around req :: post →
    services.auth.getUserProfile (performAll services pre) id = .ok (some user) →
    user.isActive = false → user.username = req.username →
    ¬ CredentialsAccepted services (performAll services pre) around req) ∧
  ∀ pre now req post id user, calls = pre ++ .validateSession now req :: post →
    services.auth.getUserProfile (performAll services pre) id = .ok (some user) →
    user.isActive = false → Issued services pre id req.sessionToken →
    Jwt.decode req.sessionToken services.jwtSecret now = none

omit [PasswordHasher] [Totp] [SessionClock] in
/-- A session is valid when its token is accepted and names a profile, active or not. -/
theorem validateSession_valid {services : AccountServices} {db : Sled} {now : Chrono.DateTime}
    {req : ValidateSessionRequest} {claims : Claims} {id : Uuid} {user : User}
    (hdecode : Jwt.decode req.sessionToken services.jwtSecret now = some claims)
    (hparse : UuidParser.parseStr claims.sub = some id)
    (hprofile : services.auth.getUserProfile db id = .ok (some user)) :
    services.auth.validateSession db now req =
      .ok { valid := true, user := some (userInfo user), error := "" } := by
  have hdecode' : Jwt.decode req.sessionToken services.auth.jwtSecret now = some claims := hdecode
  simp only [AuthServiceImpl.validateSession, hdecode', hparse, hprofile]

/-- A user whose profile is inactive is shut out of what is accepted for the profile only if it is
not presented. -/
theorem ShutOut.noInactiveAccess (hparse : ∀ id : Uuid, UuidParser.parseStr (toString id) = some id)
    {services : AccountServices} {calls : List Call} (hfresh : FreshIds services calls)
    (h : ShutOut services calls) : NoInactiveAccess services calls := by
  obtain ⟨hlogin, hsession⟩ := h
  constructor
  · rintro pre around req post id user rfl hprofile hinactive hname haccepted
    have hdeactivated := deactivated_of_inactive hfresh.of_append hprofile hinactive
    obtain ⟨response, hok, hsuccess⟩ := authenticate_accepted haccepted
    have hdenied := hlogin pre around req post id user response rfl hdeactivated hprofile hname hok
    rw [hsuccess] at hdenied
    cases hdenied
  · rintro pre now req post id user rfl hprofile hinactive hissued
    have hdeactivated := deactivated_of_inactive hfresh.of_append hprofile hinactive
    cases hdecode : Jwt.decode req.sessionToken services.jwtSecret now with
    | none => rfl
    | some claims =>
        have hsub := hissued.decode hdecode
        have hdenied := hsession pre now req post id _ rfl hdeactivated hissued
          (validateSession_valid hdecode (by rw [hsub, hparse]) hprofile)
        cases hdenied

/-- A deactivated account is shut out while nobody presents what is accepted for its profile. -/
theorem NoInactiveAccess.shutOut {services : AccountServices} {calls : List Call}
    (hfresh : FreshIds services calls) (h : NoInactiveAccess services calls) :
    ShutOut services calls := by
  obtain ⟨hlogin, hsession⟩ := h
  constructor
  · rintro pre around req post id user response rfl hdeactivated hprofile hname hok
    obtain ⟨user', hprofile', hinactive⟩ := inactive_of_deactivated hfresh.of_append hdeactivated
    obtain rfl := Option.some.inj (Except.ok.inj (hprofile.symm.trans hprofile'))
    by_contra hsuccess
    exact hlogin pre around req post id user rfl hprofile hinactive hname
      (authenticate_success hok (by simpa using hsuccess)).1
  · rintro pre now req post id response rfl hdeactivated hissued hok
    obtain ⟨user, hprofile, hinactive⟩ := inactive_of_deactivated hfresh.of_append hdeactivated
    have hnone := hsession pre now req post id user rfl hprofile hinactive hissued
    rw [AuthServiceImpl.validateSession, AccountServices.auth, hnone] at hok
    cases hok
    rfl

/-- A deactivated account is shut out exactly when nobody presents its credentials or one of its
tokens while its profile is inactive. -/
theorem shut_out_iff (hparse : ∀ id : Uuid, UuidParser.parseStr (toString id) = some id)
    {services : AccountServices} {calls : List Call} (hfresh : FreshIds services calls) :
    ShutOut services calls ↔ NoInactiveAccess services calls :=
  ⟨ShutOut.noInactiveAccess hparse hfresh, NoInactiveAccess.shutOut hfresh⟩

end InfoVulcan.Auth

/-! ## Runs on the JSON formats -/

namespace InfoVulcan.Auth

open scoped SerdeJson

open Admin SerdeJson

/-- The account with the first id is created, deleted, and then somebody tries a password. -/
def deletedLogin (password : String) : List Call :=
  [createCall ⟨1⟩ "alice", .deleteUser changeDraws ⟨toString (⟨1⟩ : Uuid)⟩,
    .authenticate ⟨CivilTime.unixEpoch, false⟩ ⟨"alice", password, ""⟩]

/-- The profile after the deletion. -/
def deletedUser : User :=
  { AdminServiceImpl.newUser (drawsFor ⟨1⟩) (accountRequest "alice") with
    isActive := false, updatedAt := CivilTime.unixEpoch }

theorem stores_deleted : Stores accountServices.keypair (firstAccounts.withProfile deletedUser)
    (performAll accountServices
      [createCall ⟨1⟩ "alice", .deleteUser changeDraws ⟨toString (⟨1⟩ : Uuid)⟩]) :=
  stores_deleteUser stores_first changeDraws (Uuid.parseHyphenated_toString ⟨1⟩) rfl

theorem freshIds_deletedLogin (password : String) :
    FreshIds accountServices (deletedLogin password) := by
  intro pre draws req post hcalls
  rcases pre with _ | ⟨first, _ | ⟨second, _ | ⟨third, pre⟩⟩⟩
  · exact Stores.empty.getUserProfile draws.userId
  all_goals simp [deletedLogin] at hcalls

/-- A deleted account is shut out while only a wrong password is tried. -/
theorem shut_out_iff_wrong_password : ShutOut accountServices (deletedLogin "guess") := by
  refine (shut_out_iff Uuid.parseHyphenated_toString (freshIds_deletedLogin "guess")).mpr
    ⟨?_, ?_⟩
  · intro pre around req post id user hcalls hprofile hinactive hname
    rcases pre with _ | ⟨first, _ | ⟨second, _ | ⟨third, pre⟩⟩⟩
    case cons.cons.nil =>
        simp only [deletedLogin, List.cons_append, List.nil_append, List.cons.injEq,
          Call.authenticate.injEq] at hcalls
        obtain ⟨rfl, rfl, ⟨rfl, rfl⟩, -⟩ := hcalls
        rintro ⟨auth, parsedHash, user', token, hauth, hparse, hverify, -⟩
        rw [stores_deleted.getUserAuth] at hauth
        obtain rfl := Option.some.inj (Except.ok.inj hauth)
        cases hparse
        simp [PasswordHasher.verifyPassword, AdminServiceImpl.newAuth] at hverify
    all_goals simp [deletedLogin, createCall] at hcalls
  · intro pre now req post id user hcalls
    rcases pre with _ | ⟨first, _ | ⟨second, _ | ⟨third, pre⟩⟩⟩
    all_goals simp [deletedLogin, createCall] at hcalls

/-- A deleted account logs in with its password. -/
theorem deleted_account_logs_in : ¬ ShutOut accountServices (deletedLogin "secret") := by
  intro hshut
  have haccess := hshut.noInactiveAccess Uuid.parseHyphenated_toString
    (freshIds_deletedLogin "secret")
  refine haccess.1 _ ⟨CivilTime.unixEpoch, false⟩ ⟨"alice", "secret", ""⟩ [] ⟨1⟩ deletedUser rfl
    (stores_deleted.getUserProfile ⟨1⟩) rfl rfl ?_
  obtain ⟨token, htoken⟩ := issueToken_ok deletedUser
  refine ⟨AdminServiceImpl.newAuth ⟨1⟩ ("$" ++ "secret"), _, deletedUser, token,
    stores_deleted.getUserAuth "alice", rfl, ?_, rfl, stores_deleted.getUserProfile ⟨1⟩, htoken⟩
  simp [PasswordHasher.verifyPassword, AdminServiceImpl.newAuth]

end InfoVulcan.Auth
