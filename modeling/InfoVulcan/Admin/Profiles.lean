import InfoVulcan.Admin.Calls
import InfoVulcan.Auth.Accounts
import InfoVulcan.Library.Patch

/-!
# What calls do to profiles

A call is a `Patch` of the fields it sets. It reads a profile, changes it and stores it again whole:
each of its requests either stores a profile (`Storing`), or leaves the profiles alone (`Quiet`).
-/

namespace InfoVulcan.Admin

open Auth (Sealed)

variable [Chrono]

/-! ## Fields -/

/-- The fields of a profile that calls set. -/
inductive ProfileField where
  | email
  | displayName
  | role
  | isActive
  deriving DecidableEq

/-- The values of a field. -/
def ProfileField.Value : ProfileField → Type
  | email | displayName => String
  | role => Role
  | isActive => Bool

/-- The value of a field in a profile. -/
def profileField (user : User) : (f : ProfileField) → f.Value
  | .email => user.email
  | .displayName => user.displayName
  | .role => user.role
  | .isActive => user.isActive

variable [Primitives] [PasswordHasher]

/-- The fields a call sets. -/
def AccountCall.sets : AccountCall → Patch ProfileField.Value
  | create draws req => fun f => some (profileField (AdminServiceImpl.newUser draws req) f)
  | update _ req => fun
      | .email => req.email
      | .displayName => req.displayName
      | .role => req.role.map mapRole
      | .isActive => req.active
  | delete .. => fun
      | .isActive => some false
      | _ => none

/-- The changed profile is that of a user, with the fields of the call set. -/
structure Edits (call : AccountCall) (base user : User) : Prop where
  userId : user.userId = base.userId
  fields : ∀ f, profileField user f = (call.sets f).getD (profileField base f)

theorem edits_applyUpdate (draws : UpdateDraws) (req : UpdateUserRequest) (user : User) :
    Edits (.update draws req) user (AdminServiceImpl.applyUpdate draws req user) where
  userId := rfl
  fields f := by cases f <;> rfl

theorem edits_deactivate (draws : UpdateDraws) (req : DeleteUserRequest) (user : User) :
    Edits (.delete draws req) user
      { user with isActive := false, updatedAt := draws.updatedAt } where
  userId := rfl
  fields f := by cases f <;> rfl

/-! ## Stored profiles -/

variable [AccountFormat]

/-- The stored profile of a user. -/
def AdminServiceImpl.profile (service : AdminServiceImpl) (db : Sled) (id : Uuid) : Option User :=
  (Db.get db "users" id.asBytes).bind fun value => (service.decryptUser value).toOption

/-- The collection of users holds the profiles, encrypted, each under the id of its user. -/
structure HoldsProfiles (keypair : KeyPair) (profiles : Uuid → Option User) (db : Sled) : Prop where
  cells : ∀ id, Sealed keypair AccountFormat.user (db.at? ⟨"users", id.asBytes⟩) (profiles id)
  keyed : ∀ id user, profiles id = some user → user.userId = id

namespace HoldsProfiles

variable {service : AdminServiceImpl} {profiles : Uuid → Option User} {db : Sled}

omit [PasswordHasher] in
/-- The stored profiles are those that are held. -/
theorem profile_eq (h : HoldsProfiles service.keypair profiles db) (id : Uuid) :
    service.profile db id = profiles id := by
  have hcell : Sealed _ _ (Db.get db "users" id.asBytes) _ := h.cells id
  rw [AdminServiceImpl.profile]
  cases hget : Db.get db "users" id.asBytes with
  | none =>
      rw [hget] at hcell
      rw [hcell.none_eq]
      rfl
  | some value =>
      rw [hget] at hcell
      obtain ⟨user, hprofile, hopen⟩ := hcell.open_eq
      rw [hprofile, Option.bind_some, AdminServiceImpl.decryptUser, hopen]
      rfl

omit [PasswordHasher] in
/-- A profile is stored under the id of its user. -/
theorem putUser (h : HoldsProfiles service.keypair profiles db) {user : User}
    {entropy : Primitives.Entropy} {value : Bytes}
    (hvalue : service.encryptUser user entropy = .ok value) :
    HoldsProfiles service.keypair (Function.update profiles user.userId (some user))
      (Db.put db "users" user.userId.asBytes value) where
  cells id := by
    rw [Function.update_apply]
    exact Auth.sealed_put Auth.users_cell_injective h.cells hvalue user.userId id
  keyed id user' h' := by
    rw [Function.update_apply] at h'
    split at h'
    case isTrue hid => rw [← Option.some.inj h', hid]
    case isFalse => exact h.keyed id user' h'

omit [PasswordHasher] in
/-- Storing credentials leaves the profiles alone. -/
theorem putAuth (h : HoldsProfiles service.keypair profiles db) (key value : Bytes) :
    HoldsProfiles service.keypair profiles (Db.put db "auth" key value) where
  cells id := by
    rw [Db.put, Keyspace.at_put, if_neg (by simp)]
    exact h.cells id
  keyed := h.keyed

omit [PasswordHasher] in
/-- A profile that is read is held under its id. -/
theorem of_existingUser [UuidParser] (h : HoldsProfiles service.keypair profiles db) {id : String}
    {user : User} (hread : service.existingUser db id = .ok user) :
    profiles user.userId = some user := by
  rw [AdminServiceImpl.existingUser] at hread
  cases hkey : userKey id with
  | error status =>
      rw [hkey] at hread
      cases hread
  | ok userId =>
      simp only [hkey] at hread
      have hprofile : service.profile db userId = some user := by
        rw [AdminServiceImpl.profile]
        cases hget : Db.get db "users" userId.asBytes with
        | none =>
            rw [hget] at hread
            cases hread
        | some value =>
            simp only [hget] at hread
            rw [Option.bind_some, hread]
            rfl
      rw [h.profile_eq] at hprofile
      rw [h.keyed userId user hprofile, hprofile]

end HoldsProfiles

/-! ## What a request stores -/

namespace AccountCall

variable [UuidParser]

/-- The profile that the next request of a call stores. -/
def stores (service : AdminServiceImpl) (call : AccountCall) (failure : Option Status)
    (phase : CallPhase) : Option User :=
  match failure, phase, call with
  | none, .started, create draws req =>
      (service.prepareAccount draws req).toOption.map fun _ => AdminServiceImpl.newUser draws req
  | none, .storingUser user, call =>
      (service.encryptUser user call.entropy).toOption.map fun _ => user
  | _, _, _ => none

variable {service : AdminServiceImpl} {profiles : Uuid → Option User} {db : Sled}

omit [UuidParser] in
/-- A call that has a profile to store stores no other. -/
theorem eq_of_stores {call : AccountCall} {failure : Option Status} {user user' : User}
    (h : call.stores service failure (.storingUser user) = some user') : user' = user := by
  cases failure with
  | some status => cases h
  | none =>
      obtain ⟨userBytes, -, rfl⟩ := Option.map_eq_some_iff.mp h
      rfl

omit [UuidParser] in
/-- The profile of a new account is among its records. -/
theorem encryptUser_of_prepareAccount {draws : CreateDraws} {req : CreateUserRequest}
    {userBytes authBytes : Bytes}
    (h : service.prepareAccount draws req = .ok (userBytes, authBytes)) :
    service.encryptUser (AdminServiceImpl.newUser draws req) draws.entropy = .ok userBytes := by
  simp only [AdminServiceImpl.prepareAccount] at h
  split at h
  · cases h
  split at h
  · cases h
  split at h
  · cases h
  next huser =>
    cases h
    exact huser

/-- A request that stores no profile: it leaves the profiles alone, and what the call has yet to
store is what it had, or a changed profile that has just been read. -/
structure Quiet (service : AdminServiceImpl) (profiles : Uuid → Option User) (call : AccountCall)
    (phase : CallPhase) (next : CallPhase × Sled) : Prop where
  holds : HoldsProfiles service.keypair profiles next.2
  pending : ∀ user, next.1.pending = some user → phase.pending = some user ∨
    ∃ base, profiles base.userId = some base ∧ Edits call base user

/-- A request that stores a profile, which the call had yet to store, or which is that of a new
account. -/
structure Storing (service : AdminServiceImpl) (profiles : Uuid → Option User) (call : AccountCall)
    (phase : CallPhase) (next : CallPhase × Sled) (user : User) : Prop where
  holds : HoldsProfiles service.keypair (Function.update profiles user.userId (some user)) next.2
  source : phase.pending = some user ∨ ∀ f, call.sets f = some (profileField user f)
  done : next.1.pending = none

omit [AccountFormat] [UuidParser] in
/-- What is pending after a changed profile has been read. -/
theorem pending_afterReading {draws : UpdateDraws} {req : UpdateUserRequest} {user user' : User}
    (h : (afterReading draws req user).pending = some user') : user' = user := by
  unfold afterReading at h
  split at h
  · exact (Option.some.inj h).symm
  · split at h
    · cases h
    · exact (Option.some.inj h).symm

/-- The first request of a call stores the profile of a new account, or reads a profile. -/
theorem start_cases (h : HoldsProfiles service.keypair profiles db) (call : AccountCall)
    (failure : Option Status) :
    (call.stores service failure .started = none ∧
      Quiet service profiles call .started (call.start service db failure)) ∨
    ∃ user, call.stores service failure .started = some user ∧
      Storing service profiles call .started (call.start service db failure) user := by
  have hread : ∀ {id user}, readUser service db failure id = .ok user →
      profiles user.userId = some user := by
    intro id user hread
    unfold readUser at hread
    split at hread
    · cases hread
    · exact h.of_existingUser hread
  cases call with
  | create draws req =>
      simp only [start]
      cases hrecords : service.prepareAccount draws req with
      | error status =>
          refine .inl ⟨by cases failure <;> simp [stores, hrecords, Except.toOption], h, ?_⟩
          exact fun user hpending => by cases hpending
      | ok records =>
          cases failure with
          | some status => exact .inl ⟨rfl, h, fun user hpending => by cases hpending⟩
          | none =>
              refine .inr ⟨AdminServiceImpl.newUser draws req,
                by simp [stores, hrecords, Except.toOption], ?_, .inr fun f => rfl, rfl⟩
              exact h.putUser (encryptUser_of_prepareAccount hrecords)
  | update draws req =>
      refine .inl ⟨by cases failure <;> rfl, ?_⟩
      simp only [start]
      cases huser : readUser service db failure req.id with
      | error stop => exact ⟨h, fun user hpending => by cases hpending⟩
      | ok user =>
          refine ⟨h, fun user' hpending => .inr ⟨user, hread huser, ?_⟩⟩
          rw [pending_afterReading hpending]
          exact edits_applyUpdate draws req user
  | delete draws req =>
      refine .inl ⟨by cases failure <;> rfl, ?_⟩
      simp only [start]
      cases huser : readUser service db failure req.id with
      | error stop => exact ⟨h, fun user hpending => by cases hpending⟩
      | ok user =>
          refine ⟨h, fun user' hpending => .inr ⟨user, hread huser, ?_⟩⟩
          obtain rfl := Option.some.inj hpending
          exact edits_deactivate draws req user

/-- A request of a call stores a profile, or it is quiet. -/
theorem step_cases (h : HoldsProfiles service.keypair profiles db) (call : AccountCall)
    (failure : Option Status) (phase : CallPhase) :
    (call.stores service failure phase = none ∧
      Quiet service profiles call phase (call.step service db failure phase)) ∨
    ∃ user, call.stores service failure phase = some user ∧
      Storing service profiles call phase (call.step service db failure phase) user := by
  cases phase with
  | started => exact start_cases h call failure
  | creatingAuth username authBytes message =>
      refine .inl ⟨by cases failure <;> rfl, ?_⟩
      cases failure with
      | some status => exact ⟨h, fun user hpending => by cases hpending⟩
      | none => exact ⟨h.putAuth _ _, fun user hpending => by cases hpending⟩
  | rehashing user passwordHash =>
      refine .inl ⟨by cases failure <;> rfl, ?_⟩
      cases failure with
      | some status => exact ⟨h, fun user' hpending => by cases hpending⟩
      | none =>
          simp only [step]
          split
          · exact ⟨h, fun user' hpending => by cases hpending⟩
          split
          · exact ⟨h, fun user' hpending => by cases hpending⟩
          · exact ⟨h, fun user' hpending => .inl hpending⟩
  | storingAuth user authBytes =>
      refine .inl ⟨by cases failure <;> rfl, ?_⟩
      cases failure with
      | some status => exact ⟨h, fun user' hpending => by cases hpending⟩
      | none => exact ⟨h.putAuth _ _, fun user' hpending => .inl hpending⟩
  | storingUser user =>
      cases hbytes : service.encryptUser user call.entropy with
      | error status =>
          refine .inl ⟨by cases failure <;> simp [stores, hbytes, Except.toOption], ?_⟩
          simp only [step, hbytes]
          exact ⟨h, fun user' hpending => by cases hpending⟩
      | ok userBytes =>
          cases failure with
          | some status =>
              refine .inl ⟨rfl, ?_⟩
              simp only [step, hbytes]
              exact ⟨h, fun user' hpending => by cases hpending⟩
          | none =>
              refine .inr ⟨user, by simp [stores, hbytes, Except.toOption], ?_⟩
              simp only [step, hbytes]
              exact ⟨h.putUser hbytes, .inl rfl, rfl⟩
  | returned result =>
      exact .inl ⟨by cases failure <;> rfl, h, fun user' hpending => by cases hpending⟩

/-- Whether a call has stored its profile. -/
def hasStored : CallPhase → Bool
  | .creatingAuth .. | .returned (.ok _) => true
  | _ => false

/-- A call gets to where it has stored its profile by storing it. -/
theorem hasStored_step {call : AccountCall} {failure : Option Status} {phase : CallPhase}
    (h : hasStored (call.step service db failure phase).1) :
    hasStored phase ∨ (call.stores service failure phase).isSome := by
  cases phase with
  | started =>
      cases call with
      | create draws req =>
          simp only [step, start] at h
          cases hrecords : service.prepareAccount draws req with
          | error status =>
              rw [hrecords] at h
              cases h
          | ok records =>
              cases failure with
              | some status =>
                  rw [hrecords] at h
                  cases h
              | none =>
                  refine .inr ?_
                  simp [stores, hrecords, Except.toOption]
      | update draws req =>
          simp only [step, start, afterReading] at h
          split at h
          · cases h
          split at h
          · cases h
          split at h <;> cases h
      | delete draws req =>
          simp only [step, start] at h
          split at h <;> cases h
  | creatingAuth => exact .inl rfl
  | rehashing user passwordHash =>
      simp only [step] at h
      split at h
      · cases h
      split at h
      · cases h
      split at h <;> cases h
  | storingAuth user authBytes =>
      simp only [step] at h
      split at h <;> cases h
  | storingUser user =>
      cases hbytes : service.encryptUser user call.entropy with
      | error status =>
          simp only [step, hbytes] at h
          cases h
      | ok userBytes =>
          cases failure with
          | some status =>
              simp only [step, hbytes] at h
              cases h
          | none =>
              refine .inr ?_
              simp [stores, hbytes, Except.toOption]
  | returned result => exact .inl h

end AccountCall

end InfoVulcan.Admin
