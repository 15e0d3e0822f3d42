import InfoVulcan.Admin.Calls
import InfoVulcan.Auth.Json

/-!
# What a failed call leaves behind

A creation stores a profile and then credentials, an update with a new password credentials and
then a profile. A call that fails between the two has stored one record of two, and returns an
error. Every other error leaves both collections as they were.
-/

namespace InfoVulcan.Admin

/-- The collections of users and credentials hold the same values. -/
def SameAccounts (db db' : Sled) : Prop :=
  ∀ collection ∈ ["users", "auth"], ∀ key, Db.get db' collection key = Db.get db collection key

theorem SameAccounts.refl (db : Sled) : SameAccounts db db :=
  fun _ _ _ => rfl

/-- Storing a value changes nothing only if it is stored already. -/
theorem sameAccounts_put_iff {db : Sled} {collection : String} {key value : Bytes}
    (hcollection : collection ∈ ["users", "auth"]) :
    SameAccounts db (Db.put db collection key value) ↔
      Db.get db collection key = some value := by
  constructor
  case mp =>
    intro h
    have hcell := h collection hcollection key
    rw [← hcell]
    exact (Keyspace.at_put db _ _ value).trans (if_pos rfl)
  case mpr =>
    intro hstored collection' _ key'
    show (Db.put db collection key value).at? ⟨collection', key'⟩ = db.at? ⟨collection', key'⟩
    rw [Db.put, Keyspace.at_put]
    split
    next hcell =>
      rw [← hcell]
      exact hstored.symm
    next => rfl

variable [Chrono] [Primitives] [PasswordHasher] [AccountFormat] [UuidParser]

/-- If the call returns an error, both collections are as before. -/
def AllOrNothing (db : Sled) (outcome : CallPhase × Sled) : Prop :=
  ∀ stop, outcome.1 = .returned (.error stop) → SameAccounts db outcome.2

namespace AccountCall

variable (service : AdminServiceImpl) (db : Sled) (failures : Nat → Option Status)

/-- How a call ends whose requests fail as `failures` says, with no other calls in between. No
handler makes more than four requests. -/
def outcome (call : AccountCall) : CallPhase × Sled :=
  call.perform service db ((List.range 4).map failures)

/-- The credentials that an update of a profile stores for a new password. -/
def newCredentials (draws : PasswordDraws) (user : User) (password : String) :
    Except (Stop Status) Bytes :=
  match AdminServiceImpl.hashPassword password draws.salt with
  | .error status => .error (.error status)
  | .ok passwordHash =>
      match service.priorMfa db user.username with
      | .error stop => .error stop
      | .ok (mfaSecret, mfaMethod) =>
          match service.keypair.sealRecord AccountFormat.userAuth
              { userId := user.userId, passwordHash, mfaSecret, mfaMethod } draws.entropy with
          | .error status => .error (.error status)
          | .ok authBytes => .ok authBytes

/-- An update reads a profile and stores new credentials, and has the profile still to store. -/
structure Rehashes (draws : UpdateDraws) (req : UpdateUserRequest) (user : User)
    (authBytes : Bytes) : Prop where
  reached : failures 0 = none ∧ failures 1 = none ∧ failures 2 = none
  read : service.existingUser db req.id = .ok user
  rehashed : ∃ password, req.password = some password ∧
    newCredentials service db draws.credentials user password = .ok authBytes

/-- The call does not fail between its two writes, or the first of them changes nothing. -/
def Unsplit : AccountCall → Prop
  | create draws req =>
      ∀ userBytes authBytes, service.prepareAccount draws req = .ok (userBytes, authBytes) →
        failures 0 = none → (failures 1).isSome →
          Db.get db "users" draws.userId.asBytes = some userBytes
  | update draws req =>
      ∀ user authBytes, Rehashes service db failures draws req user authBytes →
        (failures 3).isSome ∨
          (service.encryptUser (AdminServiceImpl.applyUpdate draws req user)
            draws.entropy).isOk = false →
        Db.get db "auth" (authKey user.username) = some authBytes
  | delete .. => True

variable {service db failures}

/-! ## Every call returns -/

/-- Storing a profile is the last write of a call. -/
theorem step_storingUser_failing (call : AccountCall) (user : User) (db' : Sled)
    (failure : Option Status) :
    (∃ status, (failure.isSome ∨ (service.encryptUser user call.entropy).isOk = false) ∧
        call.step service db' failure (.storingUser user) = (.failed status, db')) ∨
      ∃ db'', ¬ (failure.isSome ∨ (service.encryptUser user call.entropy).isOk = false) ∧
        call.step service db' failure (.storingUser user) =
          (.returned (.ok (call.answer user)), db'') := by
  cases hbytes : service.encryptUser user call.entropy with
  | error status => exact .inl ⟨status, .inr rfl, by simp only [step, hbytes]⟩
  | ok userBytes =>
      cases failure with
      | some status => exact .inl ⟨status, .inl rfl, by simp only [step, hbytes]⟩
      | none =>
          refine .inr ⟨Db.put db' "users" user.userId.asBytes userBytes, ?_, ?_⟩
          · simp [Except.isOk, Except.toBool]
          · simp only [step, hbytes]

/-- How many requests a call has still to make, at most. -/
def requestsLeft : CallPhase → Nat
  | .started => 4
  | .rehashing .. => 3
  | .storingAuth .. => 2
  | .creatingAuth .. | .storingUser _ => 1
  | .returned _ => 0

/-- A call that has made its first request has three more to make at most. -/
theorem requestsLeft_start (call : AccountCall) (failure : Option Status) :
    requestsLeft (call.start service db failure).1 ≤ 3 := by
  cases call with
  | create draws req =>
      simp only [start]
      cases service.prepareAccount draws req with
      | error status => exact Nat.zero_le _
      | ok records =>
          cases failure with
          | some status => exact Nat.zero_le _
          | none => exact Nat.le_add_left 1 2
  | update draws req =>
      simp only [start]
      cases readUser service db failure req.id with
      | error stop => exact Nat.zero_le _
      | ok user =>
          show requestsLeft (afterReading draws req _) ≤ 3
          unfold afterReading
          split
          next => exact Nat.le_add_left 1 2
          next =>
            split
            next => exact Nat.zero_le _
            next => exact Nat.le_refl 3
  | delete draws req =>
      simp only [start]
      cases readUser service db failure req.id with
      | error stop => exact Nat.zero_le _
      | ok user => exact Nat.le_add_left 1 2

/-- A request, whether it fails or not, leaves one request less to make. -/
theorem requestsLeft_step (call : AccountCall) (failure : Option Status) (phase : CallPhase) :
    requestsLeft (call.step service db failure phase).1 ≤ requestsLeft phase - 1 := by
  cases phase with
  | started => exact requestsLeft_start call failure
  | creatingAuth username authBytes message =>
      cases failure <;> exact Nat.zero_le _
  | rehashing user passwordHash =>
      cases failure with
      | some status => exact Nat.zero_le _
      | none =>
          show _ ≤ 2
          cases hmfa : service.priorMfa db user.username with
          | error stop =>
              simp only [step, hmfa]
              exact Nat.zero_le _
          | ok mfa =>
              cases hauth : service.keypair.sealRecord AccountFormat.userAuth
                  { userId := user.userId, passwordHash, mfaSecret := mfa.1, mfaMethod := mfa.2 }
                  call.credentials.entropy with
              | error status =>
                  simp only [step, hmfa, hauth]
                  exact Nat.zero_le _
              | ok authBytes =>
                  simp only [step, hmfa, hauth]
                  exact Nat.le_refl 2
  | storingAuth user authBytes =>
      cases failure with
      | some status => exact Nat.zero_le _
      | none => exact Nat.le_refl 1
  | storingUser user =>
      rcases step_storingUser_failing call user db failure with
        ⟨status, -, hstep⟩ | ⟨db', -, hstep⟩
      · rw [hstep]
        exact Nat.zero_le _
      · rw [hstep]
        exact Nat.zero_le _
  | returned result => exact Nat.le_refl 0

/-- A call gets through its requests. -/
theorem requestsLeft_resume (call : AccountCall) (s : CallPhase × Sled)
    (failures : List (Option Status)) :
    requestsLeft (call.resume service s failures).1 ≤ requestsLeft s.1 - failures.length := by
  induction failures generalizing s with
  | nil => exact Nat.le_refl _
  | cons failure failures ih =>
      have hstep : requestsLeft (call.step service s.2 failure s.1).1 ≤ requestsLeft s.1 - 1 :=
        requestsLeft_step call failure s.1
      have hrest := ih (call.step service s.2 failure s.1)
      show requestsLeft (call.resume service (call.step service s.2 failure s.1) failures).1 ≤ _
      rw [List.length_cons]
      omega

/-- Every call returns, whichever of its requests fail. -/
theorem outcome_returned (call : AccountCall) :
    ∃ result, (call.outcome service db failures).1 = .returned result := by
  have hleft : requestsLeft (call.resume service (.started, db)
      ((List.range 4).map failures)).1 ≤ 4 - ((List.range 4).map failures).length :=
    requestsLeft_resume call (.started, db) _
  rw [List.length_map, List.length_range] at hleft
  show ∃ result, (call.resume service (.started, db) ((List.range 4).map failures)).1 = _
  cases hphase : (call.resume service (.started, db) ((List.range 4).map failures)).1 with
  | returned result => exact ⟨result, rfl⟩
  | started => simp [hphase, requestsLeft] at hleft
  | creatingAuth username authBytes message => simp [hphase, requestsLeft] at hleft
  | rehashing user passwordHash => simp [hphase, requestsLeft] at hleft
  | storingAuth user authBytes => simp [hphase, requestsLeft] at hleft
  | storingUser user => simp [hphase, requestsLeft] at hleft

/-! ## What a call leaves behind -/

omit [Primitives] [PasswordHasher] [AccountFormat] [UuidParser] in
/-- A call that has not touched the DB has left nothing behind. -/
theorem allOrNothing_unchanged (phase : CallPhase) : AllOrNothing db (phase, db) :=
  fun _ _ => .refl db

omit [Primitives] [PasswordHasher] [AccountFormat] [UuidParser] in
/-- A call that succeeds may change the DB. -/
theorem allOrNothing_ok (answer : AccountAnswer) (db' : Sled) :
    AllOrNothing db (.returned (.ok answer), db') := by
  intro stop hstop
  cases hstop

omit [Primitives] [PasswordHasher] [AccountFormat] [UuidParser] in
/-- A call that fails must have left both collections as they were. -/
theorem allOrNothing_failed_iff (status : Status) (db' : Sled) :
    AllOrNothing db (.failed status, db') ↔ SameAccounts db db' :=
  ⟨fun h => h _ rfl, fun h _ _ => h⟩

/-- A call that has returned leaves nothing behind, unless it has changed the DB before. -/
theorem allOrNothing_returned (call : AccountCall)
    (result : Except (Stop Status) AccountAnswer) (failures : List (Option Status)) :
    AllOrNothing db (call.resume service (.returned result, db) failures) := by
  rw [resume_returned]
  exact allOrNothing_unchanged _

/-- A creation fails between its two writes when the second one fails. -/
theorem create_allOrNothing_iff (draws : CreateDraws) (req : CreateUserRequest) :
    AllOrNothing db ((create draws req).outcome service db failures) ↔
      (create draws req).Unsplit service db failures := by
  show AllOrNothing db ((create draws req).resume service
    ((create draws req).start service db (failures 0)) [failures 1, failures 2, failures 3]) ↔ _
  cases hrecords : service.prepareAccount draws req with
  | error status =>
      simp only [start, hrecords]
      refine iff_of_true (allOrNothing_unchanged _) fun userBytes authBytes hok => ?_
      rw [hrecords] at hok
      cases hok
  | ok records =>
      obtain ⟨userBytes, authBytes⟩ := records
      have hunsplit : (create draws req).Unsplit service db failures ↔
          (failures 0 = none → (failures 1).isSome →
            Db.get db "users" draws.userId.asBytes = some userBytes) := by
        constructor
        case mp => exact fun h => h userBytes authBytes hrecords
        case mpr =>
          intro h userBytes' authBytes' hok
          obtain ⟨rfl, rfl⟩ := Prod.mk.inj (Except.ok.inj (hrecords.symm.trans hok))
          exact h
      rw [hunsplit]
      cases hfirst : failures 0 with
      | some status =>
          simp only [start, hrecords]
          exact iff_of_true (allOrNothing_unchanged _) fun hnone => by cases hnone
      | none =>
          cases hsecond : failures 1 with
          | some status =>
              simp only [start, hrecords]
              show AllOrNothing db (.failed status,
                Db.put db "users" draws.userId.asBytes userBytes) ↔ _
              rw [allOrNothing_failed_iff, sameAccounts_put_iff List.mem_cons_self]
              simp
          | none =>
              simp only [start, hrecords]
              exact iff_of_true (allOrNothing_ok _ _) fun _ hsome => by cases hsome

/-- A call with a new password reads the stored credentials and prepares the new ones. -/
theorem step_rehashing (call : AccountCall) (user : User) {password passwordHash : String}
    (hhash : AdminServiceImpl.hashPassword password call.credentials.salt = .ok passwordHash) :
    call.step service db none (.rehashing user passwordHash) =
      match newCredentials service db call.credentials user password with
      | .error stop => (.returned (.error stop), db)
      | .ok authBytes => (.storingAuth user authBytes, db) := by
  simp only [step, newCredentials, hhash]
  cases hmfa : service.priorMfa db user.username with
  | error stop => rfl
  | ok mfa =>
      simp only []
      cases service.keypair.sealRecord AccountFormat.userAuth
          { userId := user.userId, passwordHash, mfaSecret := mfa.1, mfaMethod := mfa.2 }
          call.credentials.entropy with
      | error status => rfl
      | ok authBytes => rfl

/-- How a call gets on with a new password: the credentials are stored, or the call returns an error
and has not touched the DB. -/
theorem rehashing_cases (call : AccountCall) (user : User) {password passwordHash : String}
    (hhash : AdminServiceImpl.hashPassword password call.credentials.salt = .ok passwordHash)
    (first second : Option Status) (rest : List (Option Status)) :
    (∃ authBytes, (first = none ∧ second = none) ∧
      newCredentials service db call.credentials user password = .ok authBytes ∧
      call.resume service (.rehashing user passwordHash, db) (first :: second :: rest) =
        call.resume service
          (.storingUser user, Db.put db "auth" (authKey user.username) authBytes) rest) ∨
    ((∀ authBytes, first = none → second = none →
        newCredentials service db call.credentials user password ≠ .ok authBytes) ∧
      ∃ stop, call.resume service (.rehashing user passwordHash, db) (first :: second :: rest) =
        (.returned (.error stop), db)) := by
  have hresume : call.resume service (.rehashing user passwordHash, db)
      (first :: second :: rest) =
        call.resume service (call.step service db first (.rehashing user passwordHash))
          (second :: rest) := rfl
  rw [hresume]
  cases first with
  | some status =>
      refine .inr ⟨fun _ hnone => ?_, .error status, resume_returned ..⟩
      cases hnone
  | none =>
      rw [step_rehashing call user hhash]
      cases hcredentials : newCredentials service db call.credentials user password with
      | error stop =>
          refine .inr ⟨fun _ _ _ hok => ?_, stop, resume_returned ..⟩
          cases hok
      | ok authBytes =>
          cases second with
          | some status =>
              refine .inr ⟨fun _ _ hnone => ?_, .error status, resume_returned ..⟩
              cases hnone
          | none => exact .inl ⟨authBytes, ⟨rfl, rfl⟩, rfl, rfl⟩

/-- How an update gets on: it stores new credentials and has then to store the profile, or it has
not touched the DB when it fails. -/
theorem update_cases (draws : UpdateDraws) (req : UpdateUserRequest) :
    (∃ user authBytes, Rehashes service db failures draws req user authBytes ∧
      (update draws req).outcome service db failures =
        (update draws req).step service (Db.put db "auth" (authKey user.username) authBytes)
          (failures 3) (.storingUser (AdminServiceImpl.applyUpdate draws req user))) ∨
    ((∀ user authBytes, ¬ Rehashes service db failures draws req user authBytes) ∧
      AllOrNothing db ((update draws req).outcome service db failures)) := by
  have houtcome : (update draws req).outcome service db failures =
      (update draws req).resume service ((update draws req).start service db (failures 0))
        [failures 1, failures 2, failures 3] := rfl
  rw [houtcome]
  cases hfirst : failures 0 with
  | some status =>
      obtain ⟨stop, hread⟩ := readUser_some service db status req.id
      simp only [start, hread]
      refine .inr ⟨fun user authBytes h => ?_, allOrNothing_returned _ _ _⟩
      cases hfirst.symm.trans h.reached.1
  | none =>
      simp only [start, readUser_none]
      cases hread : service.existingUser db req.id with
      | error stop =>
          refine .inr ⟨fun user authBytes h => ?_, allOrNothing_returned _ _ _⟩
          cases hread.symm.trans h.read
      | ok user =>
          cases hpassword : req.password with
          | none =>
              simp only [afterReading, hpassword]
              refine .inr ⟨fun user authBytes h => ?_, ?_⟩
              · obtain ⟨password, hsome, -⟩ := h.rehashed
                cases hpassword.symm.trans hsome
              · show AllOrNothing db ((update draws req).resume service
                  ((update draws req).step service db (failures 1) (.storingUser _)) _)
                rcases step_storingUser_failing (update draws req)
                    (AdminServiceImpl.applyUpdate draws req user) db (failures 1) with
                  ⟨status, -, hstep⟩ | ⟨db', -, hstep⟩
                · rw [hstep]
                  exact allOrNothing_returned _ _ _
                · rw [hstep, resume_returned]
                  exact allOrNothing_ok _ _
          | some password =>
              have hrehashes : ∀ {user' authBytes'},
                  Rehashes service db failures draws req user' authBytes' →
                    newCredentials service db draws.credentials user password = .ok authBytes' := by
                intro user' authBytes' h
                obtain ⟨password', hsome, hok⟩ := h.rehashed
                obtain rfl := Option.some.inj (hpassword.symm.trans hsome)
                obtain rfl := Except.ok.inj (hread.symm.trans h.read)
                exact hok
              cases hhash : AdminServiceImpl.hashPassword password draws.credentials.salt with
              | error status =>
                  simp only [afterReading, hpassword, hhash]
                  refine .inr ⟨fun user' authBytes' h => ?_, allOrNothing_returned _ _ _⟩
                  have hok := hrehashes h
                  simp only [newCredentials, hhash] at hok
                  cases hok
              | ok passwordHash =>
                  simp only [afterReading, hpassword, hhash]
                  rcases rehashing_cases (update draws req)
                      (AdminServiceImpl.applyUpdate draws req user) hhash (failures 1)
                      (failures 2) [failures 3] with
                    ⟨authBytes, ⟨h1, h2⟩, hcredentials, hresume⟩ | ⟨hnot, stop, hresume⟩
                  · refine .inl ⟨user, authBytes, ⟨⟨hfirst, h1, h2⟩, hread, password, hpassword,
                      hcredentials⟩, ?_⟩
                    rw [hresume]
                    rfl
                  · rw [hresume]
                    refine .inr ⟨fun user' authBytes' h => ?_, allOrNothing_unchanged _⟩
                    exact hnot authBytes' h.reached.2.1 h.reached.2.2 (hrehashes h)

/-- An update fails between its two writes when it has stored new credentials and then the profile
cannot be stored. -/
theorem update_allOrNothing_iff (draws : UpdateDraws) (req : UpdateUserRequest) :
    AllOrNothing db ((update draws req).outcome service db failures) ↔
      (update draws req).Unsplit service db failures := by
  rcases update_cases draws req with ⟨user, authBytes, hrehashes, houtcome⟩ | ⟨hnot, hall⟩
  · rw [houtcome]
    have hunsplit : (update draws req).Unsplit service db failures ↔
        ((failures 3).isSome ∨
          (service.encryptUser (AdminServiceImpl.applyUpdate draws req user)
            draws.entropy).isOk = false →
        Db.get db "auth" (authKey user.username) = some authBytes) := by
      constructor
      case mp => exact fun h => h user authBytes hrehashes
      case mpr =>
        intro h user' authBytes' hrehashes'
        obtain rfl := Except.ok.inj (hrehashes.read.symm.trans hrehashes'.read)
        obtain ⟨password, hsome, hok⟩ := hrehashes.rehashed
        obtain ⟨password', hsome', hok'⟩ := hrehashes'.rehashed
        obtain rfl := Option.some.inj (hsome.symm.trans hsome')
        obtain rfl := Except.ok.inj (hok.symm.trans hok')
        exact h
    rw [hunsplit]
    rcases step_storingUser_failing (update draws req)
        (AdminServiceImpl.applyUpdate draws req user)
        (Db.put db "auth" (authKey user.username) authBytes) (failures 3) with
      ⟨status, hfails, hstep⟩ | ⟨db'', hfails, hstep⟩
    · rw [hstep, allOrNothing_failed_iff, sameAccounts_put_iff (by simp)]
      exact ⟨fun hstored _ => hstored, fun h => h hfails⟩
    · rw [hstep]
      exact iff_of_true (allOrNothing_ok _ _) fun h => absurd h hfails
  · exact iff_of_true hall fun user authBytes hrehashes =>
      absurd hrehashes (hnot user authBytes)

/-- A deletion makes one write, its last request. -/
theorem delete_allOrNothing (draws : UpdateDraws) (req : DeleteUserRequest) :
    AllOrNothing db ((delete draws req).outcome service db failures) := by
  show AllOrNothing db ((delete draws req).resume service
    ((delete draws req).start service db (failures 0)) [failures 1, failures 2, failures 3])
  simp only [start]
  cases readUser service db (failures 0) req.id with
  | error stop => exact allOrNothing_returned _ _ _
  | ok user =>
      show AllOrNothing db ((delete draws req).resume service
        ((delete draws req).step service db (failures 1) (.storingUser _))
          [failures 2, failures 3])
      rcases step_storingUser_failing (delete draws req)
          { user with isActive := false, updatedAt := draws.updatedAt } db (failures 1) with
        ⟨status, -, hstep⟩ | ⟨db', -, hstep⟩
      · rw [hstep]
        exact allOrNothing_returned _ _ _
      · rw [hstep, resume_returned]
        exact allOrNothing_ok _ _

/-- A call that returns an error leaves both collections as they were exactly when it does not fail
between its two writes, or the first of them changes nothing. -/
theorem all_or_nothing_iff (service : AdminServiceImpl) (db : Sled)
    (failures : Nat → Option Status) (call : AccountCall) :
    AllOrNothing db (call.outcome service db failures) ↔ call.Unsplit service db failures := by
  cases call with
  | create draws req => exact create_allOrNothing_iff draws req
  | update draws req => exact update_allOrNothing_iff draws req
  | delete draws req => exact iff_of_true (delete_allOrNothing draws req) trivial

end AccountCall

end InfoVulcan.Admin

/-! ## Runs on the JSON formats -/

namespace InfoVulcan.Admin

open scoped SerdeJson

open Auth SerdeJson

/-- The second of two requests fails. -/
def secondFails (i : Nat) : Option Status :=
  if i = 1 then some (.internal "put failed") else none

/-- The profile is stored, and the credentials are not. -/
theorem profile_left_without_credentials :
    ¬ AllOrNothing Keyspace.empty
      ((AccountCall.create (drawsFor ⟨1⟩) (accountRequest "alice")).outcome accountServices.admin
        Keyspace.empty secondFails) := by
  rw [AccountCall.create_allOrNothing_iff]
  intro h
  obtain ⟨⟨userBytes, authBytes⟩, hrecords⟩ :=
    prepareAccount_ok (drawsFor ⟨1⟩) (accountRequest "alice")
  have hstored : (Keyspace.empty : Sled).at? ⟨"users", (drawsFor ⟨1⟩).userId.asBytes⟩ =
      some userBytes := h userBytes authBytes hrecords rfl rfl
  rw [Keyspace.at_empty] at hstored
  cases hstored

end InfoVulcan.Admin
