import InfoVulcan.Admin.Profiles
import InfoVulcan.Auth.Ownership
import InfoVulcan.Library.Machine
import InfoVulcan.Lbrp.Json

/-!
# Who changes users and tickets through the proxy

The changes of users and of tickets are each reserved to some roles, and every token names the role
of its user. The proxy does not compare the two, so a change reaches the service behind it whenever
its request is well formed and its token is accepted. The reservation holds in a run exactly when
nobody asks for a change that their role does not allow (`reserved_iff`).
-/

namespace InfoVulcan

/-! ## Permissions -/

/-- What only some roles may do. -/
inductive Permission where
  | modifyTickets
  | manageUsers
  deriving DecidableEq

/-- The role has the permission. -/
def Role.has (role : Role) : Permission → Bool
  | .modifyTickets => role.canModifyTickets
  | .manageUsers => role.canManageUsers

/-- Roles have different names in tokens. -/
theorem Role.debug_inj {r r' : Role} : r.debug = r'.debug ↔ r = r' := by
  refine ⟨fun h => ?_, fun h => h ▸ rfl⟩
  cases r <;> cases r' <;> first | rfl | exact absurd h (by decide)

/-- A user who may only read has no permission. -/
theorem Role.readOnly_has (p : Permission) : Role.readOnly.has p = false := by
  cases p <;> rfl

/-- The token names a role that has the permission. -/
def Claims.Allows (claims : Claims) (p : Permission) : Prop :=
  ∃ role : Role, claims.role = role.debug ∧ role.has p

theorem Claims.not_allows_readOnly {claims : Claims} (h : claims.role = Role.readOnly.debug)
    (p : Permission) : ¬ claims.Allows p := by
  rintro ⟨role, hrole, hhas⟩
  obtain rfl := Role.debug_inj.mp (hrole.symm.trans h)
  rw [Role.readOnly_has] at hhas
  cases hhas

namespace Lbrp

/-- The permission a call is reserved to. -/
def UpstreamCall.permission : UpstreamCall → Option Permission
  | updateUser _ | deleteUser _ => some .manageUsers
  | createTicket _ | updateTicket _ => some .modifyTickets
  | _ => none

/-! ## What is asked for -/

section Asking

variable [Extractors]

/-- The request is a well-formed one for a change that is reserved to the permission. -/
inductive Asks (req : HttpRequest) : Permission → Prop where
  | createTicket (hpath : req.path = ["api", "tickets"]) (hmethod : req.method = .post)
      (hbody : ∃ payload, Extractors.createTicketRequest req.rest = .ok payload) :
      Asks req .modifyTickets
  | updateTicket {segment : String} (hpath : req.path = ["api", "tickets", segment])
      (hsegment : segment ≠ "") (hmethod : req.method = .put)
      (hid : ∃ id, Extractors.pathU64 segment = .ok id)
      (hbody : ∃ payload, Extractors.updateTicketRequest req.rest = .ok payload) :
      Asks req .modifyTickets
  | updateUser {segment : String} (hpath : req.path = ["api", "admin", "users", segment])
      (hsegment : segment ≠ "") (hmethod : req.method = .put)
      (hid : ∃ id, Extractors.pathString segment = .ok id)
      (hbody : ∃ payload, Extractors.updateUserRequest req.rest = .ok payload) :
      Asks req .manageUsers
  | deleteUser {segment : String} (hpath : req.path = ["api", "admin", "users", segment])
      (hsegment : segment ≠ "") (hmethod : req.method = .delete)
      (hid : ∃ id, Extractors.pathString segment = .ok id) :
      Asks req .manageUsers

/-- A call is made with what has been taken from the request. -/
theorem extract_eq_ok {α : Type} {value : Except Extractors.Rejection α} {f : α → UpstreamCall}
    {call : UpstreamCall} (h : extract value f = .ok call) : ∃ a, value = .ok a ∧ call = f a := by
  cases value with
  | error r => cases h
  | ok a => exact ⟨a, rfl, (Except.ok.inj h).symm⟩

theorem extractPath_eq_ok {ι α : Type} {segment : Except Extractors.Rejection ι}
    {value : Except Extractors.Rejection α} {f : ι → α → UpstreamCall} {call : UpstreamCall}
    (h : extractPath segment value f = .ok call) :
    ∃ id a, segment = .ok id ∧ value = .ok a ∧ call = f id a := by
  cases segment with
  | error r => cases h
  | ok id =>
      obtain ⟨a, hvalue, hcall⟩ := extract_eq_ok h
      exact ⟨id, a, rfl, hvalue, hcall⟩

/-- The segments of the path of a resource, without that of the API. -/
def Resource.segments : Resource → List String
  | tickets => ["tickets"]
  | ticket segment => ["tickets", segment]
  | users => ["admin", "users"]
  | user segment => ["admin", "users", segment]

/-- The segment that names something is not empty. -/
def Resource.Named : Resource → Prop
  | ticket segment | user segment => segment ≠ ""
  | _ => True

omit [Extractors] in
theorem resource_eq_some_iff {segments : List String} {found : Resource} :
    resource segments = some found ↔ segments = found.segments ∧ found.Named := by
  constructor
  case mp =>
    intro h
    unfold resource at h
    split at h
    next =>
      cases h
      exact ⟨rfl, trivial⟩
    next segment =>
      split at h
      · cases h
      · next hsegment =>
          cases h
          exact ⟨rfl, hsegment⟩
    next =>
      cases h
      exact ⟨rfl, trivial⟩
    next segment =>
      split at h
      · cases h
      · next hsegment =>
          cases h
          exact ⟨rfl, hsegment⟩
    next => cases h
  case mpr =>
    rintro ⟨rfl, hnamed⟩
    cases found with
    | tickets => rfl
    | ticket segment => exact if_neg hnamed
    | users => rfl
    | user segment => exact if_neg hnamed

variable {claims : Claims} {req : HttpRequest} {call : UpstreamCall} {p : Permission}

/-- The routes that lead to a reserved change ask for it. -/
theorem asks_of_apiRoutes {found : Resource} {method : Method}
    (hpath : req.path = "api" :: found.segments) (hnamed : found.Named)
    (hmethod : req.method = method) (hcall : apiRoutes claims req found method = .ok call)
    (hp : call.permission = some p) : Asks req p := by
  unfold apiRoutes at hcall
  split at hcall
  -- The cases are the routes. Those that read are not reserved, nor is the method that is not
  -- allowed.
  case h_1 =>
    obtain ⟨payload, hbody, rfl⟩ := extract_eq_ok hcall
    cases hp
    exact .createTicket hpath hmethod ⟨payload, hbody⟩
  case h_6 segment =>
    obtain ⟨id, payload, hid, hbody, rfl⟩ := extractPath_eq_ok hcall
    cases hp
    exact .updateTicket hpath hnamed hmethod ⟨id, hid⟩ ⟨payload, hbody⟩
  case h_11 segment =>
    obtain ⟨id, payload, hid, hbody, rfl⟩ := extractPath_eq_ok hcall
    cases hp
    exact .updateUser hpath hnamed hmethod ⟨id, hid⟩ ⟨payload, hbody⟩
  case h_12 segment =>
    obtain ⟨id, hid, rfl⟩ := extract_eq_ok hcall
    cases hp
    exact .deleteUser hpath hnamed hmethod ⟨id, hid⟩
  case h_13 => cases hcall
  all_goals
    obtain ⟨a, -, rfl⟩ := extract_eq_ok hcall
    cases hp

variable [Chrono] [Jwt] {jwtSecret : Bytes} {now : Chrono.DateTime}

/-- A request leads to a reserved call only if its token is accepted and it asks for the change. -/
theorem asks_of_reach (hcall : reach jwtSecret now req = .ok call)
    (hp : call.permission = some p) :
    (∃ claims, authMiddleware jwtSecret now req = some claims) ∧ Asks req p := by
  unfold reach at hcall
  split at hcall
  case h_1 =>
    split at hcall <;> cases hcall <;> cases hp
  case h_2 =>
    split at hcall
    · obtain ⟨payload, -, rfl⟩ := extract_eq_ok hcall
      cases hp
    · cases hcall
  case h_3 segments hpath =>
    split at hcall
    · cases hcall
    next found hfound =>
    obtain ⟨rfl, hnamed⟩ := resource_eq_some_iff.mp hfound
    split at hcall
    · obtain ⟨payload, -, rfl⟩ := extract_eq_ok hcall
      cases hp
    split at hcall
    · cases hcall
    next claims hclaims =>
    exact ⟨⟨claims, hclaims⟩, asks_of_apiRoutes hpath hnamed rfl hcall hp⟩
  case h_4 => cases hcall

/-- A request that asks for a reserved change leads to it if its token is accepted, whatever role
that names. -/
theorem exists_reach_of_asks (hclaims : authMiddleware jwtSecret now req = some claims)
    (hasks : Asks req p) :
    ∃ call, reach jwtSecret now req = .ok call ∧ call.permission = some p := by
  cases hasks with
  | createTicket hpath hmethod hbody =>
      obtain ⟨payload, hpayload⟩ := hbody
      refine ⟨.createTicket (createTicketRequest claims.sub payload), ?_, rfl⟩
      simp [reach, hpath, resource, hclaims, hmethod, apiRoutes, extract, hpayload]
  | updateTicket hpath hsegment hmethod hid hbody =>
      obtain ⟨id, hid⟩ := hid
      obtain ⟨payload, hpayload⟩ := hbody
      refine ⟨.updateTicket (updateTicketRequest id claims.sub payload), ?_, rfl⟩
      simp [reach, hpath, resource, hsegment, hclaims, hmethod, apiRoutes, extractPath, extract,
        hid, hpayload]
  | updateUser hpath hsegment hmethod hid hbody =>
      obtain ⟨id, hid⟩ := hid
      obtain ⟨payload, hpayload⟩ := hbody
      refine ⟨.updateUser (updateUserRequest id payload), ?_, rfl⟩
      simp [reach, hpath, resource, hsegment, hclaims, hmethod, apiRoutes, extractPath, extract,
        hid, hpayload]
  | deleteUser hpath hsegment hmethod hid =>
      obtain ⟨id, hid⟩ := hid
      refine ⟨.deleteUser ⟨id⟩, ?_, rfl⟩
      simp [reach, hpath, resource, hsegment, hclaims, hmethod, apiRoutes, extract, hid]

end Asking

/-! ## What changes -/

section Changes

/-- The rows of the tickets are the same. -/
def TicketsKept [Db.RowFormat] (db db' : Sled) : Prop :=
  ∀ id, db'.at? (Db.tickets.rowCell id) = db.at? (Db.tickets.rowCell id)

/-- The records of accounts are not rows of tickets. -/
theorem ticketsKept_put [Db.RowFormat] {db : Sled} {collection : String} {key value : Bytes}
    (hcollection : collection ≠ Db.TREE_TICKETS) :
    TicketsKept db (Db.put db collection key value) := by
  intro id
  rw [Db.put, Keyspace.at_put, if_neg]
  intro hcell
  exact hcollection (congrArg Cell.space hcell)

variable [Chrono] [Primitives] [AccountFormat]

/-- Every user keeps their role. -/
def RolesKept (service : Admin.AdminServiceImpl) (db db' : Sled) : Prop :=
  ∀ id user, service.profile db id = some user →
    ∃ user', service.profile db' id = some user' ∧ user'.role = user.role

variable {service : Admin.AdminServiceImpl} {db db' : Sled}

theorem RolesKept.refl (db : Sled) : RolesKept service db db :=
  fun _ user h => ⟨user, h, rfl⟩

theorem RolesKept.trans {db'' : Sled} (h : RolesKept service db db')
    (h' : RolesKept service db' db'') : RolesKept service db db'' := by
  intro id user huser
  obtain ⟨user', huser', hrole⟩ := h id user huser
  obtain ⟨user'', huser'', hrole'⟩ := h' id user' huser'
  exact ⟨user'', huser'', hrole'.trans hrole⟩

/-- Where the stored profiles are the same, the roles are. -/
theorem RolesKept.of_cells (h : ∀ id : Uuid, (service.profile db id).isSome →
    Db.get db' "users" id.asBytes = Db.get db "users" id.asBytes) : RolesKept service db db' := by
  intro id user huser
  refine ⟨user, ?_, rfl⟩
  rw [← huser]
  exact congrArg (Option.bind · _) (h id (by rw [huser]; rfl))

/-- A profile that is stored where there was none changes no role. -/
theorem rolesKept_put {key value : Bytes} (hfresh : Db.get db "users" key = none) :
    RolesKept service db (Db.put db "users" key value) := by
  refine .of_cells fun id hsome => ?_
  have hne : key ≠ id.asBytes := by
    rintro rfl
    rw [Admin.AdminServiceImpl.profile, hfresh] at hsome
    cases hsome
  exact (Keyspace.at_put db _ _ value).trans (if_neg (by simpa using hne))

/-- Credentials say nothing of roles. -/
theorem rolesKept_putAuth {key value : Bytes} :
    RolesKept service db (Db.put db "auth" key value) :=
  .of_cells fun _ _ => (Keyspace.at_put db _ _ value).trans (if_neg (by simp))

variable [PasswordHasher] [Db.RowFormat]

/-- The creation of an account under a fresh id changes no role and no ticket. -/
theorem createUser_harmless {draws : Admin.CreateDraws} (req : Admin.CreateUserRequest)
    (hfresh : Db.get db "users" draws.userId.asBytes = none) :
    RolesKept service db (service.createUser db draws req).2 ∧
      TicketsKept db (service.createUser db draws req).2 := by
  unfold Admin.AdminServiceImpl.createUser
  cases service.prepareAccount draws req with
  | error status => exact ⟨.refl db, fun _ => rfl⟩
  | ok records =>
      refine ⟨(rolesKept_put hfresh).trans rolesKept_putAuth, fun id => ?_⟩
      exact (ticketsKept_put (by decide) id).trans (ticketsKept_put (by decide) id)

end Changes

/-! ## Runs -/

variable [Chrono] [Extractors] [Primitives] [PasswordHasher]

/-- The services behind the proxy, and the secret that its tokens are signed with. -/
structure AppState where
  jwtSecret : Bytes
  admin : Admin.AdminServiceImpl
  custodian : Custodian.CustodianServiceImpl

/-- What serving one request finds outside the DB: the clock of the proxy, what the admin service
draws, and the lock table, the clock and the entropy of the custodian. -/
structure Draws where
  now : Chrono.DateTime
  creation : Admin.CreateDraws
  change : Admin.UpdateDraws
  locks : Sled
  lockedAt : Chrono.DateTime
  ticketTime : Chrono.DateTime
  nowMillis : Int64
  entropy : Primitives.Entropy

/-- A request, and what serving it draws. -/
structure Arrival where
  req : HttpRequest
  draws : Draws

variable [Jwt] [AccountFormat] [UuidParser] [Custodian.LockFormat] [Custodian.TicketFormat]
  [Db.RowFormat] [FailureText]

/-- The DB after a call. -/
def UpstreamCall.perform (state : AppState) (draws : Draws) (db : Sled) : UpstreamCall → Sled
  | createUser req => (state.admin.createUser db draws.creation req).2
  | updateUser req => (state.admin.updateUser db draws.change req).2
  | deleteUser req => (state.admin.deleteUser db draws.change req).2
  | createTicket req =>
      (state.custodian.createTicket db draws.ticketTime draws.nowMillis draws.entropy req).2
  | updateTicket req =>
      (state.custodian.updateTicket draws.locks db draws.lockedAt draws.ticketTime draws.entropy
        req).2
  | _ => db

namespace AppState

variable (state : AppState)

/-- The claims of the token of a request. -/
def claims (a : Arrival) : Option Claims :=
  authMiddleware state.jwtSecret a.draws.now a.req

/-- The call a request leads to, if it is not turned down. -/
def call (a : Arrival) : Option UpstreamCall :=
  (reach state.jwtSecret a.draws.now a.req).toOption

/-- The DB after a request. -/
def serve (db : Sled) (a : Arrival) : Sled :=
  match state.call a with
  | none => db
  | some call => call.perform state a.draws db

/-- The DB after some requests. -/
def serveAll (db : Sled) (arrivals : List Arrival) : Sled :=
  arrivals.foldl state.serve db

/-- Calls that are reserved are made for users with the permission only. -/
def CallsReserved (arrivals : List Arrival) : Prop :=
  ∀ a ∈ arrivals, ∀ call p, state.call a = some call → call.permission = some p →
    ∃ claims, state.claims a = some claims ∧ claims.Allows p

/-- Requests of users who may only read change no role and no ticket. -/
def ReadOnlyHarmless (db : Sled) (arrivals : List Arrival) : Prop :=
  (∀ a ∈ arrivals, ∃ claims, state.claims a = some claims ∧ claims.role = Role.readOnly.debug) →
    RolesKept state.admin db (state.serveAll db arrivals) ∧
      TicketsKept db (state.serveAll db arrivals)

/-- Whoever asks for a reserved change with a token that is accepted has the permission. -/
def AsksAllowed (arrivals : List Arrival) : Prop :=
  ∀ a ∈ arrivals, ∀ claims p, state.claims a = some claims → Asks a.req p → claims.Allows p

/-- A new account gets an id that no profile is stored under. -/
def FreshId (db : Sled) (a : Arrival) : Prop :=
  ∀ req, state.call a = some (.createUser req) →
    Db.get db "users" a.draws.creation.userId.asBytes = none

variable {state} {db : Sled} {arrivals : List Arrival} {a : Arrival}

omit [AccountFormat] [UuidParser] [Custodian.LockFormat] [Custodian.TicketFormat] [Db.RowFormat]
  [FailureText] in
theorem call_eq_some {call : UpstreamCall} :
    state.call a = some call ↔ reach state.jwtSecret a.draws.now a.req = .ok call := by
  rw [AppState.call]
  cases reach state.jwtSecret a.draws.now a.req <;> simp [Except.toOption]

omit [AccountFormat] [UuidParser] [Custodian.LockFormat] [Custodian.TicketFormat] [Db.RowFormat]
  [FailureText] in
/-- The reserved calls of a run are those its requests ask for. -/
theorem callsReserved_iff : state.CallsReserved arrivals ↔ state.AsksAllowed arrivals := by
  constructor
  case mp =>
    intro h a ha claims p hclaims hasks
    obtain ⟨call, hreach, hp⟩ := exists_reach_of_asks hclaims hasks
    obtain ⟨claims', hclaims', hallows⟩ := h a ha call p (call_eq_some.mpr hreach) hp
    obtain rfl := Option.some.inj (hclaims.symm.trans hclaims')
    exact hallows
  case mpr =>
    intro h a ha call p hcall hp
    obtain ⟨⟨claims, hclaims⟩, hasks⟩ := asks_of_reach (call_eq_some.mp hcall) hp
    exact ⟨claims, hclaims, h a ha claims p hclaims hasks⟩

/-- A request that leads to no reserved call changes no role and no ticket. -/
theorem serve_harmless (hfresh : state.FreshId db a)
    (hcall : ∀ call, state.call a = some call → call.permission = none) :
    RolesKept state.admin db (state.serve db a) ∧ TicketsKept db (state.serve db a) := by
  unfold serve
  cases hreached : state.call a with
  | none => exact ⟨.refl db, fun _ => rfl⟩
  | some call =>
      have hpermission := hcall call hreached
      cases call with
      | createUser req => exact createUser_harmless req (hfresh req hreached)
      | updateUser | deleteUser | createTicket | updateTicket => cases hpermission
      | health | authenticate | listUsers | getUser | getTicket | queryTickets =>
          exact ⟨.refl db, fun _ => rfl⟩

/-- If reserved calls are made for users with the permission only, users who may only read change
nothing. -/
theorem CallsReserved.readOnlyHarmless (h : state.CallsReserved arrivals)
    (hfresh : Throughout state.serve state.FreshId db arrivals) :
    state.ReadOnlyHarmless db arrivals := by
  intro hreadOnly
  have hcalls : ∀ a ∈ arrivals, ∀ call, state.call a = some call → call.permission = none := by
    intro a ha call hcall
    cases hp : call.permission with
    | none => rfl
    | some p =>
        obtain ⟨claims, hclaims, hallows⟩ := h a ha call p hcall hp
        obtain ⟨claims', hclaims', hrole⟩ := hreadOnly a ha
        obtain rfl := Option.some.inj (hclaims.symm.trans hclaims')
        exact absurd hallows (Claims.not_allows_readOnly hrole p)
  refine hfresh.invariant (I := fun db' => RolesKept state.admin db db' ∧ TicketsKept db db')
    ⟨.refl db, fun _ => rfl⟩ fun db' a ha hkept hfresh' => ?_
  obtain ⟨hroles, htickets⟩ := serve_harmless hfresh' (hcalls a ha)
  exact ⟨hkept.1.trans hroles, fun id => (htickets id).trans (hkept.2 id)⟩

/-- Changes of users and tickets are reserved to the roles with the permission in a run exactly when
nobody asks for one with a token whose role has not got it. -/
theorem reserved_iff (state : AppState) {db : Sled} {arrivals : List Arrival}
    (hfresh : Throughout state.serve state.FreshId db arrivals) :
    state.CallsReserved arrivals ∧ state.ReadOnlyHarmless db arrivals ↔
      state.AsksAllowed arrivals := by
  constructor
  case mp => exact fun h => callsReserved_iff.mp h.1
  case mpr =>
    intro h
    have hcalls := callsReserved_iff.mpr h
    exact ⟨hcalls, hcalls.readOnlyHarmless hfresh⟩

end AppState

end Lbrp

end InfoVulcan

/-! ## Runs on the JSON formats -/

namespace InfoVulcan.Lbrp

open scoped SerdeJson

open SerdeJson

/-- The proxy of the stand-ins. -/
def sampleState : AppState where
  jwtSecret := [1]
  admin := accountServices.admin
  custodian := ⟨keypair, true⟩

/-- The claims of a user with a role. -/
def claimsOf (role : Role) : Claims where
  sub := toString (⟨1⟩ : Uuid)
  exp := 3600
  role := role.debug

/-- A request of a user with a role to be an admin from now on. -/
def promotion (role : Role) : Arrival where
  req :=
    { method := .put
      path := ["api", "admin", "users", "1"]
      authorization := some ("Bearer " ++ sessionToken (claimsOf role) [1])
      rest := SerdeJson.updateUserRequest.codec.encode ⟨none, none, some 0, none, none⟩ }
  draws :=
    { now := CivilTime.unixEpoch
      creation := drawsFor ⟨2⟩
      change := changeDraws
      locks := Keyspace.empty
      lockedAt := CivilTime.unixEpoch
      ticketTime := CivilTime.unixEpoch
      nowMillis := 0
      entropy := [] }

/-- A fresh token is accepted. -/
theorem claims_of_bearer {a : Arrival} {role : Role}
    (htoken : a.req.authorization = some ("Bearer " ++ sessionToken (claimsOf role) [1]))
    (hnow : a.draws.now = CivilTime.unixEpoch) : sampleState.claims a = some (claimsOf role) := by
  have hexpiry : CivilTime.unixEpoch.timestamp.toInt ≤ (3600 : Nat) + 60 := by decide
  have hdecode : Jwt.decode (sessionToken (claimsOf role) [1]) [1] CivilTime.unixEpoch =
      some (claimsOf role) := decode_sessionToken hexpiry
  have hdecoded : authMiddleware [1] a.draws.now a.req =
      Jwt.decode (sessionToken (claimsOf role) [1]) [1] a.draws.now := authMiddleware_bearer htoken
  rw [hnow, hdecode, ← hnow] at hdecoded
  exact hdecoded

theorem claims_promotion (role : Role) :
    sampleState.claims (promotion role) = some (claimsOf role) :=
  claims_of_bearer rfl rfl

theorem asks_promotion (role : Role) : Asks (promotion role).req .manageUsers :=
  .updateUser rfl (by decide) rfl ⟨"1", rfl⟩ ⟨_, readBody_encode _ _⟩

/-- A request for a new account, with the token of a user with a role. -/
def registration (role : Role) : Arrival where
  req :=
    { method := .post
      path := ["api", "admin", "users"]
      authorization := (promotion role).req.authorization
      rest := SerdeJson.createUserRequest.codec.encode ⟨"bob", "secret", "bob@example", "Bob", 1⟩ }
  draws := (promotion role).draws

theorem claims_registration (role : Role) :
    sampleState.claims (registration role) = some (claimsOf role) :=
  claims_of_bearer rfl rfl

/-- A new account is asked for, which is reserved to nobody. -/
theorem not_asks_registration (role : Role) (p : Permission) :
    ¬ Asks (registration role).req p := by
  intro h
  cases h with
  | createTicket hpath | updateTicket hpath | updateUser hpath | deleteUser hpath =>
      simp [registration] at hpath

theorem call_registration (role : Role) :
    ∃ req, sampleState.call (registration role) = some (.createUser req) := by
  have hbody : Extractors.createUserRequest (registration role).req.rest = .ok _ :=
    readBody_encode _ _
  simp [AppState.call, reach, registration, resource, extract, Except.toOption] at hbody ⊢
  rw [hbody]
  exact ⟨_, rfl⟩

/-- The store with a single account. -/
def aliceDb : Sled :=
  Auth.performAll accountServices [Auth.createCall ⟨1⟩ "alice"]

/-- The new account gets an id of its own. -/
theorem fresh_registration (role : Role) : sampleState.FreshId aliceDb (registration role) :=
  fun _ _ => Auth.stores_first.profiles ⟨2⟩

/-- A promotion creates no account. -/
theorem fresh_promotion (db : Sled) (role : Role) :
    sampleState.FreshId db (promotion role) := by
  intro req hcreate
  obtain ⟨call, hreach, hp⟩ := exists_reach_of_asks (claims_promotion role) (asks_promotion role)
  have hcall : sampleState.call (promotion role) = some call := AppState.call_eq_some.mpr hreach
  obtain rfl := Option.some.inj (hcreate.symm.trans hcall)
  cases hp

/-- An admin may create an account and promote users. A user who may only read and creates an
account leaves the roles and the tickets as they are. -/
theorem reserved_iff_admin :
    (∃ req, sampleState.call (registration .readOnly) = some (.createUser req)) ∧
      (sampleState.CallsReserved [registration .admin, promotion .admin] ∧
        sampleState.ReadOnlyHarmless aliceDb [registration .admin, promotion .admin]) ∧
      RolesKept sampleState.admin aliceDb (sampleState.serveAll aliceDb [registration .readOnly]) ∧
      TicketsKept aliceDb (sampleState.serveAll aliceDb [registration .readOnly]) := by
  have hadmin := AppState.reserved_iff sampleState (throughout_cons.mpr
    ⟨fresh_registration .admin, throughout_cons.mpr ⟨fresh_promotion _ .admin, throughout_nil⟩⟩)
  have hreadOnly := AppState.reserved_iff sampleState
    (throughout_cons.mpr ⟨fresh_registration .readOnly, throughout_nil⟩)
  refine ⟨call_registration .readOnly, hadmin.mpr ?_, (hreadOnly.mpr ?_).2 ?_⟩
  · intro a ha claims p hclaims hasks
    rcases List.mem_pair.mp ha with rfl | rfl
    · exact absurd hasks (not_asks_registration .admin p)
    · obtain rfl := Option.some.inj ((claims_promotion .admin).symm.trans hclaims)
      exact ⟨.admin, rfl, by cases p <;> rfl⟩
  · intro a ha claims p hclaims hasks
    obtain rfl := List.mem_singleton.mp ha
    exact absurd hasks (not_asks_registration .readOnly p)
  · intro a ha
    obtain rfl := List.mem_singleton.mp ha
    exact ⟨_, claims_registration .readOnly, rfl⟩

/-- A user who may only read reaches the admin service with a promotion. -/
theorem promotion_by_readOnly :
    ¬ (sampleState.CallsReserved [promotion .readOnly] ∧
      sampleState.ReadOnlyHarmless Keyspace.empty [promotion .readOnly]) := by
  intro h
  have hallowed := AppState.callsReserved_iff.mp h.1
  have hallows := hallowed _ List.mem_cons_self _ _ (claims_promotion .readOnly)
    (asks_promotion .readOnly)
  exact Claims.not_allows_readOnly rfl _ hallows

end InfoVulcan.Lbrp
