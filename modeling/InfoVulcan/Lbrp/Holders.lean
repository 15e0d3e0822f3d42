import InfoVulcan.Custodian.LockCalls
import InfoVulcan.Custodian.Lifecycle
import InfoVulcan.Db.RecordBook
import InfoVulcan.Lbrp.Access

/-!
# Who changes tickets that exist

The proxy checks no role, but the custodian checks a lock. `serve_effect` sums up what a request can
do to the tickets: nothing, add one under a new id, or change one whose lock the subject of the
token holds. Over whole runs, with lock commands in between, a ticket that exists changes only by
an update whose user has acquired its lock before and still holds it
(`tickets_change_by_lock_holder`).
-/

namespace InfoVulcan.Lbrp

open Custodian (LockCommand applyLocks InWindow Unexpired CustodianServiceImpl)
open Db (TicketTable Represents LogEntry)

/-! ## Updates that reach the custodian -/

section Reaching

variable [Extractors] {claims : Claims} {req : HttpRequest} {r : Custodian.UpdateTicketRequest}

/-- An update that a route makes is one of the ticket in the path, on behalf of the subject. -/
theorem updateTicket_of_apiRoutes {found : Resource} {method : Method}
    (h : apiRoutes claims req found method = .ok (.updateTicket r)) :
    ∃ id payload, r = updateTicketRequest id claims.sub payload := by
  unfold apiRoutes at h
  split at h
  case h_6 segment =>
    obtain ⟨id, payload, -, -, hcall⟩ := extractPath_eq_ok h
    cases hcall
    exact ⟨id, payload, rfl⟩
  case h_11 segment =>
    obtain ⟨id, payload, -, -, hcall⟩ := extractPath_eq_ok h
    cases hcall
  case h_13 => cases h
  all_goals
    obtain ⟨a, -, hcall⟩ := extract_eq_ok h
    cases hcall

/-- An update that reaches the custodian has a token that is accepted, and is made on behalf of its
subject. -/
theorem updateTicket_of_reach [Chrono] [Jwt] {jwtSecret : Bytes} {now : Chrono.DateTime}
    (h : reach jwtSecret now req = .ok (.updateTicket r)) :
    ∃ claims id payload, authMiddleware jwtSecret now req = some claims ∧
      r = updateTicketRequest id claims.sub payload := by
  unfold reach at h
  split at h
  case h_1 => split at h <;> cases h
  case h_2 =>
    split at h
    · obtain ⟨payload, -, hcall⟩ := extract_eq_ok h
      cases hcall
    · cases h
  case h_3 segments hpath =>
    split at h
    · cases h
    split at h
    · obtain ⟨payload, -, hcall⟩ := extract_eq_ok h
      cases hcall
    split at h
    · cases h
    next claims hclaims =>
    obtain ⟨id, payload, hr⟩ := updateTicket_of_apiRoutes h
    exact ⟨claims, id, payload, hclaims, hr⟩
  case h_4 => cases h

end Reaching

/-! ## Accounts are kept elsewhere -/

section Accounts

variable {db : Sled} {c : SledCell}

/-- The cell is in none of the collections of accounts. -/
def OutsideAccounts (c : SledCell) : Prop :=
  c.space ≠ "users" ∧ c.space ≠ "auth"

theorem at_put_users (hc : OutsideAccounts c) (key value : Bytes) :
    (Db.put db "users" key value).at? c = db.at? c := by
  rw [Db.put, Keyspace.at_put, if_neg]
  exact fun heq => hc.1 (congrArg Cell.space heq).symm

theorem at_put_auth (hc : OutsideAccounts c) (key value : Bytes) :
    (Db.put db "auth" key value).at? c = db.at? c := by
  rw [Db.put, Keyspace.at_put, if_neg]
  exact fun heq => hc.2 (congrArg Cell.space heq).symm

variable [Chrono] [Primitives] [PasswordHasher] [AccountFormat] {service : Admin.AdminServiceImpl}

omit [PasswordHasher] in
theorem at_storeUser (service : Admin.AdminServiceImpl) (db : Sled) (hc : OutsideAccounts c)
    (user : User) (entropy : Primitives.Entropy) :
    (service.storeUser db user entropy).2.at? c = db.at? c := by
  rw [Admin.AdminServiceImpl.storeUser]
  split
  · rfl
  · exact at_put_users hc _ _

theorem at_updatePassword (service : Admin.AdminServiceImpl) (db : Sled) (hc : OutsideAccounts c)
    (draws : Admin.PasswordDraws) (username : String) (userId : Uuid) (password : String) :
    (service.updatePassword db draws username userId password).2.at? c = db.at? c := by
  rw [Admin.AdminServiceImpl.updatePassword]
  split
  · rfl
  split
  · rfl
  split
  · rfl
  · exact at_put_auth hc _ _

theorem at_createUser (hc : OutsideAccounts c) (draws : Admin.CreateDraws)
    (req : Admin.CreateUserRequest) :
    (service.createUser db draws req).2.at? c = db.at? c := by
  rw [Admin.AdminServiceImpl.createUser]
  split
  · rfl
  · exact (at_put_auth hc _ _).trans (at_put_users hc _ _)

variable [UuidParser]

theorem at_updateUser (hc : OutsideAccounts c) (draws : Admin.UpdateDraws)
    (req : Admin.UpdateUserRequest) :
    (service.updateUser db draws req).2.at? c = db.at? c := by
  rw [Admin.AdminServiceImpl.updateUser]
  split
  · rfl
  next user _ =>
  have hstore := fun db => at_storeUser service db hc
    (Admin.AdminServiceImpl.applyUpdate draws req user) draws.entropy
  dsimp only
  cases req.password with
  | none =>
      dsimp only
      refine Eq.trans ?_ (hstore db)
      split
      · next hstored => exact (congrArg (·.2.at? c) hstored).symm
      · next hstored => exact (congrArg (·.2.at? c) hstored).symm
  | some password =>
      dsimp only
      have hpassword := at_updatePassword service db hc draws.credentials
        (Admin.AdminServiceImpl.applyUpdate draws req user).username
        (Admin.AdminServiceImpl.applyUpdate draws req user).userId password
      split
      · exact hpassword
      · refine Eq.trans ?_ ((hstore _).trans hpassword)
        split
        · next hstored => exact (congrArg (·.2.at? c) hstored).symm
        · next hstored => exact (congrArg (·.2.at? c) hstored).symm

theorem at_deleteUser (hc : OutsideAccounts c) (draws : Admin.UpdateDraws)
    (req : Admin.DeleteUserRequest) :
    (service.deleteUser db draws req).2.at? c = db.at? c := by
  rw [Admin.AdminServiceImpl.deleteUser]
  split
  · rfl
  next user _ =>
  refine Eq.trans ?_ (at_storeUser service db hc
    { user with isActive := false, updatedAt := draws.updatedAt } draws.entropy)
  dsimp only
  rcases service.storeUser db { user with isActive := false, updatedAt := draws.updatedAt }
    draws.entropy with ⟨status | ⟨⟩, db'⟩ <;> rfl

end Accounts

/-! ## Effects -/

variable [Chrono] [Extractors] [Primitives] [PasswordHasher] [Jwt] [AccountFormat] [UuidParser]
  [Custodian.LockFormat] [Custodian.TicketFormat] [Db.RowFormat] [FailureText]

/-- A request asks for a new ticket. -/
def AppState.creates (state : AppState) (a : Arrival) : Bool :=
  match state.call a with
  | some (.createTicket _) => true
  | _ => false

/-- The request is an update of the ticket whose user holds the lock of the ticket: an acquisition
of theirs is in its window and has not expired. -/
def AppState.ByHolder (state : AppState) (log : List LockCommand) (a : Arrival) (id : UInt64) :
    Prop :=
  ∃ claims payload u atUnix ttlSecs, state.claims a = some claims ∧
    state.call a = some (.updateTicket (updateTicketRequest id claims.sub payload)) ∧
    UuidParser.parseStr claims.sub = some u ∧ InWindow log id u atUnix ttlSecs ∧
    Unexpired atUnix ttlSecs (Chrono.timestamp a.draws.lockedAt)

/-- What a request may do to the tickets: nothing, add one, or change one whose lock its user
holds. -/
inductive TicketEffect (state : AppState) (log : List LockCommand) (a : Arrival) (db db' : Sled) :
    Prop where
  | outside (hcells : ∀ c : SledCell, c.space ∈ Db.TREE_SEQ :: Db.ticketTrees →
      db'.at? c = db.at? c)
  | adds {body : Bytes} {index : Db.TicketIndexFields} (hcreates : state.creates a = true)
      (hdb : db' = ((LogEntry.createTicket body index).apply db).2)
  | changes {id : UInt64} {body : Bytes} {index : Db.TicketIndexFields}
      (hholder : state.ByHolder log a id)
      (hdb : db' = ((LogEntry.updateTicket id body index).apply db).2)

variable {state : AppState} {log : List LockCommand} {a : Arrival} {T : TicketTable}
  {db db' : Sled}

/-- What serving a request does to the tickets, with the locks of a history of lock commands. -/
theorem serve_effect (hlog : ∀ c ∈ log, c.InRange)
    (hlocks : a.draws.locks = applyLocks Keyspace.empty log) (db : Sled) :
    TicketEffect state log a db (state.serve db a) := by
  have houtside : ∀ {db' : Sled}, (∀ c, OutsideAccounts c → db'.at? c = db.at? c) →
      TicketEffect state log a db db' := by
    intro db' hcells
    refine .outside fun c hc => hcells c ⟨?_, ?_⟩
    · exact fun hspace => absurd (hspace ▸ hc) (by decide)
    · exact fun hspace => absurd (hspace ▸ hc) (by decide)
  rw [AppState.serve]
  cases hcall : state.call a with
  | none => exact .outside fun c hc => rfl
  | some call =>
      cases call with
      | createUser req => exact houtside fun c hc => at_createUser hc _ _
      | updateUser req => exact houtside fun c hc => at_updateUser hc _ _
      | deleteUser req => exact houtside fun c hc => at_deleteUser hc _ _
      | createTicket req =>
          rcases Custodian.createTicket_applies state.custodian db a.draws.ticketTime
            a.draws.nowMillis a.draws.entropy req with hsame | ⟨body, index, hdb⟩
          · exact .outside fun c hc => congrArg (Keyspace.at? · c) hsame
          · exact .adds (by rw [AppState.creates, hcall]) hdb
      | updateTicket req =>
          obtain ⟨claims, id, payload, hclaims, rfl⟩ :=
            updateTicket_of_reach (AppState.call_eq_some.mp hcall)
          show TicketEffect state log a db (state.custodian.updateTicket a.draws.locks db
            a.draws.lockedAt a.draws.ticketTime a.draws.entropy _).2
          cases hcheck : CustodianServiceImpl.checkLock a.draws.locks a.draws.lockedAt
              (updateTicketRequest id claims.sub payload) with
          | error status =>
              refine .outside fun c hc => ?_
              simp only [CustodianServiceImpl.updateTicket, hcheck]
          | ok u =>
              rw [hlocks] at hcheck
              -- What the lock check lets through is the holder of the lock that the history tells.
              obtain ⟨⟨text, htext, hparse⟩, atUnix, ttlSecs, hwindow, hunexpired⟩ :=
                (Custodian.checkLock_eq_ok hlog).mp hcheck
              cases htext
              rcases Custodian.updateTicket_applies state.custodian a.draws.locks db
                a.draws.lockedAt a.draws.ticketTime a.draws.entropy
                (updateTicketRequest id claims.sub payload) with hsame | ⟨body, index, hdb⟩
              · exact .outside fun c hc => congrArg (Keyspace.at? · c) hsame
              · exact .changes ⟨claims, payload, u, atUnix, ttlSecs, hclaims, hcall, hparse,
                  hwindow, hunexpired⟩ hdb
      | _ => exact .outside fun c hc => rfl

omit [AccountFormat] [Custodian.TicketFormat] [FailureText] in
/-- What an effect leaves of the rows: a ticket that exists stays as it is, unless the request comes
from the holder of its lock. -/
theorem TicketEffect.rows (heffect : TicketEffect state log a db db') (h : Represents T db)
    (hroom : state.creates a = true → T.issued + 1 < 2 ^ 64) :
    ∃ T', Represents T' db' ∧ T'.issued ≤ T.issued + (if state.creates a then 1 else 0) ∧
      ∀ id row, T.rows id = some row → T'.rows id = some row ∨
        state.ByHolder log a id ∧ (T'.rows id).isSome := by
  cases heffect with
  | outside hcells =>
      exact ⟨T, h.congr hcells, Nat.le_add_right _ _, fun id row hrow => .inl hrow⟩
  | @adds body index hcreates hdb =>
      have hnext := hroom hcreates
      refine ⟨T.apply (.createTicket body index), ?_, ?_, fun id row hrow => .inl ?_⟩
      · exact hdb ▸ h.apply rfl fun _ => hnext
      · rw [T.issued_apply, hcreates]
        exact le_rfl
      · rw [TicketTable.rows_createTicket, if_neg, hrow]
        -- A new id has no row yet.
        rintro rfl
        exact absurd ((h.next_free hnext).symm.trans hrow) (by simp)
  | @changes id body index hholder hdb =>
      refine ⟨T.apply (.updateTicket id body index), ?_, ?_, fun j row hrow => ?_⟩
      · exact hdb ▸ h.apply rfl fun hcreate => by cases hcreate
      · rw [T.issued_apply]
        exact Nat.add_le_add_left (Nat.zero_le _) _
      · rw [TicketTable.apply, TicketTable.rows_change]
        split
        next hid =>
          subst hid
          exact .inr ⟨hholder, by rw [hrow]; rfl⟩
        next => exact .inl hrow

/-! ## Runs -/

/-- What happens: a request arrives, or a lock command is applied. -/
inductive BackendEvent where
  | http (a : Arrival)
  | lock (c : LockCommand)

/-- The lock commands that have been applied, and the DB. -/
structure Backend where
  log : List LockCommand
  db : Sled

/-- The request, served with these locks. -/
def Arrival.withLocks (a : Arrival) (locks : Sled) : Arrival :=
  { a with draws := { a.draws with locks } }

omit [AccountFormat] [UuidParser] [Custodian.LockFormat] [Custodian.TicketFormat] [Db.RowFormat]
  [FailureText] in
/-- The locks do not decide which call a request leads to. -/
@[simp] theorem AppState.call_withLocks (state : AppState) (a : Arrival) (locks : Sled) :
    state.call (a.withLocks locks) = state.call a := rfl

/-- Serves a request with the locks as they are, or applies a lock command. -/
def Backend.step (state : AppState) (s : Backend) : BackendEvent → Backend
  | .http a => ⟨s.log, state.serve s.db (a.withLocks (applyLocks Keyspace.empty s.log))⟩
  | .lock c => ⟨s.log ++ [c], s.db⟩

/-- The event asks for a new ticket. -/
def AppState.creating (state : AppState) : BackendEvent → Bool
  | .http a => state.creates a
  | .lock _ => false

/-- The times of a lock command are within range. -/
def BackendEvent.InRange : BackendEvent → Prop
  | .http _ => True
  | .lock c => c.InRange

/-- The backend after some events, from a DB with no locks. -/
def Backend.run (state : AppState) (db : Sled) (events : List BackendEvent) : Backend :=
  events.foldl (Backend.step state) ⟨[], db⟩

theorem Backend.run_concat (events : List BackendEvent) (e : BackendEvent) :
    Backend.run state db (events ++ [e]) = (Backend.run state db events).step state e := by
  rw [run, List.foldl_concat]
  rfl

/-- The locks of a run are in range. -/
theorem Backend.log_inRange {events : List BackendEvent} (hevents : ∀ e ∈ events, e.InRange) :
    ∀ c ∈ (Backend.run state db events).log, c.InRange := by
  induction events using List.reverseRecOn with
  | nil => exact fun c hc => absurd hc List.not_mem_nil
  | append_singleton events e ih =>
      have hlog := ih fun e' he' => hevents e' (List.mem_append_left _ he')
      rw [Backend.run_concat]
      cases e with
      | http a => exact hlog
      | lock c =>
          intro d hd
          rcases List.mem_append.mp hd with hmem | hmem
          · exact hlog d hmem
          · rw [List.mem_singleton.mp hmem]
            exact hevents (.lock c) (by simp)

/-- An event leaves a ticket that exists as it is, unless it is a request of the holder of its
lock. -/
theorem Backend.step_rows (state : AppState) {s : Backend} (hlog : ∀ c ∈ s.log, c.InRange)
    (h : Represents T s.db)
    (e : BackendEvent) (hroom : state.creating e = true → T.issued + 1 < 2 ^ 64) :
    ∃ T', Represents T' (s.step state e).db ∧
      T'.issued ≤ T.issued + (if state.creating e then 1 else 0) ∧
      ∀ id row, T.rows id = some row → T'.rows id = some row ∨
        (∃ a, e = .http a ∧ state.ByHolder s.log a id) ∧ (T'.rows id).isSome := by
  cases e with
  | http a =>
      obtain ⟨T', hrepresents, hissued, hrows⟩ :=
        (serve_effect (a := a.withLocks _) hlog rfl s.db).rows h hroom
      refine ⟨T', hrepresents, hissued, fun id row hrow => ?_⟩
      exact (hrows id row hrow).imp_right fun hchanged => ⟨⟨a, rfl, hchanged.1⟩, hchanged.2⟩
  | lock c => exact ⟨T, h, le_rfl, fun id row hrow => .inl hrow⟩

/-- The tables of a run. -/
theorem Backend.run_represents (state : AppState) (h : Represents T db) {events : List BackendEvent}
    (hevents : ∀ e ∈ events, e.InRange)
    (hroom : T.issued + events.countP state.creating < 2 ^ 64) :
    ∃ T', Represents T' (Backend.run state db events).db ∧
      T'.issued ≤ T.issued + events.countP state.creating := by
  induction events using List.reverseRecOn with
  | nil => exact ⟨T, h, Nat.le_add_right _ _⟩
  | append_singleton events e ih =>
      have hupto : ∀ e' ∈ events, e'.InRange :=
        fun e' he' => hevents e' (List.mem_append_left _ he')
      rw [List.countP_append, List.countP_singleton] at hroom ⊢
      obtain ⟨T₁, hT₁, hissued₁⟩ := ih hupto (by omega)
      obtain ⟨T₂, hT₂, hissued₂, -⟩ := step_rows state (log_inRange hupto) hT₁ e
        fun hcreating => by rw [hcreating, if_pos rfl] at hroom; omega
      refine ⟨T₂, ?_, by omega⟩
      rw [Backend.run_concat]
      exact hT₂

end InfoVulcan.Lbrp

/-! ## Runs on the JSON formats -/

namespace InfoVulcan.Lbrp

open scoped SerdeJson

open SerdeJson
open Custodian (applyLocks holder closingRequest closingEntry blankRow)
open Db (TicketTable Represents)

/-- The claims of the holder. -/
def holderClaims : Claims where
  sub := toString holder
  exp := 3600
  role := Role.readOnly.debug

/-- Whoever the claims are of sets the first ticket to closed. -/
def closingBy (claims : Claims) : Arrival where
  req :=
    { method := .put
      path := ["api", "tickets", "1"]
      authorization := some ("Bearer " ++ sessionToken claims [1])
      rest := SerdeJson.updateTicketFields.codec.encode (none, none, none, some 255, ()) }
  draws := (promotion .readOnly).draws

/-- The holder sets the first ticket to closed. -/
def closingArrival : Arrival :=
  closingBy holderClaims

/-- Tokens are accepted at the beginning of unix time. -/
theorem authMiddleware_session {req : HttpRequest} (claims : Claims)
    (h : req.authorization = some ("Bearer " ++ sessionToken claims [1])) :
    authMiddleware [1] CivilTime.unixEpoch req = some claims := by
  have hstart : CivilTime.unixEpoch.timestamp.toInt = 0 := by decide
  have hexpiry : CivilTime.unixEpoch.timestamp.toInt ≤ claims.exp + 60 := by omega
  rw [authMiddleware_bearer h]
  exact decode_sessionToken hexpiry

theorem call_closingBy {claims : Claims} (hsub : claims.sub = toString holder) :
    sampleState.call (closingBy claims) = some (.updateTicket (closingRequest 1)) := by
  have hclaims : authMiddleware sampleState.jwtSecret (closingBy claims).draws.now
      (closingBy claims).req = some claims := authMiddleware_session claims rfl
  have hid : Extractors.pathU64 "1" = .ok 1 := by
    show readNumber "1" = _
    have hnumber : "1".toNat? = some 1 := Nat.toNat?_repr 1
    rw [readNumber, hnumber]
    rfl
  have hpayload : Extractors.updateTicketRequest (closingBy claims).req.rest =
      .ok ⟨none, none, none, some 255, none⟩ := by
    show (readBody SerdeJson.updateTicketFields _).map _ = _
    rw [closingBy, readBody_encode]
    rfl
  have hreach : reach sampleState.jwtSecret (closingBy claims).draws.now (closingBy claims).req =
      .ok (.updateTicket (closingRequest 1)) := by
    have hpath : (closingBy claims).req.path = ["api", "tickets", "1"] := rfl
    have hmethod : (closingBy claims).req.method = .put := rfl
    have hresource : resource ["tickets", "1"] = some (.ticket "1") := rfl
    simp only [reach, hpath, hresource, hclaims, hmethod, apiRoutes, extractPath, extract, hid,
      hpayload, hsub]
    rfl
  exact AppState.call_eq_some.mpr hreach

/-- The row of an open ticket changes when the ticket is closed. -/
theorem row_closing {T : TicketTable} {db : Sled} (hT : Represents T db)
    (hrow : T.rows 1 = some blankRow) :
    db.at? (Db.tickets.rowCell 1) = some (Db.tickets.format.encode blankRow) ∧
      ((closingEntry 1).apply db).2.at? (Db.tickets.rowCell 1) ≠
        some (Db.tickets.format.encode blankRow) := by
  have hclosed : Represents (T.apply (closingEntry 1)) ((closingEntry 1).apply db).2 :=
    hT.apply rfl nofun
  have hrow' : (T.apply (closingEntry 1)).rows 1 = some (Custodian.closedRow 1) := by
    rw [closingEntry, TicketTable.apply, TicketTable.rows_change, if_pos rfl, hrow]
    rfl
  constructor
  · rw [hT.row, hrow, Option.map_some]
  · rw [hclosed.row, hrow', Option.map_some]
    intro heq
    have hsame := (Codec.encode_inj _).mp (Option.some.inj heq)
    exact absurd (congrArg (fun row => row.index.status) hsame) (by decide)

/-- The request of whoever holds the lock closes the ticket. -/
theorem serve_closingBy {claims : Claims} (hsub : claims.sub = toString holder) {T : TicketTable}
    {db : Sled} (hT : Represents T db) (hrow : T.rows 1 = some blankRow) :
    sampleState.serve db ((closingBy claims).withLocks
        (applyLocks Keyspace.empty [.acquireLock 1 holder 100 900])) =
      ((closingEntry 1).apply db).2 := by
  refine Eq.trans ?_ (Custodian.serve_closing (by decide) hT hrow)
  rw [AppState.serve, AppState.call_withLocks, call_closingBy hsub]
  rfl

/-- The lock of the first ticket is taken. -/
def takingLock : BackendEvent :=
  .lock (.acquireLock 1 holder 100 900)

end InfoVulcan.Lbrp
