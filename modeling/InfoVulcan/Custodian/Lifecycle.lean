import InfoVulcan.Custodian.LostUpdate
import InfoVulcan.Db.TicketIds
import InfoVulcan.Library.Lifecycle

/-!
# The lifecycle of tickets

Requests that do not overlap: tickets are created, updated and soft-deleted, and locks come and go.
A status passes through a number in the request, the encrypted body and the index fields of the DB
row. What keeps them together is `Kept`: the DB represents a table of tickets, and every row of it
holds a ticket whose index fields are its own (`HoldsTicket`). A request then moves the statuses as
`TicketStatus.allowedTransitions` says, as long as the ids do not run out.
-/

namespace InfoVulcan.Custodian

open Db (TicketTable StoredTicket TicketIndexFields LogEntry Represents tickets)

/-- The lifecycle of a ticket. -/
def ticketLifecycle : Lifecycle TicketStatus where
  initial := .open
  allowed s t := t ∈ s.allowedTransitions

/-- A closed ticket has nowhere to go. -/
theorem ticketLifecycle_terminal {status : TicketStatus}
    (h : status = .closed ∨ status = .autoClose) : ticketLifecycle.Terminal status := by
  intro t ht
  rcases h with rfl | rfl <;> exact absurd ht List.not_mem_nil

/-! ## Requests -/

variable [Chrono] [Primitives]

/-- What ticket requests work on: the locks of the custodian, and the DB. -/
structure TicketStore where
  locks : Sled
  db : Sled

/-- A request, with the readings of the clock and the random bytes it is carried out with. Soft
deletes go to the DB service itself. -/
inductive TicketRequest where
  | create (now : Chrono.DateTime) (nowMillis : Int64) (entropy : Primitives.Entropy)
      (req : CreateTicketRequest)
  | update (now updatedAt : Chrono.DateTime) (entropy : Primitives.Entropy)
      (req : UpdateTicketRequest)
  | softDelete (ticketId : UInt64) (now : Int64)
  | lock (command : LockCommand)

variable [LockFormat] [TicketFormat] [UuidParser] [Db.RowFormat] [FailureText]

namespace TicketStore

/-- The store after a request. -/
def serve (service : CustodianServiceImpl) (s : TicketStore) : TicketRequest → TicketStore
  | .create now nowMillis entropy req =>
      { s with db := (service.createTicket s.db now nowMillis entropy req).2 }
  | .update now updatedAt entropy req =>
      { s with db := (service.updateTicket s.locks s.db now updatedAt entropy req).2 }
  | .softDelete ticketId now =>
      { s with db := (Db.DatabaseService.softDeleteTicket s.db ticketId now).2 }
  | .lock command => { s with locks := (CustodianStateMachine.apply s.locks command).2 }

/-- The store after some requests, one after the other. -/
def serveAll (service : CustodianServiceImpl) (s : TicketStore) (requests : List TicketRequest) :
    TicketStore :=
  requests.foldl (serve service) s

/-- The request asks for a ticket and gets one. -/
def creates (service : CustodianServiceImpl) (s : TicketStore) : TicketRequest → Bool
  | .create now nowMillis entropy req =>
      (service.createTicket s.db now nowMillis entropy req).1.isOk
  | _ => false

/-- The number of tickets created by some requests. -/
def created (service : CustodianServiceImpl) (s : TicketStore) : List TicketRequest → Nat
  | [] => 0
  | r :: requests =>
      (if s.creates service r then 1 else 0) + created service (s.serve service r) requests

/-- The status in the body stored for a ticket, whether it is deleted or not. -/
def storedStatus (service : CustodianServiceImpl) (id : UInt64) (s : TicketStore) :
    Option TicketStatus :=
  match Db.DatabaseService.getTicket s.db id true with
  | .error _ => none
  | .ok record =>
      match service.decryptTicket record.ticketId record.encryptedBody with
      | .error _ => none
      | .ok ticket => some ticket.status

end TicketStore

/-! ## The laws -/

/-- The index fields are those of the ticket. -/
structure IndexMatches (index : TicketIndexFields) (ticket : Ticket) : Prop where
  status : index.status = ticket.status.toU8
  accountUuid : index.accountUuid = toString ticket.accountUuid
  assignedToUuid : index.assignedToUuid = ticket.assignedTo.map toString
  project : index.project = ticket.project
  trackingUrl : index.trackingUrl = ticket.trackingUrl
  createdAtUnix : index.createdAtUnix = Chrono.timestamp ticket.createdAt
  updatedAtUnix : index.updatedAtUnix = Chrono.timestamp ticket.updatedAt

/-- The body of the row decrypts to the ticket, and the index fields are those of the ticket. -/
structure HoldsTicket (service : CustodianServiceImpl) (id : UInt64) (row : StoredTicket)
    (ticket : Ticket) : Prop where
  body : service.decryptTicket id row.body = .ok ticket
  index : IndexMatches row.index ticket

/-- What is to hold of requests that are served from an empty DB: the status of every ticket
follows the lifecycle, a closed ticket stays closed, and after every request each row holds a
ticket. -/
structure FollowLifecycle (service : CustodianServiceImpl) (locks : Sled)
    (requests : List TicketRequest) : Prop where
  statuses : ∀ id, ticketLifecycle.Follows (TicketStore.serve service)
    (TicketStore.storedStatus service id) ⟨locks, Keyspace.empty⟩ requests
  terminal : ∀ pre mid post, requests = pre ++ mid ++ post → ∀ id s,
    s = .closed ∨ s = .autoClose →
    (TicketStore.serveAll service ⟨locks, Keyspace.empty⟩ pre).storedStatus service id = some s →
    (TicketStore.serveAll service ⟨locks, Keyspace.empty⟩ (pre ++ mid)).storedStatus service id =
      some s
  rows : ∀ pre post, requests = pre ++ post → ∀ id bytes,
    Db.get (TicketStore.serveAll service ⟨locks, Keyspace.empty⟩ pre).db Db.TREE_TICKETS
      (Bytes.ofU64 id) = some bytes →
    ∃ row ticket, Db.RowFormat.storedTicket.decode bytes = .ok row ∧
      HoldsTicket service id row ticket

/-! ## Rows and tickets -/

omit [Primitives] [LockFormat] [TicketFormat] [UuidParser] [Db.RowFormat] [FailureText] in
/-- The index fields that are sent with a ticket are stored as those of the ticket. -/
theorem indexMatches_ticketIndex (ticket : Ticket) :
    IndexMatches (Db.ticketIndexFromProto (ticketIndex ticket)) ticket where
  status := by
    have hbyte := ticket.status.toU8.toNat_lt
    simp only [ticketIndex, Db.ticketIndexFromProto, UInt8.toNat_toUInt32, if_pos hbyte]
    exact UInt8.ofNat_toNat
  accountUuid := rfl
  assignedToUuid := rfl
  project := rfl
  trackingUrl := rfl
  createdAtUnix := rfl
  updatedAtUnix := rfl

section Rows

variable {service : CustodianServiceImpl} {T : TicketTable} {id : UInt64}

/-- The status in the body of a row. -/
def rowStatus (service : CustodianServiceImpl) (id : UInt64) :
    Option StoredTicket → Option TicketStatus
  | none => none
  | some row =>
      match service.decryptTicket id row.body with
      | .error _ => none
      | .ok ticket => some ticket.status

omit [LockFormat] [UuidParser] [Db.RowFormat] [FailureText] in
theorem HoldsTicket.rowStatus {row : StoredTicket} {ticket : Ticket}
    (h : HoldsTicket service id row ticket) :
    rowStatus service id (some row) = some ticket.status := by
  simp [Custodian.rowStatus, h.body]

omit [LockFormat] [UuidParser] [FailureText] in
/-- The stored status is that of the row. -/
theorem storedStatus_eq {s : TicketStore} {row : Option StoredTicket}
    (h : s.db.at? (tickets.rowCell id) = row.map tickets.format.encode) :
    s.storedStatus service id = rowStatus service id row := by
  have hget : Db.get s.db tickets.tree (tickets.entity id) = row.map tickets.format.encode := h
  cases row <;> simp [TicketStore.storedStatus, Db.DatabaseService.getTicket, Db.getTicket,
    Db.Table.read, hget, rowStatus, Db.ticketRecord]

/-- Every row of the table holds a ticket. -/
def RowsHold (service : CustodianServiceImpl) (T : TicketTable) : Prop :=
  ∀ id row, T.rows id = some row → ∃ ticket, HoldsTicket service id row ticket

/-- What a request may do to the row of a ticket. -/
inductive RowStep (service : CustodianServiceImpl) (id : UInt64) :
    Option StoredTicket → Option StoredTicket → Prop where
  | same (row : Option StoredTicket) : RowStep service id row row
  | created {row : StoredTicket} {ticket : Ticket} (hholds : HoldsTicket service id row ticket)
      (hopen : ticket.status = .open) : RowStep service id none (some row)
  | changed {old new : StoredTicket} {ticket updated : Ticket}
      (hold : HoldsTicket service id old ticket) (hnew : HoldsTicket service id new updated)
      (hmove : updated.status = ticket.status ∨
        updated.status ∈ ticket.status.allowedTransitions) :
      RowStep service id (some old) (some new)

omit [LockFormat] [UuidParser] [Db.RowFormat] [FailureText] in
/-- The status in a row takes a step of the lifecycle. -/
theorem RowStep.status {old new : Option StoredTicket} (h : RowStep service id old new) :
    ticketLifecycle.Step (rowStatus service id old) (rowStatus service id new) := by
  cases h with
  | same => exact .refl _
  | created hholds hopen =>
      rw [hholds.rowStatus, hopen]
      exact .created
  | changed hold hnew hmove =>
      rw [hold.rowStatus, hnew.rowStatus]
      rcases hmove with hsame | hallowed
      · rw [hsame]
        exact .stays _
      · exact .moves hallowed

omit [LockFormat] [UuidParser] [Db.RowFormat] [FailureText] in
/-- A row that holds a ticket still does. -/
theorem RowStep.holds {old new : Option StoredTicket} (h : RowStep service id old new)
    (hold : ∀ row, old = some row → ∃ ticket, HoldsTicket service id row ticket) :
    ∀ row, new = some row → ∃ ticket, HoldsTicket service id row ticket := by
  intro row hrow
  cases h with
  | same => exact hold row hrow
  | created hholds => exact ⟨_, Option.some.inj hrow ▸ hholds⟩
  | changed _ hnew => exact ⟨_, Option.some.inj hrow ▸ hnew⟩

/-! ## What a request writes -/

/-- The log entries that requests make. An update carries a ticket that was read from its row. -/
inductive Written (service : CustodianServiceImpl) (T : TicketTable) : LogEntry → Prop where
  | create {ticket : Ticket} {entropy : Primitives.Entropy} {body : Bytes}
      (hbody : service.encryptTicket ticket entropy = .ok body) (hopen : ticket.status = .open) :
      Written service T (.createTicket body (Db.ticketIndexFromProto (ticketIndex ticket)))
  | update {id : UInt64} {row : StoredTicket} {ticket updated : Ticket} {body : Bytes}
      (hrow : T.rows id = some row) (hread : service.decryptTicket id row.body = .ok ticket)
      (hmove : updated.status = ticket.status ∨
        updated.status ∈ ticket.status.allowedTransitions)
      (hbody : service.decryptTicket id body = .ok updated) :
      Written service T (.updateTicket id body (Db.ticketIndexFromProto (ticketIndex updated)))
  | softDelete (id : UInt64) (now : Int64) : Written service T (.softDeleteTicket id now)

omit [LockFormat] [UuidParser] [Db.RowFormat] [FailureText] in
theorem Written.isTicketCommand {e : LogEntry} (h : Written service T e) : e.isTicketCommand := by
  cases h <;> rfl

omit [LockFormat] [UuidParser] [Db.RowFormat] [FailureText] in
/-- What is written changes each row as a request may. -/
theorem Written.rowStep {e : LogEntry} (h : Written service T e) (hholds : RowsHold service T)
    (hfree : e.isCreateTicket → T.rows (UInt64.ofNat (T.issued + 1)) = none) (id : UInt64) :
    RowStep service id (T.rows id) ((T.apply e).rows id) := by
  cases h with
  | @create ticket entropy body hbody hopen =>
      rw [TicketTable.rows_createTicket]
      split
      next hid =>
        rw [hid, hfree rfl]
        -- The id is not part of the index fields.
        exact .created ⟨service.decryptTicket_encryptTicket hbody _,
          indexMatches_ticketIndex { ticket with ticketId := UInt64.ofNat (T.issued + 1) }⟩ hopen
      next => exact .same _
  | @update target row ticket updated body hrow hread hmove hbody =>
      rw [TicketTable.apply, TicketTable.rows_change]
      split
      next hid =>
        obtain ⟨held, hheld⟩ := hholds target row hrow
        obtain rfl : ticket = held := Except.ok.inj (hread.symm.trans hheld.body)
        rw [hid, hrow]
        exact .changed hheld ⟨hbody, indexMatches_ticketIndex updated⟩ hmove
      next => exact .same _
  | softDelete target now =>
      rw [TicketTable.apply, TicketTable.rows_change]
      split
      next hid =>
        rw [hid]
        cases hrow : T.rows target with
        | none => exact .same _
        | some row =>
            obtain ⟨ticket, hheld⟩ := hholds target row hrow
            exact .changed hheld ⟨hheld.body, hheld.index⟩ (.inl rfl)
      next => exact .same _

end Rows

/-! ## Requests and the table -/

section Requests

variable {service : CustodianServiceImpl} {T : TicketTable} {s : TicketStore}

omit [Primitives] [LockFormat] [TicketFormat] [Db.RowFormat] [FailureText] in
/-- A new ticket is open. -/
theorem newTicket_status {req : CreateTicketRequest} {now : Chrono.DateTime} {ticket : Ticket}
    (h : CustodianServiceImpl.newTicket req now = .ok ticket) : ticket.status = .open := by
  simp only [CustodianServiceImpl.newTicket] at h
  split at h
  · cases h
  split at h
  · cases h
  split at h
  · cases h
  · cases h
    rfl

omit [LockFormat] in
/-- A request to create a ticket writes nothing, or creates an open ticket. -/
theorem createTicket_cases (service : CustodianServiceImpl) (T : TicketTable) (db : Sled)
    (now : Chrono.DateTime) (nowMillis : Int64)
    (entropy : Primitives.Entropy) (req : CreateTicketRequest) :
    (service.createTicket db now nowMillis entropy req).2 = db ∨
      ∃ e, Written service T e ∧ e.isCreateTicket ∧
        (service.createTicket db now nowMillis entropy req).2 = (e.apply db).2 ∧
        (service.createTicket db now nowMillis entropy req).1.isOk := by
  unfold CustodianServiceImpl.createTicket
  cases hticket : CustodianServiceImpl.newTicket req now with
  | error status => exact .inl rfl
  | ok ticket =>
      cases hbody : service.encryptTicket ticket entropy with
      | error status => exact .inl (by simp [hbody])
      | ok body =>
          by_cases hclient : service.dbClient
          · refine .inr ⟨_, .create hbody (newTicket_status hticket), rfl, ?_⟩
            simp [hbody, hclient, Db.DatabaseService.createTicket_eq, Except.isOk, Except.toBool]
          · exact .inl (by simp [hbody, hclient])

omit [LockFormat] in
/-- What a request to create a ticket stores is one creation, if anything. -/
theorem createTicket_applies (service : CustodianServiceImpl) (db : Sled) (now : Chrono.DateTime)
    (nowMillis : Int64) (entropy : Primitives.Entropy) (req : CreateTicketRequest) :
    (service.createTicket db now nowMillis entropy req).2 = db ∨
      ∃ body index, (service.createTicket db now nowMillis entropy req).2 =
        ((Db.LogEntry.createTicket body index).apply db).2 := by
  rcases createTicket_cases service .initial db now nowMillis entropy req with
    hsame | ⟨e, hwritten, hcreate, hdb, -⟩
  · exact .inl hsame
  · cases hwritten with
    | create => exact .inr ⟨_, _, hdb⟩
    | update | softDelete => cases hcreate

/-- What a request to update a ticket stores is one update of that ticket, if anything. -/
theorem updateTicket_applies (service : CustodianServiceImpl) (locks db : Sled)
    (now updatedAt : Chrono.DateTime) (entropy : Primitives.Entropy) (req : UpdateTicketRequest) :
    (service.updateTicket locks db now updatedAt entropy req).2 = db ∨
      ∃ body index, (service.updateTicket locks db now updatedAt entropy req).2 =
        ((Db.LogEntry.updateTicket req.ticketId body index).apply db).2 := by
  rcases updateTicket_db service locks db now updatedAt entropy req with
    hsame | ⟨updater, record, write, -, -, hdb⟩
  · exact .inl hsame
  · rw [writeTicket_db, Db.DatabaseService.updateTicket_storage] at hdb
    split at hdb
    · exact .inl hdb
    · exact .inr ⟨_, _, hdb⟩

/-- A request to update a ticket writes nothing, or a change of a ticket that was read. -/
theorem updateTicket_cases (service : CustodianServiceImpl) (h : Represents T s.db)
    (now updatedAt : Chrono.DateTime)
    (entropy : Primitives.Entropy) (req : UpdateTicketRequest) :
    (service.updateTicket s.locks s.db now updatedAt entropy req).2 = s.db ∨
      ∃ e, Written service T e ∧ e.isCreateTicket = false ∧
        (service.updateTicket s.locks s.db now updatedAt entropy req).2 = (e.apply s.db).2 := by
  rcases updateTicket_db service s.locks s.db now updatedAt entropy req with
    hsame | ⟨updater, record, write, hfetch, hprepare, hdb⟩
  · exact .inl hsame
  rw [hdb, writeTicket_db, Db.DatabaseService.updateTicket_storage]
  split
  · exact .inl rfl
  obtain ⟨bytes, row, hbytes, hdecode, -, rfl⟩ :=
    Db.DatabaseService.getTicket_eq_ok.mp (fetchRecord_eq_ok hfetch)
  have hrow : T.rows req.ticketId = some row := h.ticketRowAt.mp ⟨bytes, hbytes, hdecode⟩
  obtain ⟨ticket, updated, hread, hupdated, hticket, -, hindex⟩ := prepareUpdate_inv hprepare
  have hmove : write.ticket.status = ticket.status ∨
      write.ticket.status ∈ ticket.status.allowedTransitions := by
    have hallowed := applyUpdates_allowed hupdated
    rw [hticket]
    exact hallowed
  rw [hindex]
  exact .inr ⟨_, .update hrow hread hmove (decryptTicket_prepareUpdate hprepare), rfl, rfl⟩

/-- A request leaves the DB alone, or has an entry applied that changes each row as a request
may. -/
theorem serve_cases (service : CustodianServiceImpl) (h : Represents T s.db)
    (r : TicketRequest) :
    (s.serve service r).db = s.db ∨
      ∃ e, Written service T e ∧ (e.isCreateTicket → s.creates service r) ∧
        (s.serve service r).db = (e.apply s.db).2 := by
  cases r with
  | create now nowMillis entropy req =>
      rcases createTicket_cases service T s.db now nowMillis entropy req with
        hsame | ⟨e, hwritten, -, hdb, hok⟩
      · exact .inl hsame
      · exact .inr ⟨e, hwritten, fun _ => hok, hdb⟩
  | update now updatedAt entropy req =>
      rcases updateTicket_cases service h now updatedAt entropy req with
        hsame | ⟨e, hwritten, hcreate, hdb⟩
      · exact .inl hsame
      · exact .inr ⟨e, hwritten, fun htrue => by simp [hcreate] at htrue, hdb⟩
  | softDelete ticketId now =>
      exact .inr ⟨_, .softDelete ticketId now, nofun,
        Db.DatabaseService.softDeleteTicket_storage s.db ticketId now⟩
  | lock command => exact .inl rfl

/-! ## Runs -/

/-- After requests that created at most `n` tickets, the DB represents a table whose rows hold
tickets. -/
structure Kept (service : CustodianServiceImpl) (n : Nat) (s : TicketStore) (T : TicketTable) :
    Prop where
  represents : Represents T s.db
  issued : T.issued ≤ n
  holds : RowsHold service T

omit [LockFormat] [UuidParser] [FailureText] in
/-- No ticket has been created in an empty DB. -/
theorem kept_empty (service : CustodianServiceImpl) (locks : Sled) :
    Kept service 0 ⟨locks, Keyspace.empty⟩ .initial where
  represents := Represents.empty
  issued := le_rfl
  holds id row hrow := by simp [TicketTable.initial] at hrow

/-- A request keeps the rows, and changes each of them as a request may. -/
theorem Kept.serve {n : Nat} (h : Kept service n s T) {r : TicketRequest}
    (hroom : n + (if s.creates service r then 1 else 0) < 2 ^ 64) :
    ∃ T', Kept service (n + if s.creates service r then 1 else 0) (s.serve service r) T' ∧
      ∀ id, RowStep service id (T.rows id) (T'.rows id) := by
  rcases serve_cases service h.represents r with
    hsame | ⟨e, hwritten, hcreates, hdb⟩
  · exact ⟨T, ⟨hsame ▸ h.represents, h.issued.trans (Nat.le_add_right _ _), h.holds⟩,
      fun id => .same _⟩
  have hcount : T.issued + (if e.isCreateTicket then 1 else 0) ≤
      n + if s.creates service r then 1 else 0 := by
    refine Nat.add_le_add h.issued ?_
    by_cases hcreate : e.isCreateTicket
    · rw [if_pos hcreate, if_pos (hcreates hcreate)]
    · rw [if_neg hcreate]
      exact Nat.zero_le _
  have hnext : e.isCreateTicket → T.issued + 1 < 2 ^ 64 := by
    intro hcreate
    rw [if_pos hcreate] at hcount
    omega
  have hstep : ∀ id, RowStep service id (T.rows id) ((T.apply e).rows id) :=
    hwritten.rowStep h.holds fun hcreate => h.represents.next_free (hnext hcreate)
  refine ⟨T.apply e, ⟨?_, ?_, fun id => (hstep id).holds (h.holds id)⟩, hstep⟩
  · rw [hdb]
    exact h.represents.apply hwritten.isTicketCommand hnext
  · rw [T.issued_apply]
    exact hcount

theorem created_append (xs ys : List TicketRequest) :
    s.created service (xs ++ ys) =
      s.created service xs + (s.serveAll service xs).created service ys := by
  induction xs generalizing s with
  | nil => simp [TicketStore.created, TicketStore.serveAll]
  | cons r xs ih =>
      simp only [List.cons_append, TicketStore.created, ih, TicketStore.serveAll, List.foldl_cons]
      omega

/-- A request creates at most one ticket. -/
theorem created_le_length (service : CustodianServiceImpl) (s : TicketStore)
    (requests : List TicketRequest) : s.created service requests ≤ requests.length := by
  induction requests generalizing s with
  | nil => exact le_rfl
  | cons r requests ih =>
      have hrest := ih (s.serve service r)
      rw [TicketStore.created, List.length_cons]
      split <;> omega

/-- Requests keep the rows. -/
theorem Kept.serveAll {n : Nat} (h : Kept service n s T) {requests : List TicketRequest}
    (hroom : n + s.created service requests < 2 ^ 64) :
    ∃ T', Kept service (n + s.created service requests) (s.serveAll service requests) T' := by
  induction requests generalizing n s T with
  | nil => exact ⟨T, h⟩
  | cons r requests ih =>
      rw [TicketStore.created, ← Nat.add_assoc] at hroom ⊢
      obtain ⟨T', hT', -⟩ := h.serve (r := r) (by omega)
      exact ih hT' hroom

/-- As long as fewer tickets are created than there are ids, tickets follow the lifecycle. -/
theorem tickets_follow_lifecycle {locks : Sled} {requests : List TicketRequest}
    (hroom : TicketStore.created service ⟨locks, Keyspace.empty⟩ requests < 2 ^ 64) :
    FollowLifecycle service locks requests := by
  have hkept : ∀ pre post, requests = pre ++ post → ∃ T,
      Kept service (TicketStore.created service ⟨locks, Keyspace.empty⟩ pre)
        (TicketStore.serveAll service ⟨locks, Keyspace.empty⟩ pre) T := by
    rintro pre post rfl
    rw [created_append] at hroom
    have hpre : 0 + TicketStore.created service ⟨locks, Keyspace.empty⟩ pre < 2 ^ 64 := by omega
    have h := (kept_empty service locks).serveAll hpre
    rwa [Nat.zero_add] at h
  have hstatuses : ∀ id, ticketLifecycle.Follows (TicketStore.serve service)
      (TicketStore.storedStatus service id) ⟨locks, Keyspace.empty⟩ requests := by
    rintro id pre r post rfl
    obtain ⟨T, hT⟩ := hkept pre (r :: post) rfl
    rw [created_append, TicketStore.created] at hroom
    obtain ⟨T', hT', hstep⟩ := hT.serve (r := r) (by omega)
    have hstatus := (hstep id).status
    rwa [← storedStatus_eq (hT.represents.row id), ← storedStatus_eq (hT'.represents.row id)]
      at hstatus
  refine ⟨hstatuses, ?_, ?_⟩
  · rintro pre mid post rfl id status hstatus hstored
    exact (hstatuses id).terminal (ticketLifecycle_terminal hstatus) hstored
  · intro pre post hsplit id bytes hbytes
    obtain ⟨T, hT⟩ := hkept pre post hsplit
    have hcell := (hT.represents.row id).symm.trans hbytes
    obtain ⟨row, hrow, rfl⟩ := Option.map_eq_some_iff.mp hcell
    obtain ⟨ticket, hholds⟩ := hT.holds id row hrow
    exact ⟨row, ticket, tickets.format.decode_encode row, hholds⟩

end Requests

end InfoVulcan.Custodian

/-! ## Runs on the JSON formats -/

namespace InfoVulcan.Custodian

open scoped SerdeJson
open SerdeJson
open Db (TicketTable LogEntry Represents tickets lastId)

/-- A ticket, before it has an id. -/
def blankTicket : Ticket :=
  Ticket.new 0 "title" "project" ⟨2⟩ .unknown holder CivilTime.unixEpoch

/-- A request for that ticket. -/
def creationRequest : CreateTicketRequest where
  title := "title"
  project := "project"
  accountUuid := toString (⟨2⟩ : Uuid)
  symptom := 0
  priority := 0
  createdByUuid := toString holder
  customerTicketNumber := none
  ispTicketNumber := none
  otherTicketNumber := none
  ebond := none
  trackingUrl := none
  networkDevices := []

/-- The ticket is created. -/
def creation : TicketRequest :=
  .create CivilTime.unixEpoch 0 [] creationRequest

/-- The holder takes the lock of a ticket. -/
def taking (ticketId : UInt64) : TicketRequest :=
  .lock (.acquireLock ticketId holder 100 900)

/-- The holder sets a ticket to closed. -/
def closingRequest (ticketId : UInt64) : UpdateTicketRequest :=
  { holderRequest none none with ticketId, status := some 255 }

/-- The holder closes a ticket. -/
def closing (ticketId : UInt64) : TicketRequest :=
  .update CivilTime.unixEpoch CivilTime.unixEpoch [] (closingRequest ticketId)

/-- A ticket is created, closed and deleted. -/
theorem tickets_follow_lifecycle_closed :
    FollowLifecycle custodian Keyspace.empty [creation, taking 1, closing 1, .softDelete 1 0] :=
  tickets_follow_lifecycle ((created_le_length _ _ _).trans_lt (by decide))

/-- The log entry of the creation. -/
def creationEntry : LogEntry :=
  .createTicket (ticketBody blankTicket) (Db.ticketIndexFromProto (ticketIndex blankTicket))

theorem newTicket_creationRequest :
    CustodianServiceImpl.newTicket creationRequest CivilTime.unixEpoch = .ok blankTicket := by
  have hparse : ∀ uuid : Uuid, UuidParser.parseStr (toString uuid) = some uuid :=
    Uuid.parseHyphenated_toString
  simp [CustodianServiceImpl.newTicket, creationRequest, hparse]
  rfl

theorem serve_creation (s : TicketStore) :
    s.serve custodian creation = { s with db := (creationEntry.apply s.db).2 } := by
  have hclient : custodian.dbClient = true := rfl
  simp [creation, TicketStore.serve, CustodianServiceImpl.createTicket, newTicket_creationRequest,
    encryptTicket_eq, hclient, Db.DatabaseService.createTicket_eq, creationEntry]

/-- The row of the ticket. -/
def blankRow : Db.StoredTicket :=
  Db.Table.fresh (ticketBody blankTicket) (Db.ticketIndexFromProto (ticketIndex blankTicket))

theorem holdsTicket_blankRow (id : UInt64) :
    HoldsTicket custodian id blankRow { blankTicket with ticketId := id } where
  body := custodian.decryptTicket_encryptTicket (encryptTicket_eq blankTicket) id
  index := indexMatches_ticketIndex { blankTicket with ticketId := id }

/-- After some creations, with one at least, the last id issued has an open ticket. -/
theorem serveAll_creations {n : Nat} (hn : n < 2 ^ 64) :
    ∃ db T, TicketStore.serveAll custodian ⟨Keyspace.empty, Keyspace.empty⟩
        (List.replicate n creation) = ⟨Keyspace.empty, db⟩ ∧
      Represents T db ∧ T.issued = n ∧ (n ≠ 0 → T.rows (UInt64.ofNat n) = some blankRow) := by
  induction n with
  | zero => exact ⟨_, _, rfl, Represents.empty, rfl, fun h => absurd rfl h⟩
  | succ n ih =>
      obtain ⟨db, T, hdb, hT, hissued, -⟩ := ih (by omega)
      refine ⟨(creationEntry.apply db).2, T.apply creationEntry, ?_,
        hT.apply rfl fun _ => by omega, by rw [← hissued]; rfl, fun _ => ?_⟩
      · rw [TicketStore.serveAll] at hdb ⊢
        rw [List.replicate_succ', List.foldl_concat, hdb, serve_creation]
      · rw [creationEntry, TicketTable.rows_createTicket, hissued, if_pos rfl, blankRow]

/-- The ticket once it is closed. -/
def closedTicket (id : UInt64) : Ticket :=
  { blankTicket with ticketId := id, status := .closed }

/-- The log entry that closes the ticket. -/
def closingEntry (id : UInt64) : LogEntry :=
  .updateTicket id (ticketBody (closedTicket id))
    (Db.ticketIndexFromProto (ticketIndex (closedTicket id)))

/-- A ticket that has just been created can be closed by whoever has taken its lock. -/
theorem serve_closing {id : UInt64} (hid : id ≠ 0) {db : Sled} {T : TicketTable}
    (hT : Represents T db) (hrow : T.rows id = some blankRow) :
    (TicketStore.serveAll custodian ⟨Keyspace.empty, db⟩ [taking id, closing id]).db =
      ((closingEntry id).apply db).2 := by
  have hlock : CustodianServiceImpl.checkLock
      (CustodianStateMachine.apply Keyspace.empty (.acquireLock id holder 100 900)).2
      CivilTime.unixEpoch (closingRequest id) = .ok holder := checkLock_acquired rfl rfl
  have hread : Reads custodian (Db.ticketRecord id blankRow) { blankTicket with ticketId := id } :=
    (holdsTicket_blankRow id).body
  have hupdated : CustodianServiceImpl.applyUpdates (closingRequest id)
      { blankTicket with ticketId := id } = .ok (closedTicket id) := rfl
  have hprepare : custodian.prepareUpdate (closingRequest id) holder CivilTime.unixEpoch []
      (Db.ticketRecord id blankRow) =
        .ok ⟨closedTicket id, ticketBody (closedTicket id), ticketIndex (closedTicket id)⟩ :=
    prepareUpdate_eq_ok hread hupdated (encryptTicket_eq (closedTicket id))
  have hdb := updateTicket_db_of_prepared hlock (fetchRecord_of_row hT hrow rfl) hprepare
  rw [writeTicket_db, Db.DatabaseService.updateTicket_storage] at hdb
  exact hdb.trans (if_neg hid)

/-- The row of the ticket once it is closed. -/
def closedRow (id : UInt64) : Db.StoredTicket :=
  Db.Table.updated blankRow (ticketBody (closedTicket id))
    (Db.ticketIndexFromProto (ticketIndex (closedTicket id)))

theorem holdsTicket_closedRow (id : UInt64) :
    HoldsTicket custodian id (closedRow id) (closedTicket id) where
  body := custodian.decryptTicket_encryptTicket (encryptTicket_eq (closedTicket id)) id
  index := indexMatches_ticketIndex (closedTicket id)

/-- A creation that finds the counter at the last id leaves an open ticket under that id. -/
theorem storedStatus_creation {s : TicketStore}
    (hcounter : s.db.at? Db.seqCell = Db.counterBytes (2 ^ 64 - 1)) :
    (s.serve custodian creation).storedStatus custodian lastId = some .open := by
  have hlast : lastId = UInt64.ofNat (2 ^ 64 - 1) := rfl
  have hrow : (s.serve custodian creation).db.at? (tickets.rowCell lastId) =
      (some blankRow).map tickets.format.encode := by
    rw [serve_creation, creationEntry, Db.rowCell_createTicket, hcounter,
      Db.nextCounter_counterBytes_last, if_pos hlast, Option.map_some, blankRow]
  rw [storedStatus_eq hrow, (holdsTicket_blankRow lastId).rowStatus]
  rfl

/-- As many creations as there are ids. The last ticket is then closed. -/
def creationsThenClosed : List TicketRequest :=
  List.replicate lastId.toNat creation ++ [taking lastId, closing lastId]

/-- The last ticket is closed then, and the counter stands at its id. -/
theorem serveAll_creationsThenClosed :
    (TicketStore.serveAll custodian ⟨Keyspace.empty, Keyspace.empty⟩
      creationsThenClosed).storedStatus custodian lastId = some .closed ∧
    (TicketStore.serveAll custodian ⟨Keyspace.empty, Keyspace.empty⟩
      creationsThenClosed).db.at? Db.seqCell = Db.counterBytes (2 ^ 64 - 1) := by
  obtain ⟨db, T, hdb, hT, hissued, hlast⟩ := serveAll_creations (n := lastId.toNat) (by decide)
  have hrow : T.rows lastId = some blankRow := hlast (by decide)
  have hsplit : TicketStore.serveAll custodian ⟨Keyspace.empty, Keyspace.empty⟩
      creationsThenClosed =
        TicketStore.serveAll custodian ⟨Keyspace.empty, db⟩ [taking lastId, closing lastId] := by
    rw [← hdb]
    exact List.foldl_append
  have hclosed : Represents (T.apply (closingEntry lastId)) ((closingEntry lastId).apply db).2 :=
    hT.apply rfl nofun
  have hrow' : (T.apply (closingEntry lastId)).rows lastId = some (closedRow lastId) := by
    rw [closingEntry, TicketTable.apply, TicketTable.rows_change, if_pos rfl, hrow]
    rfl
  rw [← serve_closing (by decide) hT hrow, ← hsplit] at hclosed
  constructor
  · rw [storedStatus_eq (hclosed.row lastId), hrow', (holdsTicket_closedRow lastId).rowStatus]
    rfl
  · rw [hclosed.counter, Db.TicketTable.issued_apply, hissued]
    rfl

/-- The id counter stays at the last id, so one more creation writes over the closed ticket, which
is open again. -/
theorem closed_ticket_reopens :
    ¬ FollowLifecycle custodian Keyspace.empty (creationsThenClosed ++ [creation]) := by
  intro h
  obtain ⟨hclosed, hcounter⟩ := serveAll_creationsThenClosed
  have hkept := h.terminal creationsThenClosed [creation] [] (List.append_nil _).symm lastId
    .closed (.inl rfl) hclosed
  have hopen := storedStatus_creation hcounter
  rw [TicketStore.serveAll, List.foldl_concat] at hkept
  exact absurd (hkept.symm.trans hopen) (by decide)

end InfoVulcan.Custodian
