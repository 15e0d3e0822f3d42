import InfoVulcan.Custodian.Lifecycle
import InfoVulcan.Custodian.TicketEffects

/-!
# Validity of stored tickets

`Ticket.validate` couples the status of a ticket with its next action and its resolution, but no
handler calls it. A request writes at most one ticket (`TicketStore.Writes`), and whatever is stored
after it was stored before or is that ticket. A creation writes an open ticket with nothing
scheduled, which is not valid. An update writes a valid ticket exactly when the request and the
stored ticket together supply what the status requires.
-/

namespace InfoVulcan

variable [Chrono]

/-- The ticket is valid, and has a resolution other than none where its status requires one. -/
structure Ticket.Sound (ticket : Ticket) : Prop where
  validated : ticket.validate = .ok ()
  resolved : ticket.status.requiresResolution → ticket.resolution ≠ some .none

/-- A ticket is sound when it has what its status requires. -/
theorem Ticket.sound_iff {ticket : Ticket} :
    ticket.Sound ↔
      (ticket.status.requiresResolution → ∃ r, ticket.resolution = some r ∧ r ≠ .none) ∧
      (ticket.status.requiresNextAction → ticket.nextAction.isNone = false) := by
  constructor
  case mp =>
    intro h
    have hvalid := h.validated
    unfold Ticket.validate at hvalid
    split at hvalid
    · cases hvalid
    next hresolution =>
      split at hvalid
      · cases hvalid
      next hnextAction =>
        refine ⟨fun hrequired => ?_, fun hrequired => by simpa [hrequired] using hnextAction⟩
        cases hr : ticket.resolution with
        | none => simp [hrequired, hr] at hresolution
        | some r => exact ⟨r, rfl, fun hnone => h.resolved hrequired (by rw [hr, hnone])⟩
  case mpr =>
    rintro ⟨hresolution, hnextAction⟩
    refine ⟨?_, fun hrequired hnone => ?_⟩
    · unfold Ticket.validate
      rw [if_neg, if_neg]
      · intro hmissing
        rw [Bool.and_eq_true] at hmissing
        rw [hnextAction hmissing.1] at hmissing
        cases hmissing.2
      · intro hmissing
        rw [Bool.and_eq_true] at hmissing
        obtain ⟨r, hr, -⟩ := hresolution hmissing.1
        rw [hr] at hmissing
        cases hmissing.2
    · obtain ⟨r, hr, hne⟩ := hresolution hrequired
      exact hne (Option.some.inj (hr.symm.trans hnone))

/-- A ticket that has just been made is not valid: it is open and nothing is scheduled. -/
theorem Ticket.not_sound_of_open {ticket : Ticket} (hopen : ticket.status = .open)
    (hnone : ticket.nextAction = .none) : ¬ ticket.Sound := by
  intro h
  have hscheduled := (Ticket.sound_iff.mp h).2 (by rw [hopen]; rfl)
  rw [hnone] at hscheduled
  cases hscheduled

end InfoVulcan

namespace InfoVulcan.Custodian

open Db (LogEntry tickets)

variable [Chrono]

/-! ## What an update supplies -/

/-- The status a ticket has after an update. -/
def requestedStatus (req : UpdateTicketRequest) (old : Ticket) : TicketStatus :=
  (req.status.map fun v => TicketStatus.fromU8 (enumByte v)).getD old.status

/-- What the status after an update requires is set by the request, or kept from the stored ticket
when the request does not set it. -/
structure Supplies (req : UpdateTicketRequest) (old : Ticket) : Prop where
  resolution : (requestedStatus req old).requiresResolution →
    match req.resolution with
    | some v => Resolution.fromU8 (enumByte v) ≠ .none
    | none => ∃ r, old.resolution = some r ∧ r ≠ .none
  nextAction : (requestedStatus req old).requiresNextAction →
    match req.nextAction with
    | some message => message.kind.isSome
    | none => old.nextAction.isNone = false

/-- Only an empty message asks for nothing to be scheduled. -/
theorem isNone_protoToNextAction (message : NextActionMessage) :
    (protoToNextAction message).isNone = message.kind.isNone := by
  unfold protoToNextAction
  split <;> simp_all [NextAction.isNone]

/-- The ticket after an update is sound exactly when what its status requires is supplied. -/
theorem sound_applyUpdates_iff [UuidParser] {req : UpdateTicketRequest} {old updated : Ticket}
    (h : CustodianServiceImpl.applyUpdates req old = .ok updated) (updater : Uuid)
    (updatedAt : Chrono.DateTime) :
    { updated with updatedBy := updater, updatedAt := updatedAt }.Sound ↔ Supplies req old := by
  obtain ⟨rfl, -⟩ := applyUpdates_eq h
  rw [Ticket.sound_iff]
  constructor
  case mp =>
    rintro ⟨hresolution, hnextAction⟩
    refine ⟨fun hrequired => ?_, fun hrequired => ?_⟩
    · obtain ⟨r, hr, hne⟩ := hresolution hrequired
      cases hasked : req.resolution with
      | none => exact ⟨r, by simpa [hasked] using hr, hne⟩
      | some v =>
          obtain rfl : Resolution.fromU8 (enumByte v) = r := by simpa [hasked] using hr
          exact hne
    · have hscheduled := hnextAction hrequired
      cases hasked : req.nextAction with
      | none => simpa [hasked] using hscheduled
      | some message => simpa [hasked, isNone_protoToNextAction] using hscheduled
  case mpr =>
    intro hsupplies
    refine ⟨fun hrequired => ?_, fun hrequired => ?_⟩
    · have hresolution := hsupplies.resolution hrequired
      cases hasked : req.resolution with
      | none => simpa [hasked] using hresolution
      | some v =>
          exact ⟨Resolution.fromU8 (enumByte v), by simp, by simpa [hasked] using hresolution⟩
    · have hnextAction := hsupplies.nextAction hrequired
      cases hasked : req.nextAction with
      | none => simpa [hasked] using hnextAction
      | some message => simpa [hasked, isNone_protoToNextAction] using hnextAction

/-! ## What a request writes -/

variable [Primitives] [LockFormat] [TicketFormat] [UuidParser] [Db.RowFormat] [FailureText]

namespace TicketStore

/-- The message of the ticket a request is answered with. -/
def answer (service : CustodianServiceImpl) (s : TicketStore) : TicketRequest → Option TicketMessage
  | .create now nowMillis entropy req =>
      (service.createTicket s.db now nowMillis entropy req).1.toOption
  | .update now updatedAt entropy req =>
      (service.updateTicket s.locks s.db now updatedAt entropy req).1.toOption
  | .softDelete .. | .lock .. => none

/-- The body of a ticket that a request writes to the DB is the one stored under the id of the
answer. -/
def Writes (service : CustodianServiceImpl) (s : TicketStore) (r : TicketRequest)
    (ticket : Ticket) : Prop :=
  service.dbClient = true ∧ ∃ message, s.answer service r = some message ∧
    Stores service (s.serve service r).db message.ticketId ticket

/-- Every ticket that one of the requests writes is sound. -/
def PersistsSound (service : CustodianServiceImpl) (s : TicketStore)
    (requests : List TicketRequest) : Prop :=
  ∀ pre r, pre ++ [r] <+: requests → ∀ ticket,
    (s.serveAll service pre).Writes service r ticket → ticket.Sound

/-- A request that is answered with a ticket is no creation, and supplies what the status
requires. -/
def Couples (service : CustodianServiceImpl) (s : TicketStore) (r : TicketRequest) : Prop :=
  service.dbClient = true → (s.answer service r).isSome →
    match r with
    | .create .. => False
    | .update _ _ _ req => ∀ old, Stores service s.db req.ticketId old → Supplies req old
    | .softDelete .. | .lock .. => True

end TicketStore

section Writing

variable {service : CustodianServiceImpl} {s : TicketStore}

omit [Primitives] [LockFormat] [TicketFormat] [Db.RowFormat] [FailureText] in
/-- Nothing is scheduled for a new ticket. -/
theorem newTicket_nextAction {req : CreateTicketRequest} {now : Chrono.DateTime} {ticket : Ticket}
    (h : CustodianServiceImpl.newTicket req now = .ok ticket) : ticket.nextAction = .none := by
  simp only [CustodianServiceImpl.newTicket] at h
  split at h
  · cases h
  split at h
  · cases h
  split at h
  · cases h
  · cases h
    rfl

omit [LockFormat] [UuidParser] [FailureText] in
/-- A stored ticket has the id it is stored under. -/
theorem Stores.ticketId_eq {db : Sled} {ticketId : UInt64} {ticket : Ticket}
    (h : Stores service db ticketId ticket) : ticket.ticketId = ticketId := by
  obtain ⟨record, hget, hread⟩ := h
  obtain ⟨bytes, row, -, -, -, rfl⟩ := Db.DatabaseService.getTicket_eq_ok.mp hget
  exact service.decryptTicket_ticketId hread

omit [LockFormat] [UuidParser] [FailureText] in
/-- What is stored depends on what a read returns. -/
theorem Stores.of_getTicket {db db' : Sled} {ticketId : UInt64} {ticket : Ticket}
    (h : Stores service db' ticketId ticket)
    (hget : Db.DatabaseService.getTicket db' ticketId false =
      Db.DatabaseService.getTicket db ticketId false) : Stores service db ticketId ticket := by
  obtain ⟨record, hrecord, hread⟩ := h
  exact ⟨record, hget.symm.trans hrecord, hread⟩

/-- A creation that is answered writes an open ticket with nothing scheduled, if there is a DB. -/
theorem writes_create {now : Chrono.DateTime} {nowMillis : Int64} {entropy : Primitives.Entropy}
    {req : CreateTicketRequest} (hclient : service.dbClient = true)
    (hanswer : (s.answer service (.create now nowMillis entropy req)).isSome) :
    ∃ ticket, s.Writes service (.create now nowMillis entropy req) ticket ∧
      ticket.status = .open ∧ ticket.nextAction = .none := by
  rcases createTicket_cases_of_stored service s.db now nowMillis entropy req with
    ⟨status, herror⟩ | ⟨ticket, ticketId, db', hticket, hstored, -, hok⟩
  · simp only [TicketStore.answer, herror] at hanswer
    cases hanswer
  · have hanswer' : s.answer service (.create now nowMillis entropy req) =
        some (domainToProto { ticket with ticketId }) := by
      simp only [TicketStore.answer, hok]
      rfl
    have hdb : (s.serve service (.create now nowMillis entropy req)).db = db' := by
      simp only [TicketStore.serve, hok]
    have hopen : ticket.status = .open := newTicket_status hticket
    have hnone : ticket.nextAction = .none := newTicket_nextAction hticket
    refine ⟨{ ticket with ticketId }, ⟨hclient, _, hanswer', ?_⟩, hopen, hnone⟩
    rw [hdb]
    exact hstored hclient

/-- An update that is answered writes the stored ticket with the requested changes. -/
theorem writes_update {now updatedAt : Chrono.DateTime} {entropy : Primitives.Entropy}
    {req : UpdateTicketRequest} (hclient : service.dbClient = true)
    (hanswer : (s.answer service (.update now updatedAt entropy req)).isSome) :
    ∃ old ticket, Stores service s.db req.ticketId old ∧
      s.Writes service (.update now updatedAt entropy req) ticket ∧
      (ticket.Sound ↔ Supplies req old) := by
  rcases updateTicket_cases_of_stored service s.locks s.db now updatedAt entropy req with
    ⟨stop, herror⟩ | ⟨updater, old, updated, db', -, hupdated, hold, hnew, -, hok⟩
  · simp only [TicketStore.answer, herror] at hanswer
    cases hanswer
  · have hanswer' : s.answer service (.update now updatedAt entropy req) =
        some (domainToProto { updated with updatedBy := updater, updatedAt }) := by
      simp only [TicketStore.answer, hok]
      rfl
    have hdb : (s.serve service (.update now updatedAt entropy req)).db = db' := by
      simp only [TicketStore.serve, hok]
    have hid : updated.ticketId = req.ticketId := hnew.ticketId_eq
    refine ⟨old, _, hold, ⟨hclient, _, hanswer', ?_⟩,
      sound_applyUpdates_iff hupdated updater updatedAt⟩
    have hstored := hnew
    rw [← hid] at hstored
    rw [hdb]
    exact hstored

/-- A request writes one ticket. -/
theorem TicketStore.Writes.unique {r : TicketRequest}
    {ticket other : Ticket} (h : s.Writes service r ticket) (hother : s.Writes service r other) :
    ticket = other := by
  obtain ⟨-, message, hmessage, hstored⟩ := h
  obtain ⟨-, message', hmessage', hstored'⟩ := hother
  obtain rfl : message = message' := Option.some.inj (hmessage.symm.trans hmessage')
  exact hstored.unique hstored'

/-- What a request writes is sound exactly when it keeps status, next action and resolution
coupled. -/
theorem writes_sound_iff (r : TicketRequest) :
    (∀ ticket, s.Writes service r ticket → ticket.Sound) ↔ s.Couples service r := by
  constructor
  case mp =>
    intro hsound hclient hanswer
    cases r with
    | create now nowMillis entropy req =>
        obtain ⟨ticket, hwrites, hopen, hnone⟩ := writes_create hclient hanswer
        exact Ticket.not_sound_of_open hopen hnone (hsound ticket hwrites)
    | update now updatedAt entropy req =>
        obtain ⟨old, ticket, hold, hwrites, hiff⟩ := writes_update hclient hanswer
        intro old' hold'
        obtain rfl := hold.unique hold'
        exact hiff.mp (hsound ticket hwrites)
    | softDelete => trivial
    | lock => trivial
  case mpr =>
    intro hcouples ticket hwrites
    obtain ⟨hclient, message, hmessage, -⟩ := id hwrites
    have hanswer : (s.answer service r).isSome := by
      rw [hmessage]
      rfl
    have hcoupled := hcouples hclient hanswer
    cases r with
    | create => exact hcoupled.elim
    | update now updatedAt entropy req =>
        obtain ⟨old, ticket', hold, hwrites', hiff⟩ := writes_update hclient hanswer
        obtain rfl := hwrites.unique hwrites'
        exact hiff.mpr (hcoupled old hold)
    | softDelete => cases hmessage
    | lock => cases hmessage

/-- A ticket that is stored after a request was stored before, or the request has written it. -/
theorem stored_before_or_written {r : TicketRequest} {id : UInt64} {ticket : Ticket}
    (h : Stores service (s.serve service r).db id ticket) :
    Stores service s.db id ticket ∨ s.Writes service r ticket := by
  cases r with
  | create now nowMillis entropy req =>
      rcases createTicket_cases_of_stored service s.db now nowMillis entropy req with
        ⟨status, herror⟩ | ⟨new, ticketId, db', -, -, hother, hok⟩
      · simp only [TicketStore.serve, herror] at h
        exact .inl h
      · by_cases hid : service.dbClient = true ∧ id = ticketId
        · obtain ⟨hclient, rfl⟩ := hid
          refine .inr ⟨hclient, domainToProto { new with ticketId := id }, ?_, h⟩
          simp only [TicketStore.answer, hok]
          rfl
        · simp only [TicketStore.serve, hok] at h
          exact .inl (h.of_getTicket (hother id fun hclient hsame => hid ⟨hclient, hsame⟩))
  | update now updatedAt entropy req =>
      rcases updateTicket_cases_of_stored service s.locks s.db now updatedAt entropy req with
        ⟨stop, herror⟩ | ⟨updater, old, updated, db', -, -, -, hnew, hother, hok⟩
      · simp only [TicketStore.serve, herror] at h
        exact .inl h
      · by_cases hid : id = req.ticketId
        · have hupdated : updated.ticketId = id := hnew.ticketId_eq.trans hid.symm
          subst hupdated
          refine .inr ⟨dbClient_of_accepted hok,
            domainToProto { updated with updatedBy := updater, updatedAt }, ?_, h⟩
          simp only [TicketStore.answer, hok]
          rfl
        · simp only [TicketStore.serve, hok] at h
          exact .inl (h.of_getTicket (hother id hid))
  | softDelete ticketId now =>
      obtain ⟨record, hget, hread⟩ := h
      exact .inl ⟨record, Db.DatabaseService.getTicket_of_softDeleteTicket hget, hread⟩
  | lock command => exact .inl h

/-- Every ticket that requests write is sound exactly when no creation is answered by a service
with a DB, and every update that is answered supplies what the status requires. -/
theorem persisted_tickets_sound_iff (service : CustodianServiceImpl) (s : TicketStore)
    (requests : List TicketRequest) :
    s.PersistsSound service requests ↔
      ∀ pre r, pre ++ [r] <+: requests → (s.serveAll service pre).Couples service r :=
  forall_congr' fun _ => forall_congr' fun r => forall_congr' fun _ => writes_sound_iff r

/-- As long as every request keeps status, next action and resolution coupled, every ticket that
is stored is sound if it was at the start. -/
theorem stored_tickets_sound {requests : List TicketRequest}
    (hstart : ∀ id ticket, Stores service s.db id ticket → ticket.Sound)
    (hcouples : ∀ pre r, pre ++ [r] <+: requests → (s.serveAll service pre).Couples service r) :
    ∀ id ticket, Stores service (s.serveAll service requests).db id ticket → ticket.Sound := by
  induction requests using List.reverseRecOn with
  | nil => exact hstart
  | append_singleton requests r ih =>
      intro id ticket hstored
      rw [TicketStore.serveAll, List.foldl_concat] at hstored
      rcases stored_before_or_written hstored with hbefore | hwrites
      · exact ih (fun pre d hpre => hcouples pre d (hpre.trans (List.prefix_append _ _))) id ticket
          hbefore
      · exact (writes_sound_iff r).mpr (hcouples requests r List.prefix_rfl) ticket hwrites

end Writing

end InfoVulcan.Custodian

/-! ## A run on the JSON formats -/

namespace InfoVulcan.Custodian

open scoped SerdeJson
open SerdeJson

/-- A single creation stores a ticket that is not valid. -/
theorem created_ticket_invalid :
    ¬ TicketStore.PersistsSound custodian ⟨Keyspace.empty, Keyspace.empty⟩ [creation] := by
  intro h
  have hclient : custodian.dbClient = true := rfl
  have hanswer :
      (TicketStore.answer custodian ⟨Keyspace.empty, Keyspace.empty⟩ creation).isSome := by
    simp [TicketStore.answer, creation, CustodianServiceImpl.createTicket,
      newTicket_creationRequest, encryptTicket_eq, hclient, Db.DatabaseService.createTicket_eq,
      Except.toOption]
  obtain ⟨ticket, hwrites, hopen, hnone⟩ := writes_create hclient hanswer
  exact Ticket.not_sound_of_open hopen hnone (h [] creation List.prefix_rfl ticket hwrites)

end InfoVulcan.Custodian
