import InfoVulcan.Custodian.Server

/-!
# What one ticket update changes

The fields a request can set (`Field`), and what each step of an update does: the row computed from
a record is the ticket in it with the requested fields set, but for three that are never read, and
writing it replaces the row of that ticket and no other.
-/

namespace InfoVulcan.Custodian

open Db (TicketRecord)

variable [Chrono]

/-! ## Fields of a request -/

/-- A field that a request can set. -/
inductive Field where
  | title
  | project
  | symptom
  | priority
  | status
  | nextAction
  | resolution
  | assignedTo
  | ebond
  | trackingUrl
  | networkDevices
  deriving DecidableEq, Repr

namespace Field

/-- The values of a field. -/
def Value : Field → Type
  | title | project => String
  | symptom => Symptom
  | priority => TicketPriority
  | status => TicketStatus
  | nextAction => NextAction
  | resolution => Option Resolution
  | assignedTo => Option Uuid
  | ebond | trackingUrl => Option String
  | networkDevices => List NetworkDeviceMessage

/-- The value of a field in a ticket. Network devices are compared as they are shown. -/
def get (ticket : Ticket) : (f : Field) → f.Value
  | title => ticket.title
  | project => ticket.project
  | symptom => ticket.symptom
  | priority => ticket.priority
  | status => ticket.status
  | nextAction => ticket.nextAction
  | resolution => ticket.resolution
  | assignedTo => ticket.assignedTo
  | ebond => ticket.ebond
  | trackingUrl => ticket.trackingUrl
  | networkDevices => ticket.networkDevices.map mapNetworkDevice

/-- The value a request sets a field to, if it sets it. A request without network devices does not
set them. -/
def asked [UuidParser] (req : UpdateTicketRequest) : (f : Field) → Option f.Value
  | title => req.title
  | project => req.project
  | symptom => req.symptom.map fun v => Symptom.fromU8 (enumByte v)
  | priority => req.priority.map fun v => TicketPriority.fromU8 (enumByte v)
  | status => req.status.map fun v => TicketStatus.fromU8 (enumByte v)
  | nextAction => req.nextAction.map protoToNextAction
  | resolution => req.resolution.map fun v => some (Resolution.fromU8 (enumByte v))
  | assignedTo => req.assignedToUuid.map UuidParser.parseStr
  | ebond => req.ebond.map some
  | trackingUrl => req.trackingUrl.map some
  | networkDevices => if req.networkDevices = [] then none else some req.networkDevices

/-- The fields that `update_ticket` reads from a request. Whatever a request sets the others to, it
is answered and the ticket keeps what it has. -/
def taken : Field → Bool
  | ebond | trackingUrl | networkDevices => false
  | _ => true

/-- The value an update sets a field to, if it sets it. -/
def applied [UuidParser] (req : UpdateTicketRequest) (f : Field) : Option f.Value :=
  if f.taken then f.asked req else none

/-- A field that is not asked for is not set. -/
theorem applied_of_asked_eq_none [UuidParser] {req : UpdateTicketRequest} {f : Field}
    (h : f.asked req = none) : f.applied req = none := by
  rw [applied, h, ite_self]

end Field

section Computing

variable [UuidParser] {req : UpdateTicketRequest} {ticket ticket' : Ticket}

omit [UuidParser] in
/-- Changing the status changes nothing else. -/
theorem applyStatus_eq {status : Option Int32}
    (h : CustodianServiceImpl.applyStatus ticket status = .ok ticket') :
    ticket' = { ticket with
      status := (status.map fun v => TicketStatus.fromU8 (enumByte v)).getD ticket.status } := by
  cases status with
  | none =>
      cases h
      rfl
  | some v =>
      simp only [CustodianServiceImpl.applyStatus] at h
      split at h
      · cases h
        rfl
      · cases h

/-- Changing the assignee changes nothing else. -/
theorem applyAssigned_eq {assigned : Option String}
    (h : CustodianServiceImpl.applyAssigned ticket assigned = .ok ticket') :
    ticket' = { ticket with
      assignedTo := (assigned.map UuidParser.parseStr).getD ticket.assignedTo } := by
  cases assigned with
  | none =>
      cases h
      rfl
  | some text =>
      simp only [CustodianServiceImpl.applyAssigned] at h
      split at h
      · next uuid huuid =>
          cases h
          simp [huuid]
      · cases h

/-- An accepted request sets the fields that are read from it and keeps the others. -/
theorem applyUpdates_get (h : CustodianServiceImpl.applyUpdates req ticket = .ok ticket')
    (f : Field) : f.get ticket' = (f.applied req).getD (f.get ticket) := by
  simp only [CustodianServiceImpl.applyUpdates] at h
  split at h
  · cases h
  next hstatus =>
    rw [applyAssigned_eq h, applyStatus_eq hstatus]
    cases f <;> rfl

omit [UuidParser] in
/-- A status that is accepted is the one there was, or one the lifecycle allows. -/
theorem applyStatus_allowed {status : Option Int32}
    (h : CustodianServiceImpl.applyStatus ticket status = .ok ticket') :
    ticket'.status = ticket.status ∨ ticket'.status ∈ ticket.status.allowedTransitions := by
  cases status with
  | none =>
      cases h
      exact .inl rfl
  | some v =>
      simp only [CustodianServiceImpl.applyStatus] at h
      split at h
      next hcan =>
        cases h
        exact TicketStatus.canTransitionTo_iff.mp hcan
      · cases h

/-- The status after an update is the one there was, or one the lifecycle allows. -/
theorem applyUpdates_allowed (h : CustodianServiceImpl.applyUpdates req ticket = .ok ticket') :
    ticket'.status = ticket.status ∨ ticket'.status ∈ ticket.status.allowedTransitions := by
  simp only [CustodianServiceImpl.applyUpdates] at h
  split at h
  · cases h
  next hstatus =>
    have hallowed := applyStatus_allowed hstatus
    rw [applyAssigned_eq h]
    exact hallowed

/-- An update keeps the id of the ticket. -/
theorem applyUpdates_ticketId (h : CustodianServiceImpl.applyUpdates req ticket = .ok ticket') :
    ticket'.ticketId = ticket.ticketId := by
  simp only [CustodianServiceImpl.applyUpdates] at h
  split at h
  · cases h
  next hstatus => rw [applyAssigned_eq h, applyStatus_eq hstatus]

end Computing

/-! ## Steps of a call -/

section Steps

variable [Primitives] [TicketFormat] [UuidParser] {service : CustodianServiceImpl}

/-- What was written was computed from the record for the request. -/
def ComputedFrom (service : CustodianServiceImpl) (req : UpdateTicketRequest)
    (base : TicketRecord) (write : CustodianServiceImpl.PreparedWrite) : Prop :=
  ∃ updater updatedAt entropy,
    service.prepareUpdate req updater updatedAt entropy base = .ok write

/-- The record holds the ticket. -/
def Reads (service : CustodianServiceImpl) (record : TicketRecord) (ticket : Ticket) : Prop :=
  service.decryptTicket record.ticketId record.encryptedBody = .ok ticket

/-- The new row of a record that holds a ticket. -/
theorem prepareUpdate_eq_ok {req : UpdateTicketRequest} {updater : Uuid}
    {now : Chrono.DateTime} {entropy : Primitives.Entropy} {record : TicketRecord}
    {ticket updated : Ticket} {body : Bytes} (hread : Reads service record ticket)
    (hupdated : CustodianServiceImpl.applyUpdates req ticket = .ok updated)
    (hbody : service.encryptTicket { updated with updatedBy := updater, updatedAt := now } entropy =
      .ok body) :
    service.prepareUpdate req updater now entropy record =
      .ok ⟨{ updated with updatedBy := updater, updatedAt := now }, body,
        ticketIndex { updated with updatedBy := updater, updatedAt := now }⟩ := by
  rw [Reads] at hread
  simp only [CustodianServiceImpl.prepareUpdate, hread, hupdated, hbody]

/-- What a new row was computed from: the ticket in the record, with the requested changes. -/
theorem prepareUpdate_inv {req : UpdateTicketRequest} {updater : Uuid} {now : Chrono.DateTime}
    {entropy : Primitives.Entropy} {record : TicketRecord}
    {write : CustodianServiceImpl.PreparedWrite}
    (h : service.prepareUpdate req updater now entropy record = .ok write) :
    ∃ ticket updated, Reads service record ticket ∧
      CustodianServiceImpl.applyUpdates req ticket = .ok updated ∧
      write.ticket = { updated with updatedBy := updater, updatedAt := now } ∧
      service.encryptTicket write.ticket entropy = .ok write.body ∧
      write.index = ticketIndex write.ticket := by
  simp only [CustodianServiceImpl.prepareUpdate] at h
  split at h
  · cases h
  next ticket hread =>
    split at h
    · cases h
    next updated hupdated =>
      split at h
      · cases h
      next body hbody =>
        cases h
        exact ⟨ticket, updated, hread, hupdated, rfl, hbody, rfl⟩

/-- The body of a new row reads back under the id of the record. -/
theorem decryptTicket_prepareUpdate {req : UpdateTicketRequest} {updater : Uuid}
    {now : Chrono.DateTime} {entropy : Primitives.Entropy} {record : TicketRecord}
    {write : CustodianServiceImpl.PreparedWrite}
    (h : service.prepareUpdate req updater now entropy record = .ok write) :
    service.decryptTicket record.ticketId write.body = .ok write.ticket := by
  obtain ⟨ticket, updated, hread, hupdated, hticket, hbody, -⟩ := prepareUpdate_inv h
  have hid : write.ticket.ticketId = record.ticketId := by
    rw [hticket]
    exact (applyUpdates_ticketId hupdated).trans (service.decryptTicket_ticketId hread)
  rw [service.decryptTicket_encryptTicket hbody, ← hid]

/-- The record with the new body holds the ticket written. -/
theorem reads_prepareUpdate {req : UpdateTicketRequest} {updater : Uuid}
    {now : Chrono.DateTime} {entropy : Primitives.Entropy} {record : TicketRecord}
    {write : CustodianServiceImpl.PreparedWrite}
    (h : service.prepareUpdate req updater now entropy record = .ok write) :
    Reads service { record with encryptedBody := write.body } write.ticket := by
  have hbody := decryptTicket_prepareUpdate h
  exact hbody

/-- What was written is the ticket in the record with the fields set that are read from the request,
and its body reads back. -/
theorem ComputedFrom.spec {req : UpdateTicketRequest} {base : TicketRecord}
    {write : CustodianServiceImpl.PreparedWrite} (h : ComputedFrom service req base write) :
    ∃ ticket, Reads service base ticket ∧
      (∀ f : Field, f.get write.ticket = (f.applied req).getD (f.get ticket)) ∧
      service.decryptTicket base.ticketId write.body = .ok write.ticket := by
  obtain ⟨updater, updatedAt, entropy, h⟩ := h
  obtain ⟨ticket, updated, hread, hupdated, hticket, -⟩ := prepareUpdate_inv h
  refine ⟨ticket, hread, fun f => ?_, decryptTicket_prepareUpdate h⟩
  rw [← applyUpdates_get hupdated f, hticket]
  cases f <;> rfl

variable [Db.RowFormat] [FailureText]

omit [Chrono] [TicketFormat] [UuidParser] in
/-- A record that was fetched is the one a read of the DB returns. -/
theorem fetchRecord_eq_ok {db : Sled} {ticketId : UInt64} {record : TicketRecord}
    (h : service.fetchRecord db ticketId = .ok record) :
    Db.DatabaseService.getTicket db ticketId false = .ok record := by
  simp only [CustodianServiceImpl.fetchRecord] at h
  split at h
  · split at h
    · next hget =>
        cases h
        exact hget
    · split at h <;> cases h
  · cases h

omit [Primitives] [TicketFormat] [UuidParser] in
/-- A write leaves the DB as the update there does. -/
theorem writeTicket_db (db : Sled) (ticketId : UInt64)
    (write : CustodianServiceImpl.PreparedWrite) :
    (CustodianServiceImpl.writeTicket db ticketId write).2 =
      (Db.DatabaseService.updateTicket db ticketId write.body write.index).2 := by
  unfold CustodianServiceImpl.writeTicket
  split <;> simp_all

/-- A request whose new row can be computed leaves the DB as the write does. -/
theorem updateTicket_db_of_prepared [LockFormat] {locks db : Sled} {now updatedAt : Chrono.DateTime}
    {entropy : Primitives.Entropy} {req : UpdateTicketRequest} {updater : Uuid}
    {record : TicketRecord} {write : CustodianServiceImpl.PreparedWrite}
    (hlock : CustodianServiceImpl.checkLock locks now req = .ok updater)
    (hfetch : service.fetchRecord db req.ticketId = .ok record)
    (hprepare : service.prepareUpdate req updater updatedAt entropy record = .ok write) :
    (service.updateTicket locks db now updatedAt entropy req).2 =
      (CustodianServiceImpl.writeTicket db req.ticketId write).2 := by
  simp only [CustodianServiceImpl.updateTicket, hlock, hfetch, hprepare]
  split <;> simp_all

/-- A request that fails before its write leaves the DB alone. -/
theorem updateTicket_db [LockFormat] (service : CustodianServiceImpl) (locks db : Sled)
    (now updatedAt : Chrono.DateTime) (entropy : Primitives.Entropy) (req : UpdateTicketRequest) :
    (service.updateTicket locks db now updatedAt entropy req).2 = db ∨
      ∃ updater record write, service.fetchRecord db req.ticketId = .ok record ∧
        service.prepareUpdate req updater updatedAt entropy record = .ok write ∧
        (service.updateTicket locks db now updatedAt entropy req).2 =
          (CustodianServiceImpl.writeTicket db req.ticketId write).2 := by
  cases hlock : CustodianServiceImpl.checkLock locks now req with
  | error status => exact .inl (by simp [CustodianServiceImpl.updateTicket, hlock])
  | ok updater =>
      cases hfetch : service.fetchRecord db req.ticketId with
      | error status => exact .inl (by simp [CustodianServiceImpl.updateTicket, hlock, hfetch])
      | ok record =>
          cases hprepare : service.prepareUpdate req updater updatedAt entropy record with
          | error stop =>
              exact .inl (by simp [CustodianServiceImpl.updateTicket, hlock, hfetch, hprepare])
          | ok write =>
              exact .inr ⟨updater, record, write, rfl, hprepare,
                updateTicket_db_of_prepared hlock hfetch hprepare⟩

omit [Primitives] [TicketFormat] [UuidParser] in
/-- A write for the id zero is turned down. -/
theorem writeTicket_zero (db : Sled) (write : CustodianServiceImpl.PreparedWrite) :
    ∃ status, CustodianServiceImpl.writeTicket db 0 write = (.error status, db) := by
  simp [CustodianServiceImpl.writeTicket, Db.DatabaseService.updateTicket]

omit [Primitives] [TicketFormat] [UuidParser] in
/-- A write of a ticket that can be read succeeds. A read then returns the body written, and every
other ticket is as it was. -/
theorem writeTicket_spec {db : Sled} {ticketId : UInt64} {record : TicketRecord}
    (h : Db.DatabaseService.getTicket db ticketId false = .ok record) (hid : ticketId ≠ 0)
    (write : CustodianServiceImpl.PreparedWrite) :
    ∃ db', CustodianServiceImpl.writeTicket db ticketId write =
        (.ok (domainToProto write.ticket), db') ∧
      Db.DatabaseService.getTicket db' ticketId false =
        .ok { record with encryptedBody := write.body } ∧
      ∀ j, j ≠ ticketId →
        Db.DatabaseService.getTicket db' j false = Db.DatabaseService.getTicket db j false := by
  obtain ⟨db', hupdate, hread, hother⟩ :=
    Db.DatabaseService.updateTicket_of_getTicket h hid write.body write.index
  exact ⟨db', by simp [CustodianServiceImpl.writeTicket, hupdate], hread, hother⟩

end Steps

end InfoVulcan.Custodian
