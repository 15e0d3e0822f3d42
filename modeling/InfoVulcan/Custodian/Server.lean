import InfoVulcan.Custodian.Storage
import InfoVulcan.Db.Server
import InfoVulcan.Shared.Encryption
import InfoVulcan.Shared.Ticket

/-!
# The ticket handlers of the custodian

A ticket body is stored encrypted in the DB, next to plaintext index fields. Updating a ticket
takes three steps with nothing between them that would keep others out: the lock of the ticket is
checked (`checkLock`), the record is fetched from the DB (`fetchRecord`) and the new body computed
from it (`prepareUpdate`), and the new row is written (`writeTicket`).
-/

namespace InfoVulcan.Custodian

/-! ## Messages -/

/-- The scheduling data of a next action. -/
inductive NextActionKind where
  | followUp (time : Timestamp)
  | appointment (time : Timestamp)
  | autoClose (schedule : Int32)
  deriving DecidableEq

/-- The message of a next action. -/
structure NextActionMessage where
  kind : Option NextActionKind
  deriving DecidableEq

/-- The message of a network device. -/
structure NetworkDeviceMessage where
  deviceType : Option NetworkDevice
  deriving DecidableEq

/-- The message of a history entry. -/
structure HistoryEntryMessage where
  userUuid : String
  timestamp : Option Timestamp
  action : String
  details : String
  deriving DecidableEq

/-- A request to create a ticket. Its network devices are not read. -/
structure CreateTicketRequest where
  title : String
  project : String
  accountUuid : String
  symptom : Int32
  priority : Int32
  createdByUuid : String
  customerTicketNumber : Option String
  ispTicketNumber : Option String
  otherTicketNumber : Option String
  ebond : Option String
  trackingUrl : Option String
  networkDevices : List NetworkDeviceMessage
  deriving DecidableEq

/-- A request for the tickets that pass the filters it sets. A limit of `0` means unlimited. -/
structure QueryTicketsRequest where
  status : Option UInt32
  assignedToUuid : Option String
  accountUuid : Option String
  project : Option String
  includeDeleted : Bool
  limit : UInt32
  deriving DecidableEq

/-- A request to change the fields it sets. -/
structure UpdateTicketRequest where
  ticketId : UInt64
  title : Option String
  project : Option String
  symptom : Option Int32
  priority : Option Int32
  status : Option Int32
  nextAction : Option NextActionMessage
  resolution : Option Int32
  assignedToUuid : Option String
  updatedByUuid : Option String
  ebond : Option String
  trackingUrl : Option String
  networkDevices : List NetworkDeviceMessage
  deriving DecidableEq

/-- The message of a ticket. -/
structure TicketMessage where
  ticketId : UInt64
  customerTicketNumber : Option String
  ispTicketNumber : Option String
  otherTicketNumber : Option String
  title : String
  project : String
  accountUuid : String
  symptom : Int32
  priority : Int32
  status : Int32
  nextAction : Option NextActionMessage
  resolution : Option Int32
  lockedByUuid : Option String
  assignedToUuid : Option String
  createdByUuid : String
  createdAt : Option Timestamp
  updatedByUuid : String
  updatedAt : Option Timestamp
  history : List HistoryEntryMessage
  ebond : Option String
  trackingUrl : Option String
  networkDevices : List NetworkDeviceMessage
  schemaVersion : UInt32
  deriving DecidableEq

/-! ## Conversions -/

/-- The byte of an enumeration value received in a message. A value that does not fit counts as
zero. -/
def enumByte (v : Int32) : UInt8 :=
  if 0 ≤ v.toInt ∧ v.toInt < 256 then UInt8.ofNat v.toInt.toNat else 0

/-- A discriminant as it is sent in a message. -/
def enumInt (n : UInt8) : Int32 :=
  Int32.ofInt n.toNat

def autoCloseToProto : AutoCloseSchedule → Int32
  | .endOfDay => 1
  | .hours24 => 2
  | .hours48 => 3
  | .hours72 => 4

/-- The schedule of a message. An unspecified or unknown one is the end of the day. -/
def protoToAutoClose (value : Int32) : AutoCloseSchedule :=
  match value.toInt with
  | 2 => .hours24
  | 3 => .hours48
  | 4 => .hours72
  | _ => .endOfDay

variable [Chrono]

/-- The timestamp of a message. Negative nanoseconds count as zero. -/
def protoToDt (ts : Timestamp) : Chrono.DateTime :=
  let nanos := if 0 ≤ ts.nanos.toInt then UInt32.ofNat ts.nanos.toInt.toNat else 0
  (Chrono.fromTimestamp ts.seconds nanos).getD Chrono.default

def mapNextAction : NextAction → Option NextActionMessage
  | .followUp time => some ⟨some (.followUp (Chrono.toProto time))⟩
  | .appointment time => some ⟨some (.appointment (Chrono.toProto time))⟩
  | .autoClose schedule => some ⟨some (.autoClose (autoCloseToProto schedule))⟩
  | .none => none

def protoToNextAction (message : NextActionMessage) : NextAction :=
  match message.kind with
  | some (.followUp ts) => .followUp (protoToDt ts)
  | some (.appointment ts) => .appointment (protoToDt ts)
  | some (.autoClose v) => .autoClose (protoToAutoClose v)
  | none => .none

def mapHistoryEntry (entry : HistoryEntry) : HistoryEntryMessage where
  userUuid := toString entry.userId
  timestamp := some (Chrono.toProto entry.timestamp)
  action := entry.fieldChanged
  details :=
    match entry.oldValue, entry.newValue with
    | some old, some new => s!"{entry.fieldChanged}: {old} → {new}"
    | some old, none => s!"{entry.fieldChanged}: {old} → (removed)"
    | none, some new => s!"{entry.fieldChanged}: (new) → {new}"
    | none, none => entry.fieldChanged

def mapNetworkDevice (device : NetworkDevice) : NetworkDeviceMessage :=
  ⟨some device⟩

/-- The message of a ticket. -/
def domainToProto (ticket : Ticket) : TicketMessage where
  ticketId := ticket.ticketId
  customerTicketNumber := ticket.customerTicketNumber
  ispTicketNumber := ticket.ispTicketNumber
  otherTicketNumber := ticket.otherTicketNumber
  title := ticket.title
  project := ticket.project
  accountUuid := toString ticket.accountUuid
  symptom := enumInt ticket.symptom.toU8
  priority := enumInt ticket.priority.toU8
  status := enumInt ticket.status.toU8
  nextAction := mapNextAction ticket.nextAction
  resolution := ticket.resolution.map fun r => enumInt r.toU8
  lockedByUuid := ticket.lockedBy.map toString
  assignedToUuid := ticket.assignedTo.map toString
  createdByUuid := toString ticket.createdBy
  createdAt := some (Chrono.toProto ticket.createdAt)
  updatedByUuid := toString ticket.updatedBy
  updatedAt := some (Chrono.toProto ticket.updatedAt)
  history := ticket.history.map mapHistoryEntry
  ebond := ticket.ebond
  trackingUrl := ticket.trackingUrl
  networkDevices := ticket.networkDevices.map mapNetworkDevice
  schemaVersion := ticket.schemaVersion

/-- The plaintext index fields the DB keeps of a ticket. -/
def ticketIndex (ticket : Ticket) : Db.TicketIndexMessage where
  status := ticket.status.toU8.toUInt32
  accountUuid := toString ticket.accountUuid
  assignedToUuid := ticket.assignedTo.map toString
  project := ticket.project
  trackingUrl := ticket.trackingUrl
  createdAtUnix := Chrono.timestamp ticket.createdAt
  updatedAtUnix := Chrono.timestamp ticket.updatedAt

/-! ## Encrypted bodies -/

variable [Primitives]

/-- The JSON formats of ticket bodies. -/
class TicketFormat where
  ticket : Codec Ticket
  encryptedData : Codec EncryptedData

/-- The service: its keys, and whether it has been given a connection to the DB. -/
structure CustodianServiceImpl where
  keypair : KeyPair
  dbClient : Bool

namespace CustodianServiceImpl

section Bodies

variable [TicketFormat] (service : CustodianServiceImpl)

/-- Serialises and encrypts a ticket. -/
def encryptTicket (ticket : Ticket) (entropy : Primitives.Entropy) : Except Status Bytes :=
  match EncryptionService.encryptWithPublicKey (TicketFormat.ticket.encode ticket)
      service.keypair.publicKey entropy with
  | .error e => .error (.internal s!"encryption error: {e}")
  | .ok encrypted => .ok (TicketFormat.encryptedData.encode encrypted)

/-- Decrypts and reads a ticket body. The id is the one of the DB record. -/
def decryptTicket (ticketId : UInt64) (body : Bytes) : Except (Stop Status) Ticket :=
  match TicketFormat.encryptedData.decode body with
  | .error e => .error (.error (.internal s!"deserialize encrypted data error: {e}"))
  | .ok encrypted =>
      match EncryptionService.decryptWithPrivateKey encrypted service.keypair.privateKey with
      | .error stop => .error (stop.map fun e => .internal s!"decryption error: {e}")
      | .ok decrypted =>
          match TicketFormat.ticket.decode decrypted with
          | .error e => .error (.error (.internal s!"deserialize ticket error: {e}"))
          | .ok ticket => .ok { ticket with ticketId }

/-- A body reads back as the ticket it was made from, under the id it is read for. -/
theorem decryptTicket_encryptTicket {ticket : Ticket} {entropy : Primitives.Entropy}
    {body : Bytes} (h : service.encryptTicket ticket entropy = .ok body) (ticketId : UInt64) :
    service.decryptTicket ticketId body = .ok { ticket with ticketId } := by
  rw [encryptTicket] at h
  cases hencrypted : EncryptionService.encryptWithPublicKey (TicketFormat.ticket.encode ticket)
      service.keypair.publicKey entropy with
  | error e =>
      rw [hencrypted] at h
      cases h
  | ok encrypted =>
      rw [hencrypted] at h
      cases h
      simp [decryptTicket, service.keypair.decrypt_encrypt hencrypted]

/-- A ticket is read under the id of its record. -/
theorem decryptTicket_ticketId {ticketId : UInt64} {body : Bytes} {ticket : Ticket}
    (h : service.decryptTicket ticketId body = .ok ticket) : ticket.ticketId = ticketId := by
  rw [decryptTicket] at h
  split at h
  · cases h
  split at h
  · cases h
  split at h
  · cases h
  · cases h
    rfl

end Bodies

/-! ## Reading tickets -/

/-- Fetches the record of a ticket from the DB. -/
def fetchRecord [Db.RowFormat] [FailureText] (service : CustodianServiceImpl) (db : Sled)
    (ticketId : UInt64) : Except Status Db.TicketRecord :=
  if service.dbClient then
    match Db.DatabaseService.getTicket db ticketId false with
    | .ok record => .ok record
    | .error status =>
        if status.code = .notFound then .error (.notFound "ticket not found")
        else .error (.internal s!"db get error: {FailureText.status status}")
  else .error (.unavailable "no db client configured")

/-- Reads a ticket. -/
def getTicket [TicketFormat] [Db.RowFormat] [FailureText] (service : CustodianServiceImpl)
    (db : Sled) (ticketId : UInt64) : Except (Stop Status) TicketMessage :=
  match service.fetchRecord db ticketId with
  | .error status => .error (.error status)
  | .ok record =>
      (service.decryptTicket record.ticketId record.encryptedBody).map domainToProto

/-! ## Querying tickets -/

/-- The query that is sent to the DB. -/
def ticketQuery (req : QueryTicketsRequest) : Db.TicketQueryMessage where
  status := req.status
  assignedToUuid := req.assignedToUuid
  accountUuid := req.accountUuid
  project := req.project
  includeDeleted := req.includeDeleted
  limit := req.limit

/-- Queries tickets. A single body that cannot be decrypted fails the query. -/
def queryTickets [TicketFormat] [Db.RowFormat] [FailureText] (service : CustodianServiceImpl)
    (db : Sled) (req : QueryTicketsRequest) : Except (Stop Status) (List TicketMessage) :=
  if service.dbClient then
    match Db.DatabaseService.queryTickets db (ticketQuery req) with
    | .error status =>
        .error (.error (.internal s!"db query_tickets error: {FailureText.status status}"))
    | .ok records =>
        records.mapM fun record =>
          (service.decryptTicket record.ticketId record.encryptedBody).map domainToProto
  else .error (.error (.unavailable "no db client configured"))

/-! ## Creating a ticket -/

/-- The ticket a request describes, before the DB has assigned its id. -/
def newTicket [UuidParser] (req : CreateTicketRequest) (now : Chrono.DateTime) :
    Except Status Ticket :=
  if req.title.isEmpty then .error (.invalidArgument "title is required")
  else
    match UuidParser.parseStr req.accountUuid with
    | none => .error (.invalidArgument "Invalid account UUID")
    | some accountUuid =>
        match UuidParser.parseStr req.createdByUuid with
        | none => .error (.invalidArgument "Invalid created_by UUID")
        | some createdBy =>
            let symptom := Symptom.fromU8 (enumByte req.symptom)
            let priority := TicketPriority.fromU8 (enumByte req.priority)
            .ok { Ticket.new 0 req.title req.project accountUuid symptom createdBy now with
              priority
              customerTicketNumber := req.customerTicketNumber
              ispTicketNumber := req.ispTicketNumber
              otherTicketNumber := req.otherTicketNumber
              ebond := req.ebond
              trackingUrl := req.trackingUrl }

/-- The id of a ticket that is not stored: the milliseconds of the clock, if they are not
negative. -/
def localId (nowMillis : Int64) : UInt64 :=
  if 0 ≤ nowMillis.toInt then nowMillis.toUInt64 else 0

/-- Creates a ticket. It is stored if there is a DB, which assigns its id. -/
def createTicket [TicketFormat] [UuidParser] [Db.RowFormat] [FailureText]
    (service : CustodianServiceImpl) (db : Sled) (now : Chrono.DateTime) (nowMillis : Int64)
    (entropy : Primitives.Entropy) (req : CreateTicketRequest) :
    Except Status TicketMessage × Sled :=
  match newTicket req now with
  | .error status => (.error status, db)
  | .ok ticket =>
      match service.encryptTicket ticket entropy with
      | .error status => (.error status, db)
      | .ok body =>
          if service.dbClient then
            match Db.DatabaseService.createTicket db body (some (ticketIndex ticket)) with
            | (.error status, db) =>
                (.error (.internal s!"db create_ticket error: {FailureText.status status}"), db)
            | (.ok record, db) =>
                (.ok (domainToProto { ticket with ticketId := record.ticketId }), db)
          else (.ok (domainToProto { ticket with ticketId := localId nowMillis }), db)

/-! ## Updating a ticket -/

/-- The checks before an update: the updater is named, and holds a lock on the ticket that has not
expired. -/
def checkLock [LockFormat] [UuidParser] (locks : Sled) (now : Chrono.DateTime)
    (req : UpdateTicketRequest) : Except Status Uuid :=
  match req.updatedByUuid with
  | none => .error (.invalidArgument "updated_by_uuid is required")
  | some updaterStr =>
      match UuidParser.parseStr updaterStr with
      | none => .error (.invalidArgument "Invalid updated_by_uuid")
      | some updater =>
          match getLockInfo locks req.ticketId with
          | .error e => .error (.internal s!"storage error: {e}")
          | .ok (some lock) =>
              if lock.isExpired (Chrono.timestamp now) then
                .error (.permissionDenied "ticket lock has expired")
              else if lock.userId ≠ updater then
                .error (.permissionDenied "user does not hold lock")
              else .ok updater
          | .ok none => .error (.permissionDenied "ticket is not locked")

/-- Changes the status, if the lifecycle allows it. -/
def applyStatus (ticket : Ticket) : Option Int32 → Except Status Ticket
  | some statusVal =>
      let newStatus := TicketStatus.fromU8 (enumByte statusVal)
      if ticket.status.canTransitionTo newStatus then .ok { ticket with status := newStatus }
      else .error (.failedPrecondition
        s!"invalid status transition: {ticket.status.debug} -> {newStatus.debug}")
  | none => .ok ticket

/-- Changes the assignee. -/
def applyAssigned [UuidParser] (ticket : Ticket) : Option String → Except Status Ticket
  | some assigned =>
      match UuidParser.parseStr assigned with
      | some uuid => .ok { ticket with assignedTo := some uuid }
      | none => .error (.invalidArgument "Invalid assigned_to UUID")
  | none => .ok ticket

/-- Changes the fields the request sets. -/
def applyUpdates [UuidParser] (req : UpdateTicketRequest) (ticket : Ticket) :
    Except Status Ticket :=
  let ticket := { ticket with
    title := req.title.getD ticket.title
    project := req.project.getD ticket.project
    symptom := (req.symptom.map fun v => Symptom.fromU8 (enumByte v)).getD ticket.symptom
    priority := (req.priority.map fun v => TicketPriority.fromU8 (enumByte v)).getD
      ticket.priority }
  match applyStatus ticket req.status with
  | .error e => .error e
  | .ok ticket =>
      let ticket := { ticket with
        nextAction := (req.nextAction.map protoToNextAction).getD ticket.nextAction
        resolution := (req.resolution.map fun v => some (Resolution.fromU8 (enumByte v))).getD
          ticket.resolution }
      applyAssigned ticket req.assignedToUuid

/-- The row an update is about to write: the ticket, its encrypted body and its index fields. -/
structure PreparedWrite where
  ticket : Ticket
  body : Bytes
  index : Db.TicketIndexMessage

/-- Computes the new row from the record that was fetched. -/
def prepareUpdate [TicketFormat] [UuidParser] (service : CustodianServiceImpl)
    (req : UpdateTicketRequest) (updater : Uuid) (now : Chrono.DateTime)
    (entropy : Primitives.Entropy) (record : Db.TicketRecord) :
    Except (Stop Status) PreparedWrite :=
  match service.decryptTicket record.ticketId record.encryptedBody with
  | .error stop => .error stop
  | .ok ticket =>
      match applyUpdates req ticket with
      | .error status => .error (.error status)
      | .ok ticket =>
          let ticket := { ticket with updatedBy := updater, updatedAt := now }
          match service.encryptTicket ticket entropy with
          | .error status => .error (.error status)
          | .ok body => .ok ⟨ticket, body, ticketIndex ticket⟩

/-- Writes the new row to the DB. -/
def writeTicket [Db.RowFormat] [FailureText] (db : Sled) (ticketId : UInt64)
    (write : PreparedWrite) : Except Status TicketMessage × Sled :=
  match Db.DatabaseService.updateTicket db ticketId write.body write.index with
  | (.error status, db) =>
      (.error (.internal s!"db update_ticket error: {FailureText.status status}"), db)
  | (.ok _, db) => (.ok (domainToProto write.ticket), db)

/-- Updates a ticket, with nothing in between its three steps. The clock is read for the check of
the lock and again for the new row. -/
def updateTicket [LockFormat] [TicketFormat] [UuidParser] [Db.RowFormat] [FailureText]
    (service : CustodianServiceImpl) (locks db : Sled) (now updatedAt : Chrono.DateTime)
    (entropy : Primitives.Entropy) (req : UpdateTicketRequest) :
    Except (Stop Status) TicketMessage × Sled :=
  match checkLock locks now req with
  | .error status => (.error (.error status), db)
  | .ok updater =>
      match service.fetchRecord db req.ticketId with
      | .error status => (.error (.error status), db)
      | .ok record =>
          match service.prepareUpdate req updater updatedAt entropy record with
          | .error stop => (.error stop, db)
          | .ok write =>
              match writeTicket db req.ticketId write with
              | (.error status, db) => (.error (.error status), db)
              | (.ok message, db) => (.ok message, db)

end CustodianServiceImpl

end InfoVulcan.Custodian
