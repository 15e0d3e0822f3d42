import InfoVulcan.Custodian.Server
import InfoVulcan.Db.Json

/-!
# JSON formats of the custodian

The formats of lock records and ticket bodies, as the derived serialisers write them. The
cryptographic library here is a stand-in: it behaves like a key encapsulation and a cipher, and
hides nothing.
-/

namespace InfoVulcan.SerdeJson

open JsonFormat Custodian

/-! ## Locks -/

def lockInfo : JsonFormat LockInfo :=
  (object "ticket_id" u64 <| field "user_id" Uuid.json <| field "acquired_at" CivilTime.json <|
    field "expires_at_unix" i64 endObject).conv
    (fun l => (l.ticketId, l.userId, l.acquiredAt, l.expiresAtUnix, ()))
    (fun (ticketId, userId, acquiredAt, expiresAt, _) =>
      some ⟨ticketId, userId, acquiredAt, expiresAt⟩)
    fun _ => rfl

scoped instance : LockFormat where
  lockInfo := lockInfo.codec

/-! ## Enumerations of tickets -/

/-- An enumeration with the list of its values and their names. -/
def named {α : Type} (name : α → String) (all : List α)
    (h : ∀ a, all.find? (name · = name a) = some a) : JsonFormat α :=
  enumeration name (fun s => all.find? (name · = s)) h

def symptom : JsonFormat Symptom :=
  named
    (fun
      | .unknown => "Unknown"
      | .broadbandDown => "BroadbandDown"
      | .broadbandIntermittent => "BroadbandIntermittent"
      | .packetLoss => "PacketLoss"
      | .power => "Power"
      | .vpnIssue => "VpnIssue"
      | .configurationError => "ConfigurationError"
      | .hardwareFailure => "HardwareFailure"
      | .softwareBug => "SoftwareBug"
      | .securityIncident => "SecurityIncident"
      | .slowBandwidth => "SlowBandwidth"
      | .duplexingMismatch => "DuplexingMismatch"
      | .latencyIssues => "LatencyIssues"
      | .jitterProblems => "JitterProblems"
      | .dnsIssues => "DnsIssues"
      | .other => "Other")
    [.unknown, .broadbandDown, .broadbandIntermittent, .packetLoss, .power, .vpnIssue,
      .configurationError, .hardwareFailure, .softwareBug, .securityIncident, .slowBandwidth,
      .duplexingMismatch, .latencyIssues, .jitterProblems, .dnsIssues, .other]
    fun s => by cases s <;> rfl

def ticketPriority : JsonFormat TicketPriority :=
  named
    (fun
      | .unknown => "Unknown"
      | .hardDown => "HardDown"
      | .primaryDown => "PrimaryDown"
      | .backupDown => "BackupDown"
      | .intermittent => "Intermittent"
      | .packetLoss => "PacketLoss")
    [.unknown, .hardDown, .primaryDown, .backupDown, .intermittent, .packetLoss]
    fun p => by cases p <;> rfl

def ticketStatus : JsonFormat TicketStatus :=
  named TicketStatus.debug
    [.open, .awaitingCustomer, .awaitingISP, .awaitingPartner, .supportHold, .handedOff,
      .appointmentScheduled, .ebondReceived, .voicemailReceived, .autoClose, .closed]
    fun s => by cases s <;> rfl

def resolution : JsonFormat Resolution :=
  named
    (fun
      | .none => "None"
      | .resolved => "Resolved"
      | .workaround => "Workaround"
      | .cannotReproduce => "CannotReproduce"
      | .unsupportedIssue => "UnsupportedIssue"
      | .duplicate => "Duplicate"
      | .serviceOutage => "ServiceOutage"
      | .userError => "UserError")
    [.none, .resolved, .workaround, .cannotReproduce, .unsupportedIssue, .duplicate,
      .serviceOutage, .userError]
    fun r => by cases r <;> rfl

def autoCloseSchedule : JsonFormat AutoCloseSchedule :=
  named
    (fun
      | .endOfDay => "EndOfDay"
      | .hours24 => "Hours24"
      | .hours48 => "Hours48"
      | .hours72 => "Hours72")
    [.endOfDay, .hours24, .hours48, .hours72]
    fun s => by cases s <;> rfl

/-! ## Parts of tickets -/

/-- The variants of next actions that carry data. -/
inductive NextActionTag where
  | followUp
  | appointment
  | autoClose
  deriving DecidableEq

namespace NextActionTag

def name : NextActionTag → String
  | followUp => "FollowUp"
  | appointment => "Appointment"
  | autoClose => "AutoClose"

def Payload : NextActionTag → Type
  | followUp | appointment => CivilTime
  | autoClose => AutoCloseSchedule

def payload : (t : NextActionTag) → JsonFormat t.Payload
  | followUp | appointment => CivilTime.json
  | autoClose => autoCloseSchedule

end NextActionTag

def nextAction : JsonFormat NextAction :=
  (either (· == 34) (constant 34 [78, 111, 110, 101, 34] quote_ne_close)
    (variant NextActionTag.name
      (fun s => [NextActionTag.followUp, .appointment, .autoClose].find? (·.name = s))
      (fun t => by cases t <;> rfl) NextActionTag.payload)
    (beq_of_render_constant _)
    fun _ b _ h => by
      obtain rfl := (List.cons.inj h).1
      decide).conv
    (fun
      | .none => .inl ()
      | .followUp time => .inr ⟨.followUp, time⟩
      | .appointment time => .inr ⟨.appointment, time⟩
      | .autoClose schedule => .inr ⟨.autoClose, schedule⟩)
    (fun
      | .inl _ => some .none
      | .inr ⟨.followUp, time⟩ => some (.followUp time)
      | .inr ⟨.appointment, time⟩ => some (.appointment time)
      | .inr ⟨.autoClose, schedule⟩ => some (.autoClose schedule))
    fun a => by cases a <;> rfl

/-- The name of a type of device. -/
def deviceName : DeviceKind → String
  | .dslModem => "DslModem"
  | .coaxModem => "CoaxModem"
  | .ont => "Ont"
  | .fixedWirelessAntenna => "FixedWirelessAntenna"
  | .vpnGw => "VpnGw"
  | .switch => "Switch"
  | .router => "Router"
  | .firewall => "Firewall"

def networkDevice : JsonFormat NetworkDevice :=
  (variant deviceName
    (fun s => [DeviceKind.dslModem, .coaxModem, .ont, .fixedWirelessAntenna, .vpnGw, .switch,
      .router, .firewall].find? (deviceName · = s))
    (fun k => by cases k <;> rfl)
    fun _ => object "make" string <| field "model" string <|
      field "mac_address" optionString <| field "serial_number" optionString endObject).conv
    (fun d => ⟨d.kind, d.make, d.model, d.macAddress, d.serialNumber, ()⟩)
    (fun ⟨kind, make, model, mac, serial, _⟩ => some ⟨kind, make, model, mac, serial⟩)
    fun _ => rfl

def historyEntry : JsonFormat HistoryEntry :=
  (object "timestamp" CivilTime.json <| field "user_id" Uuid.json <|
    field "field_changed" string <| field "old_value" optionString <|
    field "new_value" optionString endObject).conv
    (fun e => (e.timestamp, e.userId, e.fieldChanged, e.oldValue, e.newValue, ()))
    (fun (timestamp, userId, changed, old, new, _) =>
      some ⟨timestamp, userId, changed, old, new⟩)
    fun _ => rfl

def optionUuid : JsonFormat (Option Uuid) :=
  Uuid.json.option fun _ b _ hb => by
    obtain rfl := (List.cons.inj hb).1
    decide

def optionResolution : JsonFormat (Option Resolution) :=
  resolution.option fun _ b _ hb => by
    obtain rfl := (List.cons.inj hb).1
    decide

def optionBytes : JsonFormat (Option Bytes) :=
  bytes.option fun a b _ hb => by
    cases a <;> obtain rfl := (List.cons.inj hb).1 <;> decide

/-! ## Tickets -/

/-- The format of a ticket. Its custom fields are always empty. -/
def ticket : JsonFormat Ticket :=
  (object "ticket_id" u64 <| field "customer_ticket_number" optionString <|
    field "isp_ticket_number" optionString <| field "other_ticket_number" optionString <|
    field "title" string <| field "project" string <| field "account_uuid" Uuid.json <|
    field "symptom" symptom <| field "priority" ticketPriority <| field "status" ticketStatus <|
    field "next_action" nextAction <| field "resolution" optionResolution <|
    field "locked_by" optionUuid <| field "assigned_to" optionUuid <|
    field "created_by" Uuid.json <| field "created_at" CivilTime.json <|
    field "updated_by" Uuid.json <| field "updated_at" CivilTime.json <|
    field "history" (list historyEntry) <| field "ebond" optionString <|
    field "tracking_url" optionString <| field "network_devices" (list networkDevice) <|
    field "schema_version" u32 <|
    field "custom_fields" (constant 123 [125] brace_ne_close) endObject).conv
    (fun t => (t.ticketId, t.customerTicketNumber, t.ispTicketNumber, t.otherTicketNumber,
      t.title, t.project, t.accountUuid, t.symptom, t.priority, t.status, t.nextAction,
      t.resolution, t.lockedBy, t.assignedTo, t.createdBy, t.createdAt, t.updatedBy, t.updatedAt,
      t.history, t.ebond, t.trackingUrl, t.networkDevices, t.schemaVersion, (), ()))
    (fun (ticketId, customer, isp, other, title, project, account, symptom, priority, status,
        nextAction, resolution, lockedBy, assignedTo, createdBy, createdAt, updatedBy, updatedAt,
        history, ebond, tracking, devices, version, _, _) =>
      some ⟨ticketId, customer, isp, other, title, project, account, symptom, priority, status,
        nextAction, resolution, lockedBy, assignedTo, createdBy, createdAt, updatedBy, updatedAt,
        history, ebond, tracking, devices, version⟩)
    fun _ => rfl

def encryptedData : JsonFormat EncryptedData :=
  (object "algorithm" (u32.conv (fun a => if a = .aes256Gcm then 0 else 1)
      (fun n => if n = 0 then some EncryptionAlgorithm.aes256Gcm
        else if n = 1 then some .chaCha20Poly1305 else none) fun a => by cases a <;> rfl) <|
    field "salt" optionBytes <| field "kem_ciphertext" optionBytes <| field "nonce" bytes <|
    field "ciphertext" bytes endObject).conv
    (fun e => (e.algorithm, e.salt, e.kemCiphertext, e.nonce, e.ciphertext, ()))
    (fun (algorithm, salt, kem, nonce, ciphertext, _) =>
      some ⟨algorithm, salt, kem, nonce, ciphertext⟩)
    fun _ => rfl

scoped instance : TicketFormat where
  ticket := ticket.codec
  encryptedData := encryptedData.codec

/-! ## Cryptography -/

/-- A stand-in for the cryptographic libraries: the encapsulated key and the sealed data are the
key and the data themselves. -/
scoped instance : Primitives where
  Entropy := Bytes
  publicKeyBytes := 1184
  secretKeyBytes := 2400
  nonceBytes := 12
  encapsulate _ entropy := .ok (entropy, entropy)
  decapsulate kemCiphertext _ := .ok kemCiphertext
  generateNonce _ _ := List.replicate 12 0
  encrypt _ _ _ data := .ok data
  decrypt _ _ _ sealed := .ok sealed
  length_generateNonce _ _ := by rw [List.length_replicate]
  decrypt_encrypt _ _ _ _ _ h := h.symm

/-- A key pair of the stand-in. -/
def keypair : KeyPair where
  publicKey := List.replicate 1184 0
  privateKey := List.replicate 2400 0
  length_private := by rw [List.length_replicate]; rfl
  decapsulates _ _ _ h := by
    obtain ⟨rfl, rfl⟩ := Prod.mk.inj (Except.ok.inj h)
    rfl

/-- A custodian that is connected to the DB. -/
def custodian : CustodianServiceImpl where
  keypair := keypair
  dbClient := true

/-- The body of a ticket, as that custodian writes it. -/
def ticketBody (ticket : Ticket) : Bytes :=
  TicketFormat.encryptedData.encode
    ⟨.default, none, some [], List.replicate 12 0, TicketFormat.ticket.encode ticket⟩

theorem encryptTicket_eq (ticket : Ticket) :
    custodian.encryptTicket ticket [] = .ok (ticketBody ticket) := by
  have hkey : custodian.keypair.publicKey.length = Primitives.publicKeyBytes :=
    List.length_replicate
  rw [CustodianServiceImpl.encryptTicket, EncryptionService.encryptWithPublicKey,
    if_neg (not_not.mpr hkey)]
  rfl

end InfoVulcan.SerdeJson
