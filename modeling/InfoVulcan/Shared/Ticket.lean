import InfoVulcan.Shared.Foreign

/-!
# Tickets

The domain types of tickets and the lifecycle of their statuses. The numbers are the
discriminants the services exchange.
-/

namespace InfoVulcan

/-! ## Enumerations -/

/-- Primary symptom categories. -/
inductive Symptom where
  | unknown
  | broadbandDown
  | broadbandIntermittent
  | packetLoss
  | power
  | vpnIssue
  | configurationError
  | hardwareFailure
  | softwareBug
  | securityIncident
  | slowBandwidth
  | duplexingMismatch
  | latencyIssues
  | jitterProblems
  | dnsIssues
  | other
  deriving DecidableEq, Repr

namespace Symptom

def toU8 : Symptom → UInt8
  | unknown => 0
  | broadbandDown => 1
  | broadbandIntermittent => 2
  | packetLoss => 3
  | power => 4
  | vpnIssue => 5
  | configurationError => 6
  | hardwareFailure => 7
  | softwareBug => 8
  | securityIncident => 9
  | slowBandwidth => 10
  | duplexingMismatch => 11
  | latencyIssues => 12
  | jitterProblems => 13
  | dnsIssues => 14
  | other => 255

/-- The category of a number. An unrecognised one is unknown. -/
def fromU8 (n : UInt8) : Symptom :=
  match n with
  | 1 => broadbandDown
  | 2 => broadbandIntermittent
  | 3 => packetLoss
  | 4 => power
  | 5 => vpnIssue
  | 6 => configurationError
  | 7 => hardwareFailure
  | 8 => softwareBug
  | 9 => securityIncident
  | 10 => slowBandwidth
  | 11 => duplexingMismatch
  | 12 => latencyIssues
  | 13 => jitterProblems
  | 14 => dnsIssues
  | 255 => other
  | _ => unknown

@[simp] theorem fromU8_toU8 (s : Symptom) : fromU8 s.toU8 = s := by
  cases s <;> rfl

end Symptom

/-- How much impact the customer feels. -/
inductive TicketPriority where
  | unknown
  | hardDown
  | primaryDown
  | backupDown
  | intermittent
  | packetLoss
  deriving DecidableEq, Repr

namespace TicketPriority

def toU8 : TicketPriority → UInt8
  | unknown => 0
  | hardDown => 1
  | primaryDown => 2
  | backupDown => 3
  | intermittent => 4
  | packetLoss => 5

/-- The priority of a number. An unrecognised one is unknown. -/
def fromU8 (n : UInt8) : TicketPriority :=
  match n with
  | 1 => hardDown
  | 2 => primaryDown
  | 3 => backupDown
  | 4 => intermittent
  | 5 => packetLoss
  | _ => unknown

@[simp] theorem fromU8_toU8 (p : TicketPriority) : fromU8 p.toU8 = p := by
  cases p <;> rfl

end TicketPriority

/-- Resolution types. -/
inductive Resolution where
  | none
  | resolved
  | workaround
  | cannotReproduce
  | unsupportedIssue
  | duplicate
  | serviceOutage
  | userError
  deriving DecidableEq, Repr

namespace Resolution

def toU8 : Resolution → UInt8
  | none => 0
  | resolved => 1
  | workaround => 2
  | cannotReproduce => 3
  | unsupportedIssue => 4
  | duplicate => 5
  | serviceOutage => 6
  | userError => 7

/-- The resolution of a number. An unrecognised one is none. -/
def fromU8 (n : UInt8) : Resolution :=
  match n with
  | 1 => resolved
  | 2 => workaround
  | 3 => cannotReproduce
  | 4 => unsupportedIssue
  | 5 => duplicate
  | 6 => serviceOutage
  | 7 => userError
  | _ => none

@[simp] theorem fromU8_toU8 (r : Resolution) : fromU8 r.toU8 = r := by
  cases r <;> rfl

end Resolution

/-! ## Status lifecycle -/

/-- Ticket status workflow states. -/
inductive TicketStatus where
  | «open»
  | awaitingCustomer
  | awaitingISP
  | awaitingPartner
  | supportHold
  | handedOff
  | appointmentScheduled
  | ebondReceived
  | voicemailReceived
  | autoClose
  | closed
  deriving DecidableEq, Repr

namespace TicketStatus

def toU8 : TicketStatus → UInt8
  | «open» => 0
  | awaitingCustomer => 1
  | awaitingISP => 2
  | awaitingPartner => 3
  | supportHold => 4
  | handedOff => 5
  | appointmentScheduled => 6
  | ebondReceived => 7
  | voicemailReceived => 8
  | autoClose => 254
  | closed => 255

/-- The status of a number. An unrecognised one is open. -/
def fromU8 (n : UInt8) : TicketStatus :=
  match n with
  | 1 => awaitingCustomer
  | 2 => awaitingISP
  | 3 => awaitingPartner
  | 4 => supportHold
  | 5 => handedOff
  | 6 => appointmentScheduled
  | 7 => ebondReceived
  | 8 => voicemailReceived
  | 254 => autoClose
  | 255 => closed
  | _ => «open»

@[simp] theorem fromU8_toU8 (s : TicketStatus) : fromU8 s.toU8 = s := by
  cases s <;> rfl

/-- The name a status is printed under. -/
def debug : TicketStatus → String
  | «open» => "Open"
  | awaitingCustomer => "AwaitingCustomer"
  | awaitingISP => "AwaitingISP"
  | awaitingPartner => "AwaitingPartner"
  | supportHold => "SupportHold"
  | handedOff => "HandedOff"
  | appointmentScheduled => "AppointmentScheduled"
  | ebondReceived => "EbondReceived"
  | voicemailReceived => "VoicemailReceived"
  | autoClose => "AutoClose"
  | closed => "Closed"

/-- Whether a ticket with this status must have a resolution. -/
def requiresResolution : TicketStatus → Bool
  | closed | autoClose => true
  | _ => false

/-- Whether a ticket with this status must have a next action. -/
def requiresNextAction : TicketStatus → Bool
  | «open» | awaitingCustomer | awaitingISP | awaitingPartner => true
  | _ => false

/-- The statuses a ticket may move to. A terminal status has none. -/
def allowedTransitions : TicketStatus → List TicketStatus
  | «open» =>
      [awaitingCustomer, awaitingISP, awaitingPartner, supportHold, handedOff,
        appointmentScheduled, ebondReceived, voicemailReceived, closed, autoClose]
  | awaitingCustomer =>
      [«open», supportHold, appointmentScheduled, ebondReceived, voicemailReceived, closed,
        autoClose]
  | awaitingISP => [«open», supportHold, ebondReceived, closed, autoClose]
  | awaitingPartner => [«open», supportHold, handedOff, closed, autoClose]
  | supportHold =>
      [«open», awaitingCustomer, awaitingISP, awaitingPartner, appointmentScheduled, closed,
        autoClose]
  | handedOff => [«open», awaitingPartner, closed, autoClose]
  | appointmentScheduled => [«open», awaitingCustomer, supportHold, closed, autoClose]
  | ebondReceived => [«open», awaitingISP, closed, autoClose]
  | voicemailReceived => [«open», awaitingCustomer, closed, autoClose]
  | autoClose | closed => []

/-- Whether a ticket may move from one status to another. Staying is always allowed. -/
def canTransitionTo (self target : TicketStatus) : Bool :=
  self == target || self.allowedTransitions.contains target

theorem canTransitionTo_iff {s target : TicketStatus} :
    s.canTransitionTo target ↔ target = s ∨ target ∈ s.allowedTransitions := by
  rw [canTransitionTo, Bool.or_eq_true, beq_iff_eq, List.contains_iff_mem, @eq_comm _ s]

end TicketStatus

/-! ## Next actions -/

/-- Auto-close timeframe options. -/
inductive AutoCloseSchedule where
  | endOfDay
  | hours24
  | hours48
  | hours72
  deriving DecidableEq, Repr

variable [Chrono]

/-- Next action scheduling. -/
inductive NextAction where
  | none
  | followUp (time : Chrono.DateTime)
  | appointment (time : Chrono.DateTime)
  | autoClose (schedule : AutoCloseSchedule)

/-- Whether nothing is scheduled. -/
def NextAction.isNone : NextAction → Bool
  | none => true
  | _ => false

/-! ## Devices and history -/

/-- Network device types. -/
inductive DeviceKind where
  | dslModem
  | coaxModem
  | ont
  | fixedWirelessAntenna
  | vpnGw
  | switch
  | router
  | firewall
  deriving DecidableEq, Repr

/-- A network device. Every type of device has the same data. -/
structure NetworkDevice where
  kind : DeviceKind
  make : String
  model : String
  macAddress : Option String
  serialNumber : Option String
  deriving DecidableEq

/-- History entry for the audit trail. -/
structure HistoryEntry where
  timestamp : Chrono.DateTime
  userId : Uuid
  fieldChanged : String
  oldValue : Option String
  newValue : Option String

/-! ## Tickets -/

/-- A ticket. -/
structure Ticket where
  ticketId : UInt64
  customerTicketNumber : Option String
  ispTicketNumber : Option String
  otherTicketNumber : Option String
  title : String
  project : String
  accountUuid : Uuid
  symptom : Symptom
  priority : TicketPriority
  status : TicketStatus
  nextAction : NextAction
  resolution : Option Resolution
  lockedBy : Option Uuid
  assignedTo : Option Uuid
  createdBy : Uuid
  createdAt : Chrono.DateTime
  updatedBy : Uuid
  updatedAt : Chrono.DateTime
  history : List HistoryEntry
  ebond : Option String
  trackingUrl : Option String
  networkDevices : List NetworkDevice
  schemaVersion : UInt32

/-- A new ticket with the required fields, created at `now`. -/
def Ticket.new (ticketId : UInt64) (title project : String) (accountUuid : Uuid)
    (symptom : Symptom) (createdBy : Uuid) (now : Chrono.DateTime) : Ticket where
  ticketId := ticketId
  customerTicketNumber := none
  ispTicketNumber := none
  otherTicketNumber := none
  title := title
  project := project
  accountUuid := accountUuid
  symptom := symptom
  priority := .unknown
  status := .open
  nextAction := .none
  resolution := none
  lockedBy := none
  assignedTo := none
  createdBy := createdBy
  createdAt := now
  updatedBy := createdBy
  updatedAt := now
  history := []
  ebond := none
  trackingUrl := none
  networkDevices := []
  schemaVersion := 1

/-- An error in the data of a ticket. -/
inductive InfoVulcanError where
  | validationError (message : String)
  deriving DecidableEq, Repr

/-- Checks that the fields of a ticket agree with its status. -/
def Ticket.validate (ticket : Ticket) : Except InfoVulcanError Unit :=
  if ticket.status.requiresResolution && ticket.resolution.isNone then
    .error (.validationError s!"Status {ticket.status.debug} requires a resolution")
  else if ticket.status.requiresNextAction && ticket.nextAction.isNone then
    .error (.validationError s!"Status {ticket.status.debug} requires a next action")
  else .ok ()

end InfoVulcan
