import InfoVulcan.Library.Wire

/-!
# The events of the honeypot

A trap that is hit captures where the request came from and what it claims to be, with the time of
day. The event goes to the admin service as a message, where the time is in whole seconds.
-/

namespace InfoVulcan.Honeypot

/-! ## Messages -/

/-- The message of an intrusion. -/
structure IntrusionMessage where
  timestampUnix : Int64
  sourceIp : String
  endpointAccessed : String
  requestMethod : String
  userAgent : Option String
  requestBody : Option String
  tlsFingerprint : Option String
  deriving DecidableEq

namespace IntrusionMessage

/-- The fields of the message that are written. -/
def fields (event : IntrusionMessage) : List Wire.Field :=
  Wire.int64 1 event.timestampUnix ++ Wire.string 2 event.sourceIp ++
    Wire.string 3 event.endpointAccessed ++ Wire.string 4 event.requestMethod ++
    Wire.optionalString 5 event.userAgent ++ Wire.optionalString 6 event.requestBody ++
    Wire.optionalString 7 event.tlsFingerprint

/-- The message as it is written. -/
def encodeToVec (event : IntrusionMessage) : Bytes :=
  Wire.encode event.fields

/-- The bytes of a message are those of no other one. -/
@[simp] theorem encodeToVec_inj {event event' : IntrusionMessage} :
    event.encodeToVec = event'.encodeToVec ↔ event = event' := by
  refine ⟨fun h => ?_, fun h => h ▸ rfl⟩
  have hfields : event.fields = event'.fields := Wire.encode_inj.mp h
  have hnumber : ∀ number, Wire.numbered number event.fields =
      Wire.numbered number event'.fields := fun number => by rw [hfields]
  have h1 := hnumber 1
  have h2 := hnumber 2
  have h3 := hnumber 3
  have h4 := hnumber 4
  have h5 := hnumber 5
  have h6 := hnumber 6
  have h7 := hnumber 7
  simp [fields] at h1 h2 h3 h4 h5 h6 h7
  obtain ⟨⟩ := event
  obtain ⟨⟩ := event'
  simp only [mk.injEq]
  exact ⟨h1, h2, h3, h4, h5, h6, h7⟩

end IntrusionMessage

/-! ## Events -/

/-- A time of day, in nanoseconds from the epoch. -/
structure SystemTime where
  nanos : Int
  deriving DecidableEq

/-- The whole seconds since the epoch, none for a time before it. -/
def SystemTime.secsSinceEpoch (time : SystemTime) : Option Nat :=
  if 0 ≤ time.nanos then some (time.nanos.toNat / 10 ^ 9) else none

/-- An intrusion as it is captured. -/
structure IntrusionEvent where
  timestamp : SystemTime
  sourceIp : String
  userAgent : Option String
  endpointAccessed : String
  requestMethod : String
  requestBody : Option String
  tlsFingerprint : Option String
  deriving DecidableEq

namespace IntrusionEvent

/-- A new event, stamped with the current time. -/
def new (now : SystemTime) (sourceIp endpoint method : String) : IntrusionEvent where
  timestamp := now
  sourceIp := sourceIp
  userAgent := none
  endpointAccessed := endpoint
  requestMethod := method
  requestBody := none
  tlsFingerprint := none

/-- The time in the message: zero before the epoch, and the largest word if it is out of range. -/
def timestampUnix (event : IntrusionEvent) : Int64 :=
  match event.timestamp.secsSinceEpoch with
  | none => 0
  | some secs => if secs < 2 ^ 63 then Int64.ofNat secs else Int64.maxValue

/-- The message of an event. -/
def toProto (event : IntrusionEvent) : IntrusionMessage where
  timestampUnix := event.timestampUnix
  sourceIp := event.sourceIp
  endpointAccessed := event.endpointAccessed
  requestMethod := event.requestMethod
  userAgent := event.userAgent
  requestBody := event.requestBody
  tlsFingerprint := event.tlsFingerprint

/-- The messages of two events differ in nothing but the time if the events do. -/
theorem toProto_eq_iff {event event' : IntrusionEvent} :
    event.toProto = event'.toProto ↔
      event.timestampUnix = event'.timestampUnix ∧
        { event with timestamp := event'.timestamp } = event' := by
  obtain ⟨⟩ := event
  obtain ⟨⟩ := event'
  simp only [toProto, IntrusionMessage.mk.injEq, mk.injEq]
  tauto

end IntrusionEvent

/-! ## Traps -/

/-- What a trap sees of a request: the address of the peer, if it is known, and the user agent, if
it is sent and is text. -/
structure PeerRequest where
  remoteIp : Option String
  userAgent : Option String
  deriving DecidableEq

/-- Captures an event from a request. -/
def capture (request : PeerRequest) (now : SystemTime) (endpoint method : String) :
    IntrusionEvent :=
  { IntrusionEvent.new now (request.remoteIp.getD "unknown") endpoint method with
    userAgent := request.userAgent }

/-- The event of a request for a wallet. -/
def getWalletBalance (request : PeerRequest) (now : SystemTime) : IntrusionEvent :=
  capture request now "/wallet/balance" "GetWalletBalance"

/-- The event of a request for the list of backups. -/
def listBackups (request : PeerRequest) (now : SystemTime) : IntrusionEvent :=
  capture request now "/backups" "ListBackups"

/-- The event of a request for a backup. -/
def downloadBackup (request : PeerRequest) (now : SystemTime) : IntrusionEvent :=
  capture request now "/backups/download" "DownloadBackup"

end InfoVulcan.Honeypot
