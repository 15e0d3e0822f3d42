import InfoVulcan.Db.Raft
import InfoVulcan.Shared.Json

/-!
# JSON formats of the DB service

The formats of rows, log entries, votes and snapshots, as the derived serialisers write them.
-/

namespace InfoVulcan.SerdeJson

open JsonFormat Db Raft

/-! ## Rows -/

def ticketIndexFields : JsonFormat TicketIndexFields :=
  (object "status" u8 <| field "account_uuid" string <|
    field "assigned_to_uuid" optionString <| field "project" string <|
    field "tracking_url" optionString <| field "created_at_unix" i64 <|
    field "updated_at_unix" i64 endObject).conv
    (fun i => (i.status, i.accountUuid, i.assignedToUuid, i.project, i.trackingUrl,
      i.createdAtUnix, i.updatedAtUnix, ()))
    (fun (status, account, assigned, project, tracking, created, updated, _) =>
      some ⟨status, account, assigned, project, tracking, created, updated⟩)
    fun _ => rfl

def userIndexFields : JsonFormat UserIndexFields :=
  (object "username" string <| field "email" string <| field "role" u8 endObject).conv
    (fun i => (i.username, i.email, i.role, ()))
    (fun (username, email, role, _) => some ⟨username, email, role⟩)
    fun _ => rfl

def stored {I : Type} (index : JsonFormat I) : JsonFormat (Stored I) :=
  (object "body" bytes <| field "index" index <| field "deleted" bool <|
    field "deleted_at_unix" i64 endObject).conv
    (fun s => (s.body, s.index, s.deleted, s.deletedAtUnix, ()))
    (fun (body, index, deleted, deletedAt, _) => some ⟨body, index, deleted, deletedAt⟩)
    fun _ => rfl

scoped instance : RowFormat where
  storedTicket := (stored ticketIndexFields).codec
  storedUser := (stored userIndexFields).codec

/-! ## Log entries -/

/-- The variants of log entries. -/
inductive LogEntryTag where
  | put
  | get
  | delete
  | batchPut
  | createTicket
  | updateTicket
  | softDeleteTicket
  | createUser
  | updateUser
  | softDeleteUser
  deriving DecidableEq

namespace LogEntryTag

/-- The name of a variant. -/
def name : LogEntryTag → String
  | put => "Put"
  | get => "Get"
  | delete => "Delete"
  | batchPut => "BatchPut"
  | createTicket => "CreateTicket"
  | updateTicket => "UpdateTicket"
  | softDeleteTicket => "SoftDeleteTicket"
  | createUser => "CreateUser"
  | updateUser => "UpdateUser"
  | softDeleteUser => "SoftDeleteUser"

def all : List LogEntryTag :=
  [put, get, delete, batchPut, createTicket, updateTicket, softDeleteTicket, createUser,
    updateUser, softDeleteUser]

/-- The data of a variant. -/
def Payload : LogEntryTag → Type
  | put => String × Bytes × Bytes × Unit
  | get | delete => String × Bytes × Unit
  | batchPut => String × List (Bytes × Bytes × Unit) × Unit
  | createTicket => Bytes × TicketIndexFields × Unit
  | updateTicket => UInt64 × Bytes × TicketIndexFields × Unit
  | softDeleteTicket => UInt64 × Int64 × Unit
  | createUser | updateUser => String × Bytes × UserIndexFields × Unit
  | softDeleteUser => String × Int64 × Unit

def payload : (t : LogEntryTag) → JsonFormat t.Payload
  | put => object "collection" string <| field "key" bytes <| field "value" bytes endObject
  | get | delete => object "collection" string <| field "key" bytes endObject
  | batchPut => object "collection" string <|
      field "pairs" (list (tuple bytes <| component bytes endTuple)) endObject
  | createTicket => object "body" bytes <| field "index" ticketIndexFields endObject
  | updateTicket => object "ticket_id" u64 <| field "body" bytes <|
      field "index" ticketIndexFields endObject
  | softDeleteTicket => object "ticket_id" u64 <| field "at_unix" i64 endObject
  | createUser | updateUser => object "user_uuid" string <| field "body" bytes <|
      field "index" userIndexFields endObject
  | softDeleteUser => object "user_uuid" string <| field "at_unix" i64 endObject

/-- The tag and the data of a log entry. -/
def ofEntry : LogEntry → Σ t : LogEntryTag, t.Payload
  | .put collection key value => ⟨put, collection, key, value, ()⟩
  | .get collection key => ⟨get, collection, key, ()⟩
  | .delete collection key => ⟨delete, collection, key, ()⟩
  | .batchPut collection pairs =>
      ⟨batchPut, collection, pairs.map fun kv => (kv.1, kv.2, ()), ()⟩
  | .createTicket body index => ⟨createTicket, body, index, ()⟩
  | .updateTicket ticketId body index => ⟨updateTicket, ticketId, body, index, ()⟩
  | .softDeleteTicket ticketId atUnix => ⟨softDeleteTicket, ticketId, atUnix, ()⟩
  | .createUser userUuid body index => ⟨createUser, userUuid, body, index, ()⟩
  | .updateUser userUuid body index => ⟨updateUser, userUuid, body, index, ()⟩
  | .softDeleteUser userUuid atUnix => ⟨softDeleteUser, userUuid, atUnix, ()⟩

/-- The log entry with the given tag and data. -/
def toEntry : (Σ t : LogEntryTag, t.Payload) → LogEntry
  | ⟨put, collection, key, value, _⟩ => .put collection key value
  | ⟨get, collection, key, _⟩ => .get collection key
  | ⟨delete, collection, key, _⟩ => .delete collection key
  | ⟨batchPut, collection, pairs, _⟩ => .batchPut collection (pairs.map fun kv => (kv.1, kv.2.1))
  | ⟨createTicket, body, index, _⟩ => .createTicket body index
  | ⟨updateTicket, ticketId, body, index, _⟩ => .updateTicket ticketId body index
  | ⟨softDeleteTicket, ticketId, atUnix, _⟩ => .softDeleteTicket ticketId atUnix
  | ⟨createUser, userUuid, body, index, _⟩ => .createUser userUuid body index
  | ⟨updateUser, userUuid, body, index, _⟩ => .updateUser userUuid body index
  | ⟨softDeleteUser, userUuid, atUnix, _⟩ => .softDeleteUser userUuid atUnix

theorem toEntry_ofEntry (e : LogEntry) : toEntry (ofEntry e) = e := by
  cases e with
  | batchPut collection pairs => simp [ofEntry, toEntry, Function.comp_def]
  | _ => rfl

end LogEntryTag

def logEntry : JsonFormat LogEntry :=
  (variant LogEntryTag.name (fun s => LogEntryTag.all.find? (·.name = s))
    (fun t => by cases t <;> rfl) LogEntryTag.payload).conv
    LogEntryTag.ofEntry (fun v => some (LogEntryTag.toEntry v))
    fun e => congrArg some (LogEntryTag.toEntry_ofEntry e)

/-! ## Raft -/

def leaderId : JsonFormat LeaderId :=
  (object "term" u64 <| field "node_id" u64 endObject).conv
    (fun l => (l.term, l.nodeId, ())) (fun (term, nodeId, _) => some ⟨term, nodeId⟩) fun _ => rfl

def logId : JsonFormat LogId :=
  (object "leader_id" leaderId <| field "index" u64 endObject).conv
    (fun l => (l.leaderId, l.index, ())) (fun (leader, index, _) => some ⟨leader, index⟩)
    fun _ => rfl

def vote : JsonFormat Vote :=
  (object "leader_id" leaderId <| field "committed" bool endObject).conv
    (fun v => (v.leaderId, v.committed, ()))
    (fun (leader, committed, _) => some ⟨leader, committed⟩) fun _ => rfl

def membership : JsonFormat Membership :=
  (object "configs" (list (list u64)) <|
    field "nodes" (map u64 ((object "addr" string endObject).conv (·, ()) (some ·.1)
      fun _ => rfl)) endObject).conv
    (fun m => (m.configs, m.nodes, ())) (fun (configs, nodes, _) => some ⟨configs, nodes⟩)
    fun _ => rfl

/-- A blank payload is written as a string. -/
theorem beq_of_render_blank (a : Unit) (b : UInt8) (text : Bytes)
    (h : (constant 34 [66, 108, 97, 110, 107, 34] quote_ne_close).render a = b :: text) :
    (b == 34) = true :=
  beq_of_render_constant _ a b text h

/-- The kind of a payload is read back from its name. -/
theorem find_payload_kind (normal : Bool) :
    (if (if normal then "Normal" else "Membership") = "Normal" then some true
      else if (if normal then "Normal" else "Membership") = "Membership" then some false
      else none) = some normal := by
  cases normal <;> rfl

/-- A payload that carries data: a command or a configuration. -/
def loadedPayload : JsonFormat (Σ normal : Bool, if normal then LogEntry else Membership) :=
  variant (fun normal => if normal then "Normal" else "Membership")
    (fun s => if s = "Normal" then some true else if s = "Membership" then some false else none)
    find_payload_kind
    fun normal => match normal with
      | true => logEntry
      | false => membership

def entryPayload : JsonFormat (EntryPayload LogEntry) :=
  (either (· == 34) (constant 34 [66, 108, 97, 110, 107, 34] quote_ne_close) loadedPayload
    beq_of_render_blank
    fun _ b _ h => by
      obtain rfl := (List.cons.inj h).1
      decide).conv
    (fun
      | .blank => .inl ()
      | .normal command => .inr ⟨true, command⟩
      | .membership config => .inr ⟨false, config⟩)
    (fun
      | .inl _ => some .blank
      | .inr ⟨true, command⟩ => some (.normal command)
      | .inr ⟨false, config⟩ => some (.membership config))
    fun p => by cases p <;> rfl

def dbEntry : JsonFormat DbEntry :=
  (object "log_id" logId <| field "payload" entryPayload endObject).conv
    (fun e => (e.logId, e.payload, ())) (fun (id, payload, _) => some ⟨id, payload⟩) fun _ => rfl

def snapshotData : JsonFormat SnapshotData :=
  list ((tuple string <| component bytes <| component bytes endTuple).conv
    (fun e => (e.1, e.2.1, e.2.2, ())) (fun (collection, key, value, _) =>
      some (collection, key, value)) fun _ => rfl)

scoped instance : RaftFormat where
  vote := vote.codec
  logId := logId.codec
  entry := dbEntry.codec
  snapshot := snapshotData.codec

end InfoVulcan.SerdeJson

/-! ## Samples -/

namespace InfoVulcan.Db

/-- The index fields of a ticket of an account. -/
def accountFields (account : String) : TicketIndexFields where
  status := 0
  accountUuid := account
  assignedToUuid := none
  project := ""
  trackingUrl := none
  createdAtUnix := 0
  updatedAtUnix := 0

/-- A command that is committed at an index of the first term. -/
def committedAt (index : UInt64) (command : LogEntry) : DbEntry where
  logId := ⟨⟨1, 1⟩, index⟩
  payload := .normal command

/-- The first entry creates a ticket of an account. -/
def createFirst (account : String) : DbEntry :=
  committedAt 1 (.createTicket [] (accountFields account))

end InfoVulcan.Db
