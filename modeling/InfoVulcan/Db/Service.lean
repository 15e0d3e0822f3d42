import InfoVulcan.Db.Server

/-!
# The DB service as a whole

The remaining handlers of the service, for users and for plain key-value pairs, and the node that
runs all of them. A command that fails when it is applied stops the Raft node, which from then on
refuses every write with the same error and still answers reads.
-/

namespace InfoVulcan.Db

/-! ## Messages -/

/-- The plaintext index fields of a user, as sent to the DB. -/
structure UserIndexMessage where
  username : String
  email : String
  role : UInt32
  deriving DecidableEq

/-- The index fields that stand for absent ones. -/
def UserIndexMessage.default : UserIndexMessage where
  username := ""
  email := ""
  role := 0

/-- A user record, as the DB returns it. -/
structure UserRecord where
  userUuid : String
  encryptedBody : Bytes
  deleted : Bool
  deletedAtUnix : Int64
  deriving DecidableEq

/-- The answer to a put or a delete. -/
structure WriteResponse where
  success : Bool
  error : String
  deriving DecidableEq

/-- The answer to a get. -/
structure GetResponse where
  found : Bool
  value : Bytes
  error : String
  deriving DecidableEq

/-- The answer to a batch of puts. -/
structure BatchPutResponse where
  success : Bool
  written : UInt32
  error : String
  deriving DecidableEq

/-- The index fields as they are stored. A role that does not fit into a byte counts as zero. -/
def userIndexFromProto (idx : UserIndexMessage) : UserIndexFields where
  username := idx.username
  email := idx.email
  role := if idx.role.toNat < 256 then UInt8.ofNat idx.role.toNat else 0

/-- The record of a stored user. -/
def userRecord (uuid : String) (stored : StoredUser) : UserRecord where
  userUuid := uuid
  encryptedBody := stored.body
  deleted := stored.deleted
  deletedAtUnix := stored.deletedAtUnix

/-- Whether a collection holds a key. -/
def keyExists (db : Sled) (collection : String) (key : Bytes) : Bool :=
  (get db collection key).isSome

/-! ## Handlers -/

namespace DatabaseService

variable [RowFormat]

/-- Creates a user under the given uuid. -/
def createUser [FailureText] (storage : Sled) (userUuid : String) (encryptedBody : Bytes)
    (index : Option UserIndexMessage) : Except Status UserRecord × Sled :=
  if userUuid = "" then
    (.error (.invalidArgument "create_user requires a user_uuid"), storage)
  else
    match (LogEntry.createUser userUuid encryptedBody
        (userIndexFromProto (index.getD .default))).apply storage with
    | (.error e, storage) =>
        (.error (.internal s!"Raft write failed: {FailureText.raftWrite e}"), storage)
    | (.ok _, storage) =>
        (.ok { userUuid, encryptedBody, deleted := false, deletedAtUnix := 0 }, storage)

/-- Reads a user. -/
def getUser (storage : Sled) (userUuid : String) (includeDeleted : Bool) :
    Except Status UserRecord :=
  match Db.getUser storage userUuid includeDeleted with
  | .error e => .error (.internal s!"Storage read failed: {e}")
  | .ok (some stored) => .ok (userRecord userUuid stored)
  | .ok none => .error (.notFound "user not found")

/-- Updates a user and returns their record. -/
def updateUser [FailureText] (storage : Sled) (userUuid : String) (encryptedBody : Bytes)
    (index : Option UserIndexMessage) : Except Status UserRecord × Sled :=
  if userUuid = "" then
    (.error (.invalidArgument "update_user requires a user_uuid"), storage)
  else
    match (LogEntry.updateUser userUuid encryptedBody
        (userIndexFromProto (index.getD .default))).apply storage with
    | (.error e, storage) =>
        (.error (.internal s!"Raft write failed: {FailureText.raftWrite e}"), storage)
    | (.ok _, storage) => (getUser storage userUuid true, storage)

/-- Soft-deletes a user. -/
def softDeleteUser [FailureText] (storage : Sled) (userUuid : String) (now : Int64) :
    Except Status Unit × Sled :=
  match (LogEntry.softDeleteUser userUuid now).apply storage with
  | (.error e, storage) =>
      (.error (.internal s!"Raft write failed: {FailureText.raftWrite e}"), storage)
  | (.ok _, storage) => (.ok (), storage)

/-- Stores a key-value pair. -/
def put [FailureText] (storage : Sled) (collection : String) (key value : Bytes) :
    Except Status WriteResponse × Sled :=
  match (LogEntry.put collection key value).apply storage with
  | (.error e, storage) =>
      (.error (.internal s!"Raft write failed: {FailureText.raftWrite e}"), storage)
  | (.ok _, storage) => (.ok { success := true, error := "" }, storage)

/-- The value of a key. -/
def get (storage : Sled) (collection : String) (key : Bytes) : Except Status GetResponse :=
  match Db.get storage collection key with
  | some value => .ok { found := true, value, error := "" }
  | none => .ok { found := false, value := [], error := "" }

/-- Deletes a key. -/
def delete [FailureText] (storage : Sled) (collection : String) (key : Bytes) :
    Except Status WriteResponse × Sled :=
  match (LogEntry.delete collection key).apply storage with
  | (.error e, storage) =>
      (.error (.internal s!"Raft write failed: {FailureText.raftWrite e}"), storage)
  | (.ok _, storage) => (.ok { success := true, error := "" }, storage)

/-- The key-value pairs with a key prefix, up to a limit. The limit `0` means unlimited. -/
def list (storage : Sled) (collection : String) (keyPrefix : Bytes) (limit : UInt32) :
    Except Status (List (Bytes × Bytes)) :=
  .ok (Db.list storage collection keyPrefix (if limit > 0 then some limit.toNat else none))

/-- Whether a key is there. -/
def keyExists (storage : Sled) (collection : String) (key : Bytes) : Except Status Bool :=
  .ok (Db.keyExists storage collection key)

/-- Stores several pairs as one command and returns their number. -/
def batchPut [FailureText] (storage : Sled) (collection : String)
    (items : List (Bytes × Bytes)) : Except Status BatchPutResponse × Sled :=
  let count :=
    if items.length < 2 ^ 32 then UInt32.ofNat items.length else UInt32.ofNat (2 ^ 32 - 1)
  match (LogEntry.batchPut collection items).apply storage with
  | (.error e, storage) =>
      (.error (.internal s!"Raft write failed: {FailureText.raftWrite e}"), storage)
  | (.ok _, storage) => (.ok { success := true, written := count, error := "" }, storage)

end DatabaseService

/-! ## Requests -/

/-- A request to the service. The time of a soft delete is that of the node's clock. -/
inductive Request where
  | createTicket (encryptedBody : Bytes) (index : Option TicketIndexMessage)
  | getTicket (ticketId : UInt64) (includeDeleted : Bool)
  | updateTicket (ticketId : UInt64) (encryptedBody : Bytes) (index : Option TicketIndexMessage)
  | softDeleteTicket (ticketId : UInt64) (now : Int64)
  | queryTickets (query : TicketQueryMessage)
  | createUser (userUuid : String) (encryptedBody : Bytes) (index : Option UserIndexMessage)
  | getUser (userUuid : String) (includeDeleted : Bool)
  | updateUser (userUuid : String) (encryptedBody : Bytes) (index : Option UserIndexMessage)
  | softDeleteUser (userUuid : String) (now : Int64)
  | put (collection : String) (key value : Bytes)
  | get (collection : String) (key : Bytes)
  | delete (collection : String) (key : Bytes)
  | list (collection : String) (keyPrefix : Bytes) (limit : UInt32)
  | keyExists (collection : String) (key : Bytes)
  | batchPut (collection : String) (items : List (Bytes × Bytes))
  deriving DecidableEq

/-- A reply of the service, by the message it carries. -/
inductive Reply where
  | ticket (result : Except Status TicketRecord)
  | tickets (result : Except Status (List TicketRecord))
  | user (result : Except Status UserRecord)
  | deleted (result : Except Status Unit)
  | written (result : Except Status WriteResponse)
  | value (result : Except Status GetResponse)
  | items (result : Except Status (List (Bytes × Bytes)))
  | found (result : Except Status Bool)
  | batch (result : Except Status BatchPutResponse)

namespace Request

/-- The command a request submits to Raft. A read submits none, nor does a request that is rejected
before. -/
def command? : Request → Option LogEntry
  | .createTicket body index =>
      some (.createTicket body (ticketIndexFromProto (index.getD .default)))
  | .updateTicket ticketId body index =>
      if ticketId = 0 then none
      else some (.updateTicket ticketId body (ticketIndexFromProto (index.getD .default)))
  | .softDeleteTicket ticketId now => some (.softDeleteTicket ticketId now)
  | .createUser userUuid body index =>
      if userUuid = "" then none
      else some (.createUser userUuid body (userIndexFromProto (index.getD .default)))
  | .updateUser userUuid body index =>
      if userUuid = "" then none
      else some (.updateUser userUuid body (userIndexFromProto (index.getD .default)))
  | .softDeleteUser userUuid now => some (.softDeleteUser userUuid now)
  | .put collection key value => some (.put collection key value)
  | .delete collection key => some (.delete collection key)
  | .batchPut collection items => some (.batchPut collection items)
  | _ => none

/-- The reply to a request that fails with a status. -/
def failed (status : Status) : Request → Reply
  | .createTicket _ _ | .getTicket _ _ | .updateTicket _ _ _ => .ticket (.error status)
  | .queryTickets _ => .tickets (.error status)
  | .createUser _ _ _ | .getUser _ _ | .updateUser _ _ _ => .user (.error status)
  | .softDeleteTicket _ _ | .softDeleteUser _ _ => .deleted (.error status)
  | .put _ _ _ | .delete _ _ => .written (.error status)
  | .get _ _ => .value (.error status)
  | .list _ _ _ => .items (.error status)
  | .keyExists _ _ => .found (.error status)
  | .batchPut _ _ => .batch (.error status)

/-- The collection a key-value request names. -/
def collection? : Request → Option String
  | .put collection _ _ => some collection
  | .get collection _ => some collection
  | .delete collection _ => some collection
  | .list collection _ _ => some collection
  | .keyExists collection _ => some collection
  | .batchPut collection _ => some collection
  | _ => none

end Request

/-! ## The node -/

variable [RowFormat] [FailureText]

/-- Answers a request on a node that runs. -/
def DatabaseService.answer (storage : Sled) : Request → Reply × Sled
  | .createTicket body index =>
      (createTicket storage body index).map .ticket id
  | .getTicket ticketId includeDeleted =>
      (.ticket (getTicket storage ticketId includeDeleted), storage)
  | .updateTicket ticketId body index =>
      (updateTicket storage ticketId body (index.getD .default)).map .ticket id
  | .softDeleteTicket ticketId now => (softDeleteTicket storage ticketId now).map .deleted id
  | .queryTickets query => (.tickets (queryTickets storage query), storage)
  | .createUser userUuid body index => (createUser storage userUuid body index).map .user id
  | .getUser userUuid includeDeleted => (.user (getUser storage userUuid includeDeleted), storage)
  | .updateUser userUuid body index => (updateUser storage userUuid body index).map .user id
  | .softDeleteUser userUuid now => (softDeleteUser storage userUuid now).map .deleted id
  | .put collection key value => (put storage collection key value).map .written id
  | .get collection key => (.value (get storage collection key), storage)
  | .delete collection key => (delete storage collection key).map .written id
  | .list collection keyPrefix limit => (.items (list storage collection keyPrefix limit), storage)
  | .keyExists collection key => (.found (keyExists storage collection key), storage)
  | .batchPut collection items => (batchPut storage collection items).map .batch id

/-- A node of the service: what it stores, and the error of the command that has stopped it. -/
structure DbNode where
  storage : Sled
  stopped : Option String

/-- A node that starts on an empty path. -/
def DbNode.blank : DbNode := ⟨Keyspace.empty, none⟩

/-- Handles a request. A stopped node refuses what would submit a command, with the error that has
stopped it; a running one is stopped by a command that fails. -/
def DbNode.handle (node : DbNode) (req : Request) : Reply × DbNode :=
  match req.command?, node.stopped with
  | some _, some e =>
      (req.failed (.internal s!"Raft write failed: {FailureText.raftWrite e}"), node)
  | some command, none =>
      let (reply, storage) := DatabaseService.answer node.storage req
      match (command.apply node.storage).1 with
      | .error e => (reply, ⟨storage, some e⟩)
      | .ok _ => (reply, ⟨storage, none⟩)
  | none, _ => ((DatabaseService.answer node.storage req).1, node)

end InfoVulcan.Db
