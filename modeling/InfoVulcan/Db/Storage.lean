import InfoVulcan.Sled

/-!
# The storage layer of the DB service

Tickets and users are stored as an opaque body next to plaintext index fields, which the
secondary index trees list under `value ++ 0x00 ++ entity`. Each function returns the database as
it stands afterwards, together with its result or error text where it can fail.
-/

namespace InfoVulcan.Db

/-! ## Tree names -/

def TREE_RAFT_METADATA : String := "raft_metadata"
def TREE_RAFT_STATE : String := "raft_state"
def TREE_RAFT_LOG : String := "raft_log"
def TREE_TICKETS : String := "tickets"
def TREE_USERS : String := "users"

def TREE_SEQ : String := "seq"
def SEQ_TICKET : Bytes := Bytes.ofText "ticket"

def IDX_TICKET_STATUS : String := "idx_ticket_status"
def IDX_TICKET_ASSIGNEE : String := "idx_ticket_assignee"
def IDX_TICKET_PROJECT : String := "idx_ticket_project"
def IDX_TICKET_ACCOUNT : String := "idx_ticket_account"
def IDX_TICKET_CREATED : String := "idx_ticket_created"
def IDX_TICKET_UPDATED : String := "idx_ticket_updated"
def IDX_TICKET_TRACKING : String := "idx_ticket_tracking"
def IDX_USER_NAME : String := "idx_user_name"
def IDX_USER_EMAIL : String := "idx_user_email"
def IDX_USER_ROLE : String := "idx_user_role"

/-- The seven index trees of tickets. -/
def ticketIndexTrees : List String :=
  [IDX_TICKET_STATUS, IDX_TICKET_ACCOUNT, IDX_TICKET_PROJECT, IDX_TICKET_CREATED,
    IDX_TICKET_UPDATED, IDX_TICKET_ASSIGNEE, IDX_TICKET_TRACKING]

/-- The three index trees of users. -/
def userIndexTrees : List String :=
  [IDX_USER_NAME, IDX_USER_EMAIL, IDX_USER_ROLE]

/-! ## Records -/

/-- The plaintext, indexable fields of a ticket. -/
structure TicketIndexFields where
  status : UInt8
  accountUuid : String
  assignedToUuid : Option String
  project : String
  trackingUrl : Option String
  createdAtUnix : Int64
  updatedAtUnix : Int64
  deriving DecidableEq

/-- The plaintext, indexable fields of a user. -/
structure UserIndexFields where
  username : String
  email : String
  role : UInt8
  deriving DecidableEq

/-- A stored row: opaque body, index fields, and soft-delete state. -/
structure Stored (I : Type) where
  body : Bytes
  index : I
  deleted : Bool
  deletedAtUnix : Int64
  deriving DecidableEq

/-- A stored ticket. -/
abbrev StoredTicket := Stored TicketIndexFields

/-- A stored user. -/
abbrev StoredUser := Stored UserIndexFields

/-- Filter of `queryTickets`. Set fields are combined with AND. A limit of `0` means
unlimited. -/
structure TicketQuery where
  status : Option UInt8
  assignedToUuid : Option String
  accountUuid : Option String
  project : Option String
  includeDeleted : Bool
  limit : Nat

/-- The JSON formats of the rows. -/
class RowFormat where
  storedTicket : Codec StoredTicket
  storedUser : Codec StoredUser

/-! ## Key-value operations -/

/-- Stores a key-value pair in a collection. -/
def put (db : Sled) (collection : String) (key value : Bytes) : Sled :=
  Keyspace.put db ⟨collection, key⟩ value

/-- The value of a key in a collection. -/
def get (db : Sled) (collection : String) (key : Bytes) : Option Bytes :=
  Keyspace.get db collection key

/-- Deletes a key from a collection. -/
def delete (db : Sled) (collection : String) (key : Bytes) : Sled :=
  Keyspace.remove db ⟨collection, key⟩

/-- The entries of a collection whose key starts with `keyPrefix`, in ascending key order. -/
def scanPrefix (db : Sled) (collection : String) (keyPrefix : Bytes) : List (Bytes × Bytes) :=
  (Keyspace.scan db collection).filter fun kv => keyPrefix.isPrefixOf kv.1

/-- The key-value pairs of a collection with an optional key prefix and an optional limit. -/
def list (db : Sled) (collection : String) (keyPrefix : Bytes) (limit : Option Nat) :
    List (Bytes × Bytes) :=
  let iter := if keyPrefix.isEmpty then Keyspace.scan db collection
    else scanPrefix db collection keyPrefix
  match limit with
  | some n => iter.take n
  | none => iter

/-- Stores several pairs in one collection as one batch; a later pair wins over an earlier one
with the same key. -/
def batchPut (db : Sled) (collection : String) (pairs : List (Bytes × Bytes)) : Sled :=
  pairs.foldl (fun db kv => put db collection kv.1 kv.2) db

/-- The trees that belong to no state-machine collection. -/
def skippedTrees : List String :=
  [TREE_RAFT_METADATA, TREE_RAFT_STATE, TREE_RAFT_LOG, "__sled__default"]

/-- The names of the state-machine trees. -/
def dataTreeNames (db : Sled) : List String :=
  (Keyspace.spaces db).filter fun name => !skippedTrees.contains name

/-! ## Index keys -/

/-- The key under which `entityKey` is listed for `value`. -/
def indexKey (value entityKey : Bytes) : Bytes :=
  value ++ [0] ++ entityKey

/-- The scan prefix of everything listed for `value`. -/
def indexPrefix (value : Bytes) : Bytes :=
  value ++ [0]

/-- The successor of a word, saturating at the largest one. -/
def saturatingSucc (x : UInt64) : UInt64 :=
  if x.toNat + 1 < 2 ^ 64 then x + 1 else x

/-- The next value of a sequence counter. Stored bytes of the wrong length count as zero. -/
def nextCounter (old : Option Bytes) : UInt64 :=
  match old with
  | some bytes => saturatingSucc ((Bytes.toU64? bytes).getD 0)
  | none => 1

/-- Allocates the next id of a sequence. -/
def nextId (db : Sled) (name : Bytes) : UInt64 × Sled :=
  let next := nextCounter (get db TREE_SEQ name)
  (next, put db TREE_SEQ name (Bytes.ofU64 next))

/-! ## Tables with secondary indexes

Tickets and users are kept the same way. `Table` carries what differs: the tree and key of a row,
its format, the index trees that list it, and the wording of a missing row. -/

/-- A collection of rows with soft delete and secondary indexes. Rows are listed in index trees
only, and no index tree is the tree of the rows. -/
structure Table (ι I : Type) where
  tree : String
  indexTrees : List String
  entity : ι → Bytes
  format : Codec (Stored I)
  indexEntries : I → List (String × Bytes)
  notFound : ι → String
  entries_listed : ∀ index, ∀ e ∈ indexEntries index, e.1 ∈ indexTrees
  tree_unlisted : tree ∉ indexTrees

namespace Table

variable {ι I : Type} (t : Table ι I)

/-- Inserts or removes every index entry of a row. -/
def writeIndexes (db : Sled) (id : ι) (index : I) (insert : Bool) : Sled :=
  (t.indexEntries index).foldl (fun db e =>
    let key := indexKey e.2 (t.entity id)
    if insert then put db e.1 key (t.entity id) else delete db e.1 key) db

/-- Writes a fresh row and its index entries. -/
def create (db : Sled) (id : ι) (body : Bytes) (index : I) : Sled :=
  let stored : Stored I := { body, index, deleted := false, deletedAtUnix := 0 }
  let db := put db t.tree (t.entity id) (t.format.encode stored)
  t.writeIndexes db id index true

/-- Reads a row. A soft-deleted one is hidden unless `includeDeleted` is set. -/
def read (db : Sled) (id : ι) (includeDeleted : Bool) : Except String (Option (Stored I)) :=
  match get db t.tree (t.entity id) with
  | some bytes =>
      match t.format.decode bytes with
      | .error e => .error e
      | .ok stored =>
          if stored.deleted && !includeDeleted then .ok none else .ok (some stored)
  | none => .ok none

/-- Replaces body and index fields of a row and re-points its index entries. A soft-deleted row
has none. -/
def update (db : Sled) (id : ι) (body : Bytes) (index : I) : Except String Unit × Sled :=
  match get db t.tree (t.entity id) with
  | none => (.error (t.notFound id), db)
  | some oldBytes =>
      match t.format.decode oldBytes with
      | .error e => (.error e, db)
      | .ok old =>
          let db := if !old.deleted then t.writeIndexes db id old.index false else db
          let stored : Stored I :=
            { body, index, deleted := old.deleted, deletedAtUnix := old.deletedAtUnix }
          let db := put db t.tree (t.entity id) (t.format.encode stored)
          let db := if !stored.deleted then t.writeIndexes db id index true else db
          (.ok (), db)

/-- Marks a row deleted and drops it from the indexes; the row is kept. -/
def softDelete (db : Sled) (id : ι) (atUnix : Int64) : Except String Unit × Sled :=
  match get db t.tree (t.entity id) with
  | none => (.error (t.notFound id), db)
  | some bytes =>
      match t.format.decode bytes with
      | .error e => (.error e, db)
      | .ok stored =>
          let db := if !stored.deleted then t.writeIndexes db id stored.index false else db
          let stored := { stored with deleted := true, deletedAtUnix := atUnix }
          (.ok (), put db t.tree (t.entity id) (t.format.encode stored))

end Table

/-! ## Tickets -/

/-- The index trees that list a ticket and the value it is listed under in each. -/
def ticketIndexEntries (index : TicketIndexFields) : List (String × Bytes) :=
  [(IDX_TICKET_STATUS, [index.status]),
   (IDX_TICKET_ACCOUNT, Bytes.ofText index.accountUuid),
   (IDX_TICKET_PROJECT, Bytes.ofText index.project),
   (IDX_TICKET_CREATED, Bytes.ofI64 index.createdAtUnix),
   (IDX_TICKET_UPDATED, Bytes.ofI64 index.updatedAtUnix)] ++
  (index.assignedToUuid.map fun a => (IDX_TICKET_ASSIGNEE, Bytes.ofText a)).toList ++
  (index.trackingUrl.map fun u => (IDX_TICKET_TRACKING, Bytes.ofText u)).toList

variable [RowFormat]

/-- The ticket table. -/
def tickets : Table UInt64 TicketIndexFields where
  tree := TREE_TICKETS
  indexTrees := ticketIndexTrees
  entity := Bytes.ofU64
  format := RowFormat.storedTicket
  indexEntries := ticketIndexEntries
  notFound id := s!"ticket {id} not found"
  entries_listed index e he := by
    rcases index with ⟨_, _, _ | _, _, _ | _, _, _⟩ <;>
      simp [ticketIndexEntries] at he <;> simp [ticketIndexTrees] <;> grind
  tree_unlisted := by decide

/-- Creates a ticket and returns its id. -/
def createTicket (db : Sled) (body : Bytes) (index : TicketIndexFields) : UInt64 × Sled :=
  let (id, db) := nextId db SEQ_TICKET
  (id, tickets.create db id body index)

/-- Reads a stored ticket. -/
def getTicket (db : Sled) (id : UInt64) (includeDeleted : Bool) :
    Except String (Option StoredTicket) :=
  tickets.read db id includeDeleted

/-- Updates a ticket. -/
def updateTicket (db : Sled) (id : UInt64) (body : Bytes) (index : TicketIndexFields) :
    Except String Unit × Sled :=
  tickets.update db id body index

/-- Soft-deletes a ticket. -/
def softDeleteTicket (db : Sled) (id : UInt64) (atUnix : Int64) : Except String Unit × Sled :=
  tickets.softDelete db id atUnix

/-- The ids of all ticket rows. -/
def allTicketIds (db : Sled) : List UInt64 :=
  (list db TREE_TICKETS [] none).filterMap fun kv => Bytes.toU64? kv.1

/-- The ids listed in an index tree under keys that start with `value ++ 0x00`. -/
def scanIndexIds (db : Sled) (treeName : String) (value : Bytes) : List UInt64 :=
  (scanPrefix db treeName (indexPrefix value)).filterMap fun kv => Bytes.toU64? kv.2

/-- The texts listed in an index tree under keys that start with `value ++ 0x00`. -/
def scanIndexIdsStr (db : Sled) (treeName : String) (value : Bytes) : List String :=
  (scanPrefix db treeName (indexPrefix value)).map fun kv => Bytes.fromUtf8Lossy kv.2

/-- Whether a row passes every filter the query sets. -/
def TicketQuery.matches (query : TicketQuery) (index : TicketIndexFields) : Bool :=
  !(query.status.any fun s => index.status != s) &&
  !(query.assignedToUuid.any fun a => index.assignedToUuid != some a) &&
  !(query.accountUuid.any fun a => index.accountUuid != a) &&
  !(query.project.any fun p => index.project != p)

/-- The ids a query looks at: one index, or every row. -/
def queryCandidates (db : Sled) (query : TicketQuery) : List UInt64 :=
  if query.includeDeleted then allTicketIds db
  else match query.status with
    | some status => scanIndexIds db IDX_TICKET_STATUS [status]
    | none => match query.assignedToUuid with
      | some assignee => scanIndexIds db IDX_TICKET_ASSIGNEE (Bytes.ofText assignee)
      | none => match query.accountUuid with
        | some account => scanIndexIds db IDX_TICKET_ACCOUNT (Bytes.ofText account)
        | none => match query.project with
          | some project => scanIndexIds db IDX_TICKET_PROJECT (Bytes.ofText project)
          | none => allTicketIds db

/-- The loop of `queryTickets`: it collects the matching rows of the candidates into `out` and
stops when a positive limit is reached. -/
def queryLoop (db : Sled) (query : TicketQuery) :
    List UInt64 → List (UInt64 × StoredTicket) → Except String (List (UInt64 × StoredTicket))
  | [], out => .ok out
  | id :: candidates, out =>
      match getTicket db id query.includeDeleted with
      | .error e => .error e
      | .ok none => queryLoop db query candidates out
      | .ok (some stored) =>
          if query.matches stored.index then
            let out := out ++ [(id, stored)]
            if query.limit > 0 ∧ out.length ≥ query.limit then .ok out
            else queryLoop db query candidates out
          else queryLoop db query candidates out

/-- Queries tickets by index, applying the remaining filters to the rows. -/
def queryTickets (db : Sled) (query : TicketQuery) :
    Except String (List (UInt64 × StoredTicket)) :=
  queryLoop db query (queryCandidates db query) []

/-! ## Users -/

/-- The index trees that list a user and the value it is listed under in each. -/
def userIndexEntries (index : UserIndexFields) : List (String × Bytes) :=
  [(IDX_USER_NAME, Bytes.ofText index.username),
   (IDX_USER_EMAIL, Bytes.ofText index.email),
   (IDX_USER_ROLE, [index.role])]

/-- The user table. -/
def users : Table String UserIndexFields where
  tree := TREE_USERS
  indexTrees := userIndexTrees
  entity := Bytes.ofText
  format := RowFormat.storedUser
  indexEntries := userIndexEntries
  notFound userUuid := s!"user {userUuid} not found"
  entries_listed index e he := by
    simp [userIndexEntries] at he
    simp [userIndexTrees]
    grind
  tree_unlisted := by decide

/-- Creates a user under its uuid. -/
def createUser (db : Sled) (userUuid : String) (body : Bytes) (index : UserIndexFields) : Sled :=
  users.create db userUuid body index

/-- Reads a stored user. -/
def getUser (db : Sled) (userUuid : String) (includeDeleted : Bool) :
    Except String (Option StoredUser) :=
  users.read db userUuid includeDeleted

/-- Updates a user. -/
def updateUser (db : Sled) (userUuid : String) (body : Bytes) (index : UserIndexFields) :
    Except String Unit × Sled :=
  users.update db userUuid body index

/-- Soft-deletes a user. -/
def softDeleteUser (db : Sled) (userUuid : String) (atUnix : Int64) : Except String Unit × Sled :=
  users.softDelete db userUuid atUnix

/-! ## Log entries -/

/-- A replicated database operation. -/
inductive LogEntry where
  | put (collection : String) (key value : Bytes)
  | get (collection : String) (key : Bytes)
  | delete (collection : String) (key : Bytes)
  | batchPut (collection : String) (pairs : List (Bytes × Bytes))
  | createTicket (body : Bytes) (index : TicketIndexFields)
  | updateTicket (ticketId : UInt64) (body : Bytes) (index : TicketIndexFields)
  | softDeleteTicket (ticketId : UInt64) (atUnix : Int64)
  | createUser (userUuid : String) (body : Bytes) (index : UserIndexFields)
  | updateUser (userUuid : String) (body : Bytes) (index : UserIndexFields)
  | softDeleteUser (userUuid : String) (atUnix : Int64)
  deriving DecidableEq

/-- The result of an operation that has no payload for the client. -/
def noPayload (result : Except String Unit × Sled) : Except String (Option Bytes) × Sled :=
  (result.1.map fun _ => none, result.2)

/-- Applies a log entry. The payload is the assigned id for `createTicket`, and absent
otherwise. -/
def LogEntry.apply (db : Sled) : LogEntry → Except String (Option Bytes) × Sled
  | .put collection key value => (.ok none, Db.put db collection key value)
  | .get _ _ => (.ok none, db)
  | .delete collection key => (.ok none, Db.delete db collection key)
  | .batchPut collection pairs => (.ok none, Db.batchPut db collection pairs)
  | .createTicket body index =>
      let (id, db) := Db.createTicket db body index
      (.ok (some (Bytes.ofU64 id)), db)
  | .updateTicket ticketId body index => noPayload (Db.updateTicket db ticketId body index)
  | .softDeleteTicket ticketId atUnix => noPayload (Db.softDeleteTicket db ticketId atUnix)
  | .createUser userUuid body index => (.ok none, Db.createUser db userUuid body index)
  | .updateUser userUuid body index => noPayload (Db.updateUser db userUuid body index)
  | .softDeleteUser userUuid atUnix => noPayload (Db.softDeleteUser db userUuid atUnix)

end InfoVulcan.Db
