import InfoVulcan.Db.LogEntry
import InfoVulcan.Shared.Foreign

/-!
# RPC handlers of the DB service

The handlers through which another service creates, reads, updates, deletes and queries tickets. A
write goes through Raft; it is answered once the entry has been applied.
-/

namespace InfoVulcan.Db

/-- The plaintext index fields of a ticket, as sent to the DB. -/
structure TicketIndexMessage where
  status : UInt32
  accountUuid : String
  assignedToUuid : Option String
  project : String
  trackingUrl : Option String
  createdAtUnix : Int64
  updatedAtUnix : Int64
  deriving DecidableEq

namespace TicketIndexMessage

/-- The index fields that stand for absent ones. -/
def default : TicketIndexMessage where
  status := 0
  accountUuid := ""
  assignedToUuid := none
  project := ""
  trackingUrl := none
  createdAtUnix := 0
  updatedAtUnix := 0

end TicketIndexMessage

/-- A query for tickets, as sent to the DB. -/
structure TicketQueryMessage where
  status : Option UInt32
  assignedToUuid : Option String
  accountUuid : Option String
  project : Option String
  includeDeleted : Bool
  limit : UInt32
  deriving DecidableEq

/-- A ticket record, as the DB returns it. -/
structure TicketRecord where
  ticketId : UInt64
  encryptedBody : Bytes
  deleted : Bool
  deletedAtUnix : Int64
  deriving DecidableEq

/-- The index fields as they are stored. A status that does not fit into a byte counts as
zero. -/
def ticketIndexFromProto (idx : TicketIndexMessage) : TicketIndexFields where
  status := if idx.status.toNat < 256 then UInt8.ofNat idx.status.toNat else 0
  accountUuid := idx.accountUuid
  assignedToUuid := idx.assignedToUuid
  project := idx.project
  trackingUrl := idx.trackingUrl
  createdAtUnix := idx.createdAtUnix
  updatedAtUnix := idx.updatedAtUnix

/-- The filters as the storage layer takes them. A status that does not fit into a byte is
dropped, so the query is not filtered by status at all. -/
def ticketQueryFromProto (req : TicketQueryMessage) : TicketQuery where
  status := req.status.bind fun s =>
    if s.toNat < 256 then some (UInt8.ofNat s.toNat) else none
  assignedToUuid := req.assignedToUuid
  accountUuid := req.accountUuid
  project := req.project
  includeDeleted := req.includeDeleted
  limit := req.limit.toNat

/-- The record of a stored ticket. -/
def ticketRecord (id : UInt64) (stored : StoredTicket) : TicketRecord where
  ticketId := id
  encryptedBody := stored.body
  deleted := stored.deleted
  deletedAtUnix := stored.deletedAtUnix

namespace DatabaseService

variable [RowFormat]

/-- Creates a ticket. Its id is the payload of the applied entry. -/
def createTicket [FailureText] (storage : Sled) (encryptedBody : Bytes)
    (index : Option TicketIndexMessage) : Except Status TicketRecord × Sled :=
  match (LogEntry.createTicket encryptedBody
      (ticketIndexFromProto (index.getD .default))).apply storage with
  | (.error e, storage) =>
      (.error (.internal s!"Raft write failed: {FailureText.raftWrite e}"), storage)
  | (.ok value, storage) =>
      match value.bind Bytes.toU64? with
      | some ticketId =>
          (.ok { ticketId, encryptedBody, deleted := false, deletedAtUnix := 0 }, storage)
      | none => (.error (.internal "create_ticket did not return an id"), storage)

/-- Reads a ticket. -/
def getTicket (storage : Sled) (ticketId : UInt64) (includeDeleted : Bool) :
    Except Status TicketRecord :=
  match Db.getTicket storage ticketId includeDeleted with
  | .error e => .error (.internal s!"Storage read failed: {e}")
  | .ok (some stored) => .ok (ticketRecord ticketId stored)
  | .ok none => .error (.notFound "ticket not found")

/-- Updates a ticket and returns its record. -/
def updateTicket [FailureText] (storage : Sled) (ticketId : UInt64) (encryptedBody : Bytes)
    (index : TicketIndexMessage) : Except Status TicketRecord × Sled :=
  if ticketId = 0 then (.error (.invalidArgument "update_ticket requires a ticket_id"), storage)
  else
    match (LogEntry.updateTicket ticketId encryptedBody (ticketIndexFromProto index)).apply
        storage with
    | (.error e, storage) =>
        (.error (.internal s!"Raft write failed: {FailureText.raftWrite e}"), storage)
    | (.ok _, storage) => (getTicket storage ticketId true, storage)

/-- Soft-deletes a ticket. -/
def softDeleteTicket [FailureText] (storage : Sled) (ticketId : UInt64) (now : Int64) :
    Except Status Unit × Sled :=
  match (LogEntry.softDeleteTicket ticketId now).apply storage with
  | (.error e, storage) =>
      (.error (.internal s!"Raft write failed: {FailureText.raftWrite e}"), storage)
  | (.ok _, storage) => (.ok (), storage)

/-- Queries tickets. -/
def queryTickets (storage : Sled) (req : TicketQueryMessage) :
    Except Status (List TicketRecord) :=
  match Db.queryTickets storage (ticketQueryFromProto req) with
  | .error e => .error (.internal s!"Storage query failed: {e}")
  | .ok rows => .ok (rows.map fun row => ticketRecord row.1 row.2)

end DatabaseService

/-! ## Writing a ticket -/

namespace DatabaseService

variable [RowFormat]

/-- A creation always succeeds, under the id the counter moves to. -/
theorem createTicket_eq [FailureText] (storage : Sled) (body : Bytes)
    (index : Option TicketIndexMessage) :
    createTicket storage body index =
      (.ok ⟨nextCounter (storage.at? seqCell), body, false, 0⟩,
        ((LogEntry.createTicket body (ticketIndexFromProto (index.getD .default))).apply
          storage).2) := by
  have hresult : ((LogEntry.createTicket body
      (ticketIndexFromProto (index.getD .default))).apply storage).1 =
        .ok (some (Bytes.ofU64 (nextCounter (storage.at? seqCell)))) := by
    rw [LogEntry.apply_eq_exec]
    rfl
  unfold createTicket
  generalize (LogEntry.createTicket body _).apply storage = applied at hresult ⊢
  obtain ⟨result, storage'⟩ := applied
  subst hresult
  simp

/-- An update applies its entry, unless it is for the id zero. -/
theorem updateTicket_storage [FailureText] (storage : Sled) (ticketId : UInt64) (body : Bytes)
    (index : TicketIndexMessage) :
    (updateTicket storage ticketId body index).2 =
      if ticketId = 0 then storage
      else ((LogEntry.updateTicket ticketId body (ticketIndexFromProto index)).apply storage).2 := by
  unfold updateTicket
  split
  · rfl
  · split <;> simp_all

/-- A soft delete applies its entry. -/
theorem softDeleteTicket_storage [FailureText] (storage : Sled) (ticketId : UInt64) (now : Int64) :
    (softDeleteTicket storage ticketId now).2 =
      ((LogEntry.softDeleteTicket ticketId now).apply storage).2 := by
  unfold softDeleteTicket
  split <;> simp_all

/-- What a read of a ticket returns depends on its row only. -/
theorem getTicket_congr {storage storage' : Sled} {ticketId : UInt64}
    (h : storage'.at? (tickets.rowCell ticketId) = storage.at? (tickets.rowCell ticketId))
    (includeDeleted : Bool) :
    getTicket storage' ticketId includeDeleted = getTicket storage ticketId includeDeleted := by
  have hget : get storage' tickets.tree (tickets.entity ticketId) =
      get storage tickets.tree (tickets.entity ticketId) := h
  simp only [getTicket, Db.getTicket, Table.read, hget]

/-- A record is returned when its row is stored and not deleted. -/
theorem getTicket_eq_ok {storage : Sled} {ticketId : UInt64} {record : TicketRecord} :
    getTicket storage ticketId false = .ok record ↔
      ∃ bytes row, storage.at? (tickets.rowCell ticketId) = some bytes ∧
        tickets.format.decode bytes = .ok row ∧ row.deleted = false ∧
        record = ticketRecord ticketId row := by
  have hat : get storage tickets.tree (tickets.entity ticketId) =
      storage.at? (tickets.rowCell ticketId) := rfl
  simp only [getTicket, Db.getTicket, Table.read, hat]
  cases storage.at? (tickets.rowCell ticketId) with
  | none => simp
  | some bytes =>
      cases hrow : tickets.format.decode bytes with
      | error e => simp [hrow]
      | ok row =>
          cases hdel : row.deleted with
          | true => simp [hrow, hdel]
          | false => simpa [hrow, hdel] using eq_comm

/-- A ticket that can be read after a soft delete could be read before. -/
theorem getTicket_of_softDeleteTicket [FailureText] {storage : Sled} {ticketId j : UInt64}
    {now : Int64} {record : TicketRecord}
    (h : getTicket (softDeleteTicket storage ticketId now).2 j false = .ok record) :
    getTicket storage j false = .ok record := by
  have happly : ((LogEntry.softDeleteTicket ticketId now).apply storage).2 = storage.applyWrites
      (tickets.changeRow ticketId (Table.retired · now)
        (storage.at? (tickets.rowCell ticketId))).2 := by
    rw [LogEntry.apply_eq_exec]
    rfl
  rw [softDeleteTicket_storage, happly] at h
  cases hrow : storage.at? (tickets.rowCell ticketId) with
  | none => rwa [hrow] at h
  | some bytes =>
      rw [hrow, Table.changeRow] at h
      cases hdecode : tickets.format.decode bytes with
      | error e => rwa [hdecode] at h
      | ok row =>
          rw [hdecode] at h
          have hcell := tickets.rowCell_rewrite storage ticketId j (some row)
            (Table.retired row now)
          by_cases hj : tickets.rowCell j = tickets.rowCell ticketId
          · -- The row is marked deleted now, so it cannot be read.
            rw [if_pos hj] at hcell
            obtain ⟨bytes', row', hat, hdecode', hlive, -⟩ := getTicket_eq_ok.mp h
            obtain rfl := Option.some.inj (hcell.symm.trans hat)
            rw [tickets.format.decode_encode] at hdecode'
            obtain rfl := Except.ok.inj hdecode'
            cases hlive
          · rw [if_neg hj] at hcell
            rwa [getTicket_congr hcell] at h

/-- An update of a ticket that can be read succeeds. A read then returns the new body, and every
other ticket is as it was. -/
theorem updateTicket_of_getTicket [FailureText] {storage : Sled} {ticketId : UInt64}
    {record : TicketRecord} (h : getTicket storage ticketId false = .ok record)
    (hid : ticketId ≠ 0) (body : Bytes) (index : TicketIndexMessage) :
    ∃ storage', updateTicket storage ticketId body index =
        (.ok { record with encryptedBody := body }, storage') ∧
      getTicket storage' ticketId false = .ok { record with encryptedBody := body } ∧
      ∀ j, j ≠ ticketId → getTicket storage' j false = getTicket storage j false := by
  obtain ⟨bytes, row, hat, hdecode, hdel, rfl⟩ := getTicket_eq_ok.mp h
  let new := Table.updated row body (ticketIndexFromProto index)
  let storage' := storage.applyWrites (tickets.rewrite ticketId (some row) new)
  have happly : (LogEntry.updateTicket ticketId body (ticketIndexFromProto index)).apply storage =
      (.ok none, storage') := by
    simp only [LogEntry.apply, Db.updateTicket, noPayload, Table.update_eq, Table.changeRow, hat,
      hdecode]
    rfl
  have hrows : ∀ j, storage'.at? (tickets.rowCell j) =
      if tickets.rowCell j = tickets.rowCell ticketId then some (tickets.format.encode new)
      else storage.at? (tickets.rowCell j) :=
    fun j => tickets.rowCell_rewrite storage ticketId j (some row) new
  have hread : getTicket storage' ticketId false = .ok (ticketRecord ticketId new) :=
    getTicket_eq_ok.mpr ⟨_, new, (hrows ticketId).trans (if_pos rfl), by simp, hdel, rfl⟩
  have hreadAll : getTicket storage' ticketId true = .ok (ticketRecord ticketId new) := by
    have hget : get storage' tickets.tree (tickets.entity ticketId) =
        some (tickets.format.encode new) := (hrows ticketId).trans (if_pos rfl)
    simp [getTicket, Db.getTicket, Table.read, hget]
  refine ⟨storage', ?_, hread, fun j hj => ?_⟩
  · rw [updateTicket, if_neg hid, happly]
    exact congrArg (·, storage') hreadAll
  exact getTicket_congr ((hrows j).trans (if_neg (tickets_rowCell_inj.not.mpr hj))) false

end DatabaseService

end InfoVulcan.Db
