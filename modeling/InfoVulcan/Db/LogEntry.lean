import InfoVulcan.Db.Storage

/-!
# Log entries as transactions

Every log entry reads at most one cell, the sequence counter of tickets or the row it changes, and
then writes unconditionally. `LogEntry.transaction` makes reads and writes explicit, and
`LogEntry.apply_eq_exec` says that applying the entry is running that transaction.
-/

namespace InfoVulcan.Db

/-- A batch of puts as writes. -/
theorem batchPut_eq (db : Sled) (collection : String) (pairs : List (Bytes × Bytes)) :
    batchPut db collection pairs =
      db.applyWrites (pairs.map fun kv => .put ⟨collection, kv.1⟩ kv.2) := by
  rw [batchPut, Keyspace.applyWrites, List.foldl_map]
  rfl

/-! ## The writes of a table -/

namespace Table

variable {ι I : Type} (t : Table ι I)

/-- The cell of a row. -/
def rowCell (id : ι) : SledCell :=
  ⟨t.tree, t.entity id⟩

/-- The index cells that list a row. -/
def postings (id : ι) (index : I) : List SledCell :=
  (t.indexEntries index).map fun e => ⟨e.1, indexKey e.2 (t.entity id)⟩

/-- The writes that list a row in the given cells. -/
def enlist (id : ι) (cells : List SledCell) : List SledWrite :=
  cells.map fun c => .put c (t.entity id)

/-- The writes that clear the given cells. -/
def delist (cells : List SledCell) : List SledWrite :=
  cells.map .remove

/-- The index cells of a row as it is stored. An absent or soft-deleted row has none. -/
def listed (id : ι) : Option (Stored I) → List SledCell
  | some row => if row.deleted then [] else t.postings id row.index
  | none => []

/-- The write of a row. -/
def putRow (id : ι) (row : Stored I) : SledWrite :=
  .put (t.rowCell id) (t.format.encode row)

/-- A row as it is first written. -/
def fresh (body : Bytes) (index : I) : Stored I :=
  { body, index, deleted := false, deletedAtUnix := 0 }

/-- A row after an update. -/
def updated (old : Stored I) (body : Bytes) (index : I) : Stored I :=
  { body, index, deleted := old.deleted, deletedAtUnix := old.deletedAtUnix }

/-- A row after a soft delete. -/
def retired (row : Stored I) (atUnix : Int64) : Stored I :=
  { row with deleted := true, deletedAtUnix := atUnix }

/-- The writes that put the row `new` in the place of `old`. -/
def rewrite (id : ι) (old : Option (Stored I)) (new : Stored I) : List SledWrite :=
  delist (t.listed id old) ++ t.putRow id new :: t.enlist id (t.listed id (some new))

/-- A change of the row found in `bytes`, as its outcome and its writes. -/
def changeRow (id : ι) (change : Stored I → Stored I) (bytes : Option Bytes) :
    Except String Unit × List SledWrite :=
  match bytes with
  | none => (.error (t.notFound id), [])
  | some bytes =>
      match t.format.decode bytes with
      | .error e => (.error e, [])
      | .ok old => (.ok (), t.rewrite id (some old) (change old))

theorem writeIndexes_insert (db : Sled) (id : ι) (index : I) :
    t.writeIndexes db id index true = db.applyWrites (t.enlist id (t.postings id index)) := by
  rw [writeIndexes, Keyspace.applyWrites, enlist, postings, List.map_map, List.foldl_map]
  rfl

theorem writeIndexes_remove (db : Sled) (id : ι) (index : I) :
    t.writeIndexes db id index false = db.applyWrites (delist (t.postings id index)) := by
  rw [writeIndexes, Keyspace.applyWrites, delist, postings, List.map_map, List.foldl_map]
  rfl

theorem create_eq (db : Sled) (id : ι) (body : Bytes) (index : I) :
    t.create db id body index = db.applyWrites (t.rewrite id none (fresh body index)) := by
  rw [create, writeIndexes_insert]
  rfl

theorem update_eq (db : Sled) (id : ι) (body : Bytes) (index : I) :
    t.update db id body index =
      ((t.changeRow id (updated · body index) (db.at? (t.rowCell id))).1,
        db.applyWrites (t.changeRow id (updated · body index) (db.at? (t.rowCell id))).2) := by
  show t.update db id body index =
    ((t.changeRow id (updated · body index) (get db t.tree (t.entity id))).1,
      db.applyWrites (t.changeRow id (updated · body index) (get db t.tree (t.entity id))).2)
  rw [update]
  cases get db t.tree (t.entity id) with
  | none => rfl
  | some bytes =>
      simp only [changeRow]
      cases t.format.decode bytes with
      | error e => rfl
      | ok old =>
          cases hdel : old.deleted <;>
            simp [rewrite, listed, delist, enlist, updated, hdel, writeIndexes_insert,
              writeIndexes_remove, Keyspace.applyWrites_append] <;> rfl

theorem softDelete_eq (db : Sled) (id : ι) (atUnix : Int64) :
    t.softDelete db id atUnix =
      ((t.changeRow id (retired · atUnix) (db.at? (t.rowCell id))).1,
        db.applyWrites (t.changeRow id (retired · atUnix) (db.at? (t.rowCell id))).2) := by
  show t.softDelete db id atUnix =
    ((t.changeRow id (retired · atUnix) (get db t.tree (t.entity id))).1,
      db.applyWrites (t.changeRow id (retired · atUnix) (get db t.tree (t.entity id))).2)
  rw [softDelete]
  cases get db t.tree (t.entity id) with
  | none => rfl
  | some bytes =>
      simp only [changeRow]
      cases t.format.decode bytes with
      | error e => rfl
      | ok old =>
          cases hdel : old.deleted <;>
            simp [rewrite, listed, delist, enlist, retired, hdel, writeIndexes_remove,
              Keyspace.applyWrites_append] <;> rfl

/-- Index cells lie in index trees. -/
theorem space_of_mem_listed {id : ι} {row : Option (Stored I)} {c : SledCell}
    (h : c ∈ t.listed id row) : c.space ∈ t.indexTrees := by
  cases row with
  | none => cases h
  | some row =>
      rw [listed] at h
      split at h
      · cases h
      · obtain ⟨e, he, rfl⟩ := List.mem_map.mp h
        exact t.entries_listed row.index e he

/-- A row is not stored in an index cell. -/
theorem rowCell_not_listed {id j : ι} {row : Option (Stored I)} :
    t.rowCell id ∉ t.listed j row :=
  fun h => t.tree_unlisted (t.space_of_mem_listed h)

/-- What rewriting a row leaves in each cell. -/
theorem lastWrite_rewrite (id : ι) (old : Option (Stored I)) (new : Stored I) (c : SledCell) :
    lastWrite (t.rewrite id old new) c =
      if c ∈ t.listed id (some new) then some (some (t.entity id))
      else if c = t.rowCell id then some (some (t.format.encode new))
      else if c ∈ t.listed id old then some none
      else none := by
  rw [rewrite, ← List.singleton_append, lastWrite_append, lastWrite_append, delist, enlist,
    lastWrite_map_remove, lastWrite_map_put]
  have hrow : lastWrite [t.putRow id new] c =
      if c = t.rowCell id then some (some (t.format.encode new)) else none := by
    simp [lastWrite, putRow, Write.cell, Write.value, eq_comm]
  rw [hrow]
  split_ifs <;> rfl

/-- Outside the index trees, rewriting a row writes the row only. -/
theorem lastWrite_rewrite_unlisted (id : ι) (old : Option (Stored I)) (new : Stored I)
    {c : SledCell} (h : c.space ∉ t.indexTrees) :
    lastWrite (t.rewrite id old new) c =
      if c = t.rowCell id then some (some (t.format.encode new)) else none := by
  have hlisted : ∀ {o}, c ∉ t.listed id o := fun hmem => h (t.space_of_mem_listed hmem)
  rw [lastWrite_rewrite, if_neg hlisted, if_neg hlisted]

/-- Rewriting a row leaves the other rows as they are. -/
theorem rowCell_rewrite (db : Sled) (id j : ι) (old : Option (Stored I)) (new : Stored I) :
    (db.applyWrites (t.rewrite id old new)).at? (t.rowCell j) =
      if t.rowCell j = t.rowCell id then some (t.format.encode new)
      else db.at? (t.rowCell j) := by
  rw [Keyspace.at_applyWrites, lastWrite_rewrite_unlisted _ _ _ _ t.tree_unlisted]
  split <;> rfl

/-- The trees a table writes to. -/
def trees : List String :=
  t.tree :: t.indexTrees

/-- Rewriting a row writes to the trees of the table only. -/
theorem lastWrite_rewrite_outside (id : ι) (old : Option (Stored I)) (new : Stored I)
    {c : SledCell} (h : c.space ∉ t.trees) : lastWrite (t.rewrite id old new) c = none := by
  have hrow : c ≠ t.rowCell id := by
    rintro rfl
    exact h List.mem_cons_self
  rw [lastWrite_rewrite_unlisted _ _ _ _ fun hmem => h (List.mem_cons_of_mem _ hmem),
    if_neg hrow]

/-- A change of a row writes to the trees of the table only. -/
theorem lastWrite_changeRow_outside (id : ι) (change : Stored I → Stored I) (o : Option Bytes)
    {c : SledCell} (h : c.space ∉ t.trees) : lastWrite (t.changeRow id change o).2 c = none := by
  cases o with
  | none => rfl
  | some bytes =>
      rw [changeRow]
      cases t.format.decode bytes with
      | error e => rfl
      | ok old => exact t.lastWrite_rewrite_outside _ _ _ h

end Table

/-! ## Kinds of log entries -/

namespace LogEntry

/-- Whether a log entry creates a ticket. -/
def isCreateTicket : LogEntry → Bool
  | .createTicket _ _ => true
  | _ => false

/-- Whether a log entry is a ticket command. -/
def isTicketCommand : LogEntry → Bool
  | .createTicket _ _ => true
  | .updateTicket _ _ _ => true
  | .softDeleteTicket _ _ => true
  | _ => false

/-- Whether a log entry is a command on tickets or users, not a generic key-value operation. -/
def isDomain : LogEntry → Bool
  | .put _ _ _ => false
  | .get _ _ => false
  | .delete _ _ => false
  | .batchPut _ _ => false
  | _ => true

/-- The tree a generic operation writes to. -/
def genericTarget : LogEntry → Option String
  | .put collection _ _ => some collection
  | .delete collection _ => some collection
  | .batchPut collection _ => some collection
  | _ => none

/-- Domain commands are no generic operations. -/
theorem genericTarget_of_isDomain {e : LogEntry} (h : e.isDomain) : e.genericTarget = none := by
  cases e <;> simp_all [genericTarget, isDomain]

end LogEntry

/-- The trees of the ticket table. -/
def ticketTrees : List String :=
  TREE_TICKETS :: ticketIndexTrees

/-- The trees of the user table. -/
def userTrees : List String :=
  TREE_USERS :: userIndexTrees

/-- The trees of the ticket and user tables and of the sequence counters. -/
def domainTrees : List String :=
  TREE_SEQ :: (ticketTrees ++ userTrees)

/-- The trees a log entry may write to. -/
def LogEntry.trees : LogEntry → List String
  | .put collection _ _ => [collection]
  | .get _ _ => []
  | .delete collection _ => [collection]
  | .batchPut collection _ => [collection]
  | .createTicket _ _ => TREE_SEQ :: ticketTrees
  | .updateTicket _ _ _ => ticketTrees
  | .softDeleteTicket _ _ => ticketTrees
  | .createUser _ _ _ => userTrees
  | .updateUser _ _ _ => userTrees
  | .softDeleteUser _ _ => userTrees

/-! ## The ticket counter -/

/-- The ticket counter a log entry leaves when it finds `seq`. -/
def LogEntry.seqAfter (seq : Option Bytes) (e : LogEntry) : Option Bytes :=
  if e.isCreateTicket then some (Bytes.ofU64 (nextCounter seq)) else seq

/-- The stored counter after `n` ids. -/
def counterBytes (n : Nat) : Option Bytes :=
  if n = 0 then none else some (Bytes.ofU64 (UInt64.ofNat n))

/-- The counter counts while it has room. -/
theorem nextCounter_counterBytes {n : Nat} (h : n + 1 < 2 ^ 64) :
    nextCounter (counterBytes n) = UInt64.ofNat (n + 1) := by
  rw [counterBytes]
  split
  case isTrue h0 => rw [h0]; rfl
  case isFalse h0 =>
    have hn : (UInt64.ofNat n).toNat = n := UInt64.toNat_ofNat_of_lt' (show n < 2 ^ 64 by omega)
    simp only [nextCounter, Bytes.toU64_ofU64, Option.getD_some, saturatingSucc, hn, if_pos h]
    exact (UInt64.ofNat_add n 1).symm

/-- The counter stays at the largest id. -/
theorem nextCounter_counterBytes_last :
    nextCounter (counterBytes (2 ^ 64 - 1)) = UInt64.ofNat (2 ^ 64 - 1) := by
  decide

/-- Counters in range are told apart by their bytes. -/
theorem counterBytes_inj {m n : Nat} (hm : m < 2 ^ 64) (hn : n < 2 ^ 64)
    (h : counterBytes m = counterBytes n) : m = n := by
  have hval : ∀ k, k < 2 ^ 64 → ((counterBytes k).bind Bytes.toU64?).elim 0 UInt64.toNat = k := by
    intro k hk
    rw [counterBytes]
    split
    case isTrue h0 => rw [h0]; rfl
    case isFalse h0 => simpa using UInt64.toNat_ofNat_of_lt' hk
  rw [← hval m hm, ← hval n hn, h]

/-- A log entry moves the counter by one if it creates a ticket and there is room. -/
theorem LogEntry.seqAfter_counterBytes (e : LogEntry) {n : Nat} (h : n < 2 ^ 64) :
    e.seqAfter (counterBytes n) =
      counterBytes (min (n + if e.isCreateTicket then 1 else 0) (2 ^ 64 - 1)) := by
  rw [LogEntry.seqAfter]
  by_cases hcreate : e.isCreateTicket
  · rw [if_pos hcreate, if_pos hcreate]
    by_cases hroom : n + 1 < 2 ^ 64
    · rw [nextCounter_counterBytes hroom, min_eq_left (by omega), counterBytes, if_neg (by omega)]
    · have hn : n = 2 ^ 64 - 1 := by omega
      rw [hn, nextCounter_counterBytes_last, min_eq_right (by omega), counterBytes,
        if_neg (by omega)]
  · rw [if_neg hcreate, if_neg hcreate, min_eq_left (by omega), Nat.add_zero]

/-! ## The transaction of a log entry -/

/-- The cell of the ticket id counter. -/
def seqCell : SledCell :=
  ⟨TREE_SEQ, SEQ_TICKET⟩

variable [RowFormat]

/-- The cells a log entry reads. -/
def LogEntry.reads : LogEntry → List SledCell
  | .createTicket _ _ => [seqCell]
  | .updateTicket ticketId _ _ => [tickets.rowCell ticketId]
  | .softDeleteTicket ticketId _ => [tickets.rowCell ticketId]
  | .updateUser userUuid _ _ => [users.rowCell userUuid]
  | .softDeleteUser userUuid _ => [users.rowCell userUuid]
  | _ => []

/-- The outcome without payload of a change, with its writes. -/
def noPayloadPlan (plan : Except String Unit × List SledWrite) :
    Except String (Option Bytes) × List SledWrite :=
  (plan.1.map fun _ => none, plan.2)

/-- The writes of a ticket creation that finds the counter in `seq`. -/
def createTicketWrites (seq : Option Bytes) (body : Bytes) (index : TicketIndexFields) :
    List SledWrite :=
  .put seqCell (Bytes.ofU64 (nextCounter seq)) ::
    tickets.rewrite (nextCounter seq) none (Table.fresh body index)

/-- The outcome and the writes of a log entry on a database with contents `view`. -/
def LogEntry.plan (view : SledCell → Option Bytes) :
    LogEntry → Except String (Option Bytes) × List SledWrite
  | .put collection key value => (.ok none, [.put ⟨collection, key⟩ value])
  | .get _ _ => (.ok none, [])
  | .delete collection key => (.ok none, [.remove ⟨collection, key⟩])
  | .batchPut collection pairs => (.ok none, pairs.map fun kv => .put ⟨collection, kv.1⟩ kv.2)
  | .createTicket body index =>
      (.ok (some (Bytes.ofU64 (nextCounter (view seqCell)))),
        createTicketWrites (view seqCell) body index)
  | .updateTicket ticketId body index =>
      noPayloadPlan (tickets.changeRow ticketId (Table.updated · body index)
        (view (tickets.rowCell ticketId)))
  | .softDeleteTicket ticketId atUnix =>
      noPayloadPlan (tickets.changeRow ticketId (Table.retired · atUnix)
        (view (tickets.rowCell ticketId)))
  | .createUser userUuid body index =>
      (.ok none, users.rewrite userUuid none (Table.fresh body index))
  | .updateUser userUuid body index =>
      noPayloadPlan (users.changeRow userUuid (Table.updated · body index)
        (view (users.rowCell userUuid)))
  | .softDeleteUser userUuid atUnix =>
      noPayloadPlan (users.changeRow userUuid (Table.retired · atUnix)
        (view (users.rowCell userUuid)))

/-- A log entry as a transaction. -/
def LogEntry.transaction (e : LogEntry) :
    Transaction String Bytes Bytes (Except String (Option Bytes)) where
  reads := e.reads
  plan view := e.plan view
  plan_congr f g h := by
    cases e <;> simp_all [LogEntry.reads, LogEntry.plan]

/-- Applying a log entry runs its transaction. -/
theorem LogEntry.apply_eq_exec (e : LogEntry) (db : Sled) :
    e.apply db = e.transaction.exec db := by
  cases e with
  | put collection key value => rfl
  | get collection key => rfl
  | delete collection key => rfl
  | batchPut collection pairs =>
      rw [LogEntry.apply, batchPut_eq]
      rfl
  | createTicket body index =>
      simp only [LogEntry.apply, Db.createTicket, nextId, Table.create_eq]
      rfl
  | updateTicket ticketId body index =>
      simp only [LogEntry.apply, Db.updateTicket, noPayload, Table.update_eq]
      rfl
  | softDeleteTicket ticketId atUnix =>
      simp only [LogEntry.apply, Db.softDeleteTicket, noPayload, Table.softDelete_eq]
      rfl
  | createUser userUuid body index =>
      simp only [LogEntry.apply, Db.createUser, Table.create_eq]
      rfl
  | updateUser userUuid body index =>
      simp only [LogEntry.apply, Db.updateUser, noPayload, Table.update_eq]
      rfl
  | softDeleteUser userUuid atUnix =>
      simp only [LogEntry.apply, Db.softDeleteUser, noPayload, Table.softDelete_eq]
      rfl

/-! ## Footprint -/

/-- Every ticket has its own row. -/
theorem tickets_rowCell_inj {i j : UInt64} : tickets.rowCell i = tickets.rowCell j ↔ i = j := by
  simp [Table.rowCell, tickets]

/-- A cell of the tree under another key is not the row. -/
theorem ne_tickets_rowCell {key : Bytes} {id : UInt64} (h : key ≠ Bytes.ofU64 id) :
    (⟨TREE_TICKETS, key⟩ : SledCell) ≠ tickets.rowCell id := by
  simpa [Table.rowCell, tickets] using h

/-- Every user has their own row. -/
theorem users_rowCell_inj {u v : String} : users.rowCell u = users.rowCell v ↔ u = v := by
  simp [Table.rowCell, users]

/-- The counter is not a ticket row. -/
theorem tickets_rowCell_ne_seqCell (id : UInt64) : tickets.rowCell id ≠ seqCell := by
  simp [Table.rowCell, tickets, seqCell, TREE_TICKETS, TREE_SEQ]

/-- The counter is stored outside the ticket table. -/
theorem seqCell_outside : seqCell.space ∉ tickets.trees := by
  show TREE_SEQ ∉ ticketTrees
  decide

/-- A log entry writes to its own trees only. -/
theorem LogEntry.lastWrite_outside (e : LogEntry) (view : SledCell → Option Bytes) {c : SledCell}
    (h : c.space ∉ e.trees) : lastWrite (e.plan view).2 c = none := by
  cases e with
  | put collection key value =>
      refine lastWrite_eq_none.mpr fun w hw => ?_
      rw [List.mem_singleton.mp hw]
      rintro rfl
      exact h List.mem_cons_self
  | get collection key => rfl
  | delete collection key =>
      refine lastWrite_eq_none.mpr fun w hw => ?_
      rw [List.mem_singleton.mp hw]
      rintro rfl
      exact h List.mem_cons_self
  | batchPut collection pairs =>
      refine lastWrite_eq_none.mpr fun w hw => ?_
      obtain ⟨kv, -, rfl⟩ := List.mem_map.mp hw
      rintro rfl
      exact h List.mem_cons_self
  | createTicket body index =>
      have hseq : seqCell ≠ c := by
        rintro rfl
        exact h List.mem_cons_self
      rw [LogEntry.plan, createTicketWrites, ← List.singleton_append, lastWrite_append,
        tickets.lastWrite_rewrite_outside _ _ _ fun hc => h (List.mem_cons_of_mem _ hc)]
      simp [lastWrite, Write.cell, hseq]
  | updateTicket ticketId body index => exact tickets.lastWrite_changeRow_outside _ _ _ h
  | softDeleteTicket ticketId atUnix => exact tickets.lastWrite_changeRow_outside _ _ _ h
  | createUser userUuid body index => exact users.lastWrite_rewrite_outside _ _ _ h
  | updateUser userUuid body index => exact users.lastWrite_changeRow_outside _ _ _ h
  | softDeleteUser userUuid atUnix => exact users.lastWrite_changeRow_outside _ _ _ h

omit [RowFormat] in
/-- The trees of a log entry are those of the tables and the counters, or the one it names. -/
theorem LogEntry.trees_cases (e : LogEntry) :
    ∀ tree ∈ e.trees, tree ∈ domainTrees ∨ e.genericTarget = some tree := by
  cases e <;> simp only [LogEntry.trees, LogEntry.genericTarget, domainTrees, List.mem_cons,
    List.mem_append] <;> grind

/-- Applying a log entry leaves every cell outside its trees as it was. -/
theorem LogEntry.at_apply_outside (e : LogEntry) (db : Sled) {c : SledCell}
    (h : c.space ∉ e.trees) : (e.apply db).2.at? c = db.at? c := by
  rw [LogEntry.apply_eq_exec]
  show (db.applyWrites (e.plan db.at?).2).at? c = _
  rw [Keyspace.at_applyWrites, e.lastWrite_outside _ h]
  rfl

/-- Unless a generic operation writes to the sequence tree, only the creation of tickets moves the
ticket counter. -/
theorem LogEntry.seq_apply {e : LogEntry} (he : e.genericTarget ≠ some TREE_SEQ) (db : Sled) :
    (e.apply db).2.at? seqCell = e.seqAfter (db.at? seqCell) := by
  cases e with
  | createTicket body index =>
      rw [LogEntry.apply_eq_exec]
      show (db.applyWrites (createTicketWrites (db.at? seqCell) body index)).at? seqCell = _
      rw [Keyspace.at_applyWrites, createTicketWrites, ← List.singleton_append, lastWrite_append,
        tickets.lastWrite_rewrite_outside _ _ _ seqCell_outside]
      simp [lastWrite, Write.cell, Write.value, LogEntry.seqAfter, LogEntry.isCreateTicket]
  | put collection key value =>
      refine LogEntry.at_apply_outside _ db ?_
      simpa [LogEntry.trees, LogEntry.genericTarget, seqCell, eq_comm] using he
  | delete collection key =>
      refine LogEntry.at_apply_outside _ db ?_
      simpa [LogEntry.trees, LogEntry.genericTarget, seqCell, eq_comm] using he
  | batchPut collection pairs =>
      refine LogEntry.at_apply_outside _ db ?_
      simpa [LogEntry.trees, LogEntry.genericTarget, seqCell, eq_comm] using he
  | _ =>
      refine LogEntry.at_apply_outside _ db ?_
      simp only [LogEntry.trees, seqCell]
      decide

/-! ## Logs -/

/-- The database after a log of entries. An entry that fails leaves it as it was. -/
def applyAll (db : Sled) (log : List LogEntry) : Sled :=
  log.foldl (fun db e => (e.apply db).2) db

@[simp] theorem applyAll_nil (db : Sled) : applyAll db [] = db := rfl

@[simp] theorem applyAll_cons (db : Sled) (e : LogEntry) (log : List LogEntry) :
    applyAll db (e :: log) = applyAll (e.apply db).2 log := rfl

theorem applyAll_append (db : Sled) (xs ys : List LogEntry) :
    applyAll db (xs ++ ys) = applyAll (applyAll db xs) ys :=
  List.foldl_append

/-- A log that stays within given trees leaves all other cells alone. -/
theorem at_applyAll_outside {c : SledCell} (db : Sled) {log : List LogEntry}
    (h : ∀ e ∈ log, c.space ∉ e.trees) : (applyAll db log).at? c = db.at? c := by
  induction log generalizing db with
  | nil => rfl
  | cons e log ih =>
      rw [applyAll_cons, ih _ fun d hd => h d (List.mem_cons_of_mem _ hd),
        e.at_apply_outside db (h e List.mem_cons_self)]

/-- The ticket counter after a log that never writes to the sequence tree directly. -/
theorem seq_applyAll {log : List LogEntry} (hlog : ∀ e ∈ log, e.genericTarget ≠ some TREE_SEQ)
    {db : Sled} {n : Nat} (hn : n < 2 ^ 64) (hdb : db.at? seqCell = counterBytes n) :
    (applyAll db log).at? seqCell =
      counterBytes (min (n + log.countP LogEntry.isCreateTicket) (2 ^ 64 - 1)) := by
  induction log generalizing db n with
  | nil => rw [List.countP_nil, Nat.add_zero, min_eq_left (by omega)]; exact hdb
  | cons e log ih =>
      have hseq : (e.apply db).2.at? seqCell =
          counterBytes (min (n + if e.isCreateTicket then 1 else 0) (2 ^ 64 - 1)) := by
        rw [LogEntry.seq_apply (hlog e List.mem_cons_self), hdb, e.seqAfter_counterBytes hn]
      rw [applyAll_cons, ih (fun d hd => hlog d (List.mem_cons_of_mem _ hd)) (by omega) hseq,
        List.countP_cons]
      congr 1
      omega

/-- Applying a log runs the transactions of its entries. -/
theorem applyAll_eq_runAll (db : Sled) (log : List LogEntry) :
    applyAll db log = Transaction.runAll (log.map LogEntry.transaction) db := by
  induction log generalizing db with
  | nil => rfl
  | cons e log ih =>
      rw [applyAll_cons, LogEntry.apply_eq_exec, ih]
      rfl

end InfoVulcan.Db
