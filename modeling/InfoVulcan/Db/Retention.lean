import InfoVulcan.Db.Commands
import InfoVulcan.Db.TicketRows
import InfoVulcan.Db.UserIndex
import InfoVulcan.Library.Retention

/-!
# Soft deletion

A row of either table is a record that entries create, update and delete. What each entry does to
it is read off the entry and the ticket counter (`ticketAction`, `userAction`), and the row goes
through these actions along every log of domain commands (`RowKind.tracks`). So a soft deletion
lasts exactly as long as no entry creates the row once more.
-/

namespace InfoVulcan.Db

open Retention

/-! ## Rows as records -/

/-- What a stored row is to a reader. -/
def Stored.record {I : Type} (row : Stored I) : SoftRecord (Bytes × I) where
  content := (row.body, row.index)
  deleted := row.deleted

namespace Table

variable {ι I : Type} (t : Table ι I)

/-- The row of a table as a record, absent when it cannot be read. -/
def record (id : ι) (db : Sled) : Option (SoftRecord (Bytes × I)) :=
  match t.read db id true with
  | .ok row => row.map Stored.record
  | .error _ => none

/-- The row is kept as deleted with the given body and index fields: a plain read hides it, and a
read that includes deleted rows returns it. -/
structure KeptDeleted (db : Sled) (id : ι) (content : Bytes × I) : Prop where
  hidden : t.read db id false = .ok none
  shown : ∃ row, t.read db id true = .ok (some row) ∧ row.deleted = true ∧
    (row.body, row.index) = content

/-- What is stored for a row is an encoded row. -/
def Encodes (db : Sled) (id : ι) (row : Option (Stored I)) : Prop :=
  db.at? (t.rowCell id) = row.map t.format.encode

variable {t} {db : Sled} {id : ι} {row : Option (Stored I)}

/-- Reading a row that is stored in encoded form. -/
theorem Encodes.read (h : t.Encodes db id row) (includeDeleted : Bool) :
    t.read db id includeDeleted = .ok (row.filter fun row => !row.deleted || includeDeleted) := by
  have hcell : Db.get db t.tree (t.entity id) = row.map t.format.encode := h
  rw [Table.read, hcell]
  cases row with
  | none => rfl
  | some row =>
      simp only [Option.map_some, Codec.decode_encode]
      cases hdeleted : row.deleted <;> cases includeDeleted <;> simp [Option.filter, hdeleted]

theorem Encodes.record (h : t.Encodes db id row) : t.record id db = row.map Stored.record := by
  rw [Table.record, h.read]
  cases row with
  | none => rfl
  | some row => simp

/-- A row is kept as deleted when it is a deleted record. -/
theorem Encodes.keptDeleted_iff (h : t.Encodes db id row) (content : Bytes × I) :
    t.KeptDeleted db id content ↔ t.record id db = some ⟨content, true⟩ := by
  rw [h.record]
  constructor
  case mp =>
    intro hkept
    obtain ⟨shown, hread, hdeleted, hcontent⟩ := hkept.shown
    rw [h.read] at hread
    cases row with
    | none => cases hread
    | some row =>
        simp only [Option.filter, Bool.or_true, if_true, Except.ok.injEq, Option.some.injEq]
          at hread
        rw [← hread] at hdeleted hcontent
        rw [Option.map_some, Stored.record, hcontent, hdeleted]
  case mpr =>
    intro hrecord
    obtain ⟨row, rfl, hrow⟩ := Option.map_eq_some_iff.mp hrecord
    have hdeleted : row.deleted = true := congrArg SoftRecord.deleted hrow
    exact
      { hidden := by rw [h.read]; simp [Option.filter, hdeleted]
        shown := ⟨row, by rw [h.read]; simp, hdeleted, congrArg SoftRecord.content hrow⟩ }

/-- A change of one row, seen from any row of the table. -/
theorem Encodes.changeRow [RowFormat] {mk : ι → Target} (hk : Holds t mk)
    (h : t.Encodes db id row) (j : ι) {e : LogEntry} {change : Stored I → Stored I}
    (hplan : e.plan db.at? = noPayloadPlan (t.changeRow j change (db.at? (t.rowCell j)))) :
    (mk j = mk id → t.Encodes (e.apply db).2 id (row.map change)) ∧
      (mk j ≠ mk id → t.Encodes (e.apply db).2 id row) := by
  have hcell : (e.apply db).2.at? (t.rowCell id) =
      (lastWrite (t.changeRow j change (db.at? (t.rowCell j))).2 (t.rowCell id)).getD
        (db.at? (t.rowCell id)) := by
    rw [LogEntry.apply_eq_exec]
    show (db.applyWrites (e.plan db.at?).2).at? _ = _
    rw [hplan, Keyspace.at_applyWrites]
    rfl
  have hwritten (old new : Stored I) : lastWrite (t.rewrite j (some old) new) (t.rowCell id) =
      if mk id = mk j then some (some (t.format.encode new)) else none := by
    rw [← hk.cell id, hk.lastWrite_row]
  constructor
  case left =>
    intro hsame
    have hrows : t.rowCell j = t.rowCell id := by rw [← hk.cell, ← hk.cell, hsame]
    rw [Encodes, hcell, hrows, h]
    cases row with
    | none => rfl
    | some old =>
        simp only [Option.map_some, Table.changeRow, Codec.decode_encode]
        rw [hwritten, if_pos hsame.symm]
        rfl
  case right =>
    intro hother
    rw [Encodes, hcell, ← h]
    cases db.at? (t.rowCell j) with
    | none => rfl
    | some bytes =>
        simp only [Table.changeRow]
        cases t.format.decode bytes with
        | error err => rfl
        | ok old =>
            simp only
            rw [hwritten, if_neg (Ne.symm hother)]
            rfl

end Table

/-! ## What entries do to rows -/

/-- What an entry does to the row of a ticket. A creation writes the row of the next id. -/
def ticketAction (id : UInt64) (db : Sled) : LogEntry → RecordAction (Bytes × TicketIndexFields)
  | .createTicket body index =>
      if nextCounter (db.at? seqCell) = id then .create (body, index) else .other
  | .updateTicket ticketId body index => if ticketId = id then .update (body, index) else .other
  | .softDeleteTicket ticketId _ => if ticketId = id then .delete else .other
  | _ => .other

/-- What an entry does to the row of a user. A creation writes the row of the uuid it names. -/
def userAction (uuid : String) (_ : Sled) : LogEntry → RecordAction (Bytes × UserIndexFields)
  | .createUser userUuid body index => if userUuid = uuid then .create (body, index) else .other
  | .updateUser userUuid body index => if userUuid = uuid then .update (body, index) else .other
  | .softDeleteUser userUuid _ => if userUuid = uuid then .delete else .other
  | _ => .other

variable [RowFormat]

/-- One of the two kinds of rows: the table that stores them and what each entry does to one. -/
structure RowKind (ι I : Type) where
  table : Table ι I
  target : ι → Target
  action : ι → Sled → LogEntry → RecordAction (Bytes × I)
  holds : Holds table target
  acts : ∀ {db : Sled} {e : LogEntry}, e.isDomain → ∀ {id : ι} {row : Option (Stored I)},
    table.Encodes db id row → ∃ row', table.Encodes (e.apply db).2 id row' ∧
      row'.map Stored.record = (action id db e).apply (row.map Stored.record)
  creates : ∀ {db : Sled} {e : LogEntry} {id : ι},
    (∃ content, action id db e = .create content) ↔
      e.creates (db.at? seqCell) = some (target id)
  deletes : ∀ {db : Sled} {e : LogEntry} {id : ι},
    action id db e = .delete → e.target = some (target id)

/-- An entry that leaves a row alone does nothing to the record. -/
theorem acts_other {ι I : Type} {t : Table ι I} {db : Sled} {e : LogEntry} {id : ι}
    {row : Option (Stored I)} (h : t.Encodes db id row) (houtside : t.tree ∉ e.trees) :
    ∃ row', t.Encodes (e.apply db).2 id row' ∧
      row'.map Stored.record = RecordAction.other.apply (row.map Stored.record) :=
  ⟨row, (e.at_apply_outside db houtside).trans h, rfl⟩

/-- A command on one row changes that row and no other. -/
theorem acts_change {ι I : Type} [DecidableEq ι] {t : Table ι I} {mk : ι → Target}
    (hk : Holds t mk) (hinj : Function.Injective mk) {db : Sled} {e : LogEntry} {id : ι}
    {row : Option (Stored I)} (h : t.Encodes db id row) (j : ι) {change : Stored I → Stored I}
    (hplan : e.plan db.at? = noPayloadPlan (t.changeRow j change (db.at? (t.rowCell j))))
    {action : RecordAction (Bytes × I)}
    (haction : (row.map change).map Stored.record = action.apply (row.map Stored.record)) :
    ∃ row', t.Encodes (e.apply db).2 id row' ∧ row'.map Stored.record =
      (if j = id then action else .other).apply (row.map Stored.record) := by
  obtain ⟨hsame, hother⟩ := h.changeRow hk j hplan
  by_cases hj : j = id
  · rw [if_pos hj]
    exact ⟨row.map change, hsame (congrArg mk hj), haction⟩
  · rw [if_neg hj]
    exact ⟨row, hother fun heq => hj (hinj heq), rfl⟩

/-- A creation writes one row and no other. -/
theorem acts_create {ι I : Type} [DecidableEq ι] {t : Table ι I} {db : Sled} {e : LogEntry}
    {id : ι} {row : Option (Stored I)} (h : t.Encodes db id row) (j : ι) (body : Bytes)
    (index : I)
    (hcell : (e.apply db).2.at? (t.rowCell id) = if id = j then
      some (t.format.encode (Table.fresh body index)) else db.at? (t.rowCell id)) :
    ∃ row', t.Encodes (e.apply db).2 id row' ∧ row'.map Stored.record =
      (if j = id then .create (body, index) else .other : RecordAction _).apply
        (row.map Stored.record) := by
  by_cases hj : id = j
  · rw [if_pos hj] at hcell
    rw [if_pos hj.symm]
    exact ⟨some (Table.fresh body index), hcell, rfl⟩
  · rw [if_neg hj] at hcell
    rw [if_neg (Ne.symm hj)]
    exact ⟨row, hcell.trans h, rfl⟩

/-- The rows of tickets. -/
def ticketRows : RowKind UInt64 TicketIndexFields where
  table := tickets
  target := .ticket
  action := ticketAction
  holds := holds_tickets
  acts {db e} he {id row} h := by
    have hinj : Function.Injective Target.ticket := fun a b hab => by cases hab; rfl
    cases e with
    | createTicket body index =>
        exact acts_create h _ body index (rowCell_createTicket db body index id)
    | updateTicket ticketId body index =>
        exact acts_change holds_tickets hinj h ticketId rfl (by cases row <;> rfl)
    | softDeleteTicket ticketId atUnix =>
        exact acts_change holds_tickets hinj h ticketId rfl (by cases row <;> rfl)
    | createUser userUuid body index =>
        exact acts_other h (not_mem_userTrees List.mem_cons_self)
    | updateUser userUuid body index =>
        exact acts_other h (not_mem_userTrees List.mem_cons_self)
    | softDeleteUser userUuid atUnix =>
        exact acts_other h (not_mem_userTrees List.mem_cons_self)
    | _ => cases he
  creates {db e id} := by
    cases e <;> simp [ticketAction, LogEntry.creates, ite_eq_iff]
  deletes {db e id} h := by
    cases e <;> simp_all [ticketAction, LogEntry.target, ite_eq_iff]

/-- The tree of users is no tree of tickets or counters. -/
theorem users_outside : users.tree ∉ TREE_SEQ :: ticketTrees := by
  show TREE_USERS ∉ TREE_SEQ :: ticketTrees
  decide

/-- A creation of a user writes the row of its uuid, and no other. -/
theorem rowCell_createUser (db : Sled) (userUuid : String) (body : Bytes)
    (index : UserIndexFields) (uuid : String) :
    ((LogEntry.createUser userUuid body index).apply db).2.at? (users.rowCell uuid) =
      if uuid = userUuid then some (users.format.encode (Table.fresh body index))
      else db.at? (users.rowCell uuid) := by
  rw [LogEntry.apply_eq_exec]
  show (db.applyWrites (users.rewrite userUuid none (Table.fresh body index))).at?
    (Target.user uuid).cell = _
  rw [Keyspace.at_applyWrites, holds_users.lastWrite_row]
  by_cases huuid : uuid = userUuid
  · rw [if_pos (by rw [huuid]), if_pos huuid]
    rfl
  · rw [if_neg (by simpa using huuid), if_neg huuid]
    rfl

/-- The rows of users. -/
def userRows : RowKind String UserIndexFields where
  table := users
  target := .user
  action := userAction
  holds := holds_users
  acts {db e} he {id row} h := by
    have hinj : Function.Injective Target.user := fun a b hab => by cases hab; rfl
    cases e with
    | createTicket body index => exact acts_other h users_outside
    | updateTicket ticketId body index =>
        exact acts_other h fun hmem => users_outside (List.mem_cons_of_mem _ hmem)
    | softDeleteTicket ticketId atUnix =>
        exact acts_other h fun hmem => users_outside (List.mem_cons_of_mem _ hmem)
    | createUser userUuid body index =>
        exact acts_create h userUuid body index (rowCell_createUser db userUuid body index id)
    | updateUser userUuid body index =>
        exact acts_change holds_users hinj h userUuid rfl (by cases row <;> rfl)
    | softDeleteUser userUuid atUnix =>
        exact acts_change holds_users hinj h userUuid rfl (by cases row <;> rfl)
    | _ => cases he
  creates {db e id} := by
    cases e <;> simp [userAction, LogEntry.creates, ite_eq_iff]
  deletes {db e id} h := by
    cases e <;> simp_all [userAction, LogEntry.target, ite_eq_iff]

/-! ## Runs -/

/-- The database after an entry, whatever it answers. -/
def applied (db : Sled) (e : LogEntry) : Sled :=
  (e.apply db).2

namespace RowKind

variable {ι I : Type} (k : RowKind ι I) {log : List LogEntry}

/-- Every soft deletion that succeeds lasts: in every later state the row is kept as deleted, with
the body and the index fields of the last entry that wrote it. -/
def DeletionsPermanent (log : List LogEntry) : Prop :=
  ∀ id pre e mid, pre ++ e :: mid <+: log →
    k.action id (applyAll Keyspace.empty pre) e = .delete →
    (∃ payload, (e.apply (applyAll Keyspace.empty pre)).1 = .ok payload) →
      ∃ content, lastContent applied (k.action id) Keyspace.empty (pre ++ e :: mid) =
          some content ∧
        k.table.KeptDeleted (applyAll Keyspace.empty (pre ++ e :: mid)) id content

/-- Rows are stored in encoded form along a log of domain commands. -/
theorem encodes (hlog : ∀ e ∈ log, e.isDomain) (id : ι) :
    ∃ row, k.table.Encodes (applyAll Keyspace.empty log) id row := by
  induction log using List.reverseRecOn with
  | nil => exact ⟨none, Keyspace.at_empty _⟩
  | append_singleton log e ih =>
      obtain ⟨row, hrow⟩ := ih fun d hd => hlog d (List.mem_append_left _ hd)
      obtain ⟨row', hrow', -⟩ := k.acts (hlog e (by simp)) hrow
      exact ⟨row', by rwa [applyAll_append]⟩

/-- A row goes through the actions of the entries. -/
theorem tracks (hlog : ∀ e ∈ log, e.isDomain) (id : ι) :
    Tracks applied (k.action id) (k.table.record id) Keyspace.empty log where
  absent := by
    have hempty : k.table.Encodes Keyspace.empty id none := Keyspace.at_empty _
    exact hempty.record
  acts pre e hupto := by
    have hmem : ∀ d ∈ pre ++ [e], d.isDomain := fun d hd => hlog d (hupto.subset hd)
    obtain ⟨row, hrow⟩ := k.encodes (fun d hd => hmem d (List.mem_append_left _ hd)) id
    obtain ⟨row', hrow', hact⟩ := k.acts (hmem e (by simp)) hrow
    show k.table.record id (e.apply (applyAll Keyspace.empty pre)).2 =
      (k.action id (applyAll Keyspace.empty pre) e).apply
        (k.table.record id (applyAll Keyspace.empty pre))
    rw [hrow'.record, hrow.record, hact]

/-- A deletion succeeds exactly when it finds the row. -/
theorem delete_ok_iff (hlog : ∀ e ∈ log, e.isDomain) {pre : List LogEntry} {e : LogEntry}
    (hupto : pre ++ [e] <+: log) {id : ι}
    (hdelete : k.action id (applyAll Keyspace.empty pre) e = .delete) :
    (∃ payload, (e.apply (applyAll Keyspace.empty pre)).1 = .ok payload) ↔
      (k.table.record id (applyAll Keyspace.empty pre)).isSome := by
  have hmem : ∀ d ∈ pre ++ [e], d.isDomain := fun d hd => hlog d (hupto.subset hd)
  have hpre : ∀ d ∈ pre, d.isDomain := fun d hd => hmem d (List.mem_append_left _ hd)
  obtain ⟨row, hrow⟩ := k.encodes hpre id
  have hpresent : Present (applyAll Keyspace.empty pre) (k.target id) ↔ row.isSome := by
    rw [Present, k.holds.cell, hrow, Option.isSome_map]
  rw [apply_ok_iff (readable_applyAll readable_empty hpre) (hmem e (by simp)), k.deletes hdelete,
    hrow.record, Option.isSome_map, ← hpresent]
  simp

/-- Soft deletions of one kind of rows are permanent exactly when no entry creates a row while it
is kept as deleted. -/
theorem deletionsPermanent_iff (hlog : ∀ e ∈ log, e.isDomain) :
    k.DeletionsPermanent log ↔ ∀ pre e, pre ++ [e] <+: log → ∀ id,
      e.creates ((applyAll Keyspace.empty pre).at? seqCell) = some (k.target id) →
        ∀ content, ¬ k.table.KeptDeleted (applyAll Keyspace.empty pre) id content := by
  have hkept (pre : List LogEntry) (hpre : pre <+: log) (id : ι) (content : Bytes × I) :
      k.table.KeptDeleted (applyAll Keyspace.empty pre) id content ↔
        k.table.record id (applyAll Keyspace.empty pre) = some ⟨content, true⟩ := by
    obtain ⟨row, hrow⟩ := k.encodes (fun d hd => hlog d (hpre.subset hd)) id
    exact hrow.keptDeleted_iff content
  have hrun : k.DeletionsPermanent log ↔ ∀ id,
      Retention.DeletionsPermanent applied (k.action id) (k.table.record id) Keyspace.empty log := by
    refine forall_congr' fun id => forall₄_congr fun pre e mid hupto => ?_
    have hfirst : pre ++ [e] <+: log :=
      ((List.prefix_append_right_inj pre).mpr ⟨mid, rfl⟩).trans hupto
    refine forall_congr' fun hdelete => ?_
    rw [k.delete_ok_iff hlog hfirst hdelete]
    refine forall_congr' fun _ => exists_congr fun content => and_congr_right fun _ => ?_
    exact hkept _ hupto id content
  rw [hrun]
  simp only [Retention.deletionsPermanent_iff (k.tracks hlog _)]
  constructor
  case mp =>
    intro hnever pre e hupto id hcreates content hdeleted
    obtain ⟨created, hcreate⟩ := k.creates.mpr hcreates
    rw [hkept pre ((List.prefix_append _ _).trans hupto)] at hdeleted
    cases hnever id pre e hupto created hcreate _ hdeleted
  case mpr =>
    intro hfree id pre e hupto created hcreate record hrecord
    have hcreates := k.creates.mp ⟨created, hcreate⟩
    by_contra hdeleted
    refine hfree pre e hupto id hcreates record.content ?_
    rw [hkept pre ((List.prefix_append _ _).trans hupto)]
    refine hrecord.trans ?_
    rw [Bool.not_eq_false] at hdeleted
    rw [← hdeleted]

end RowKind

/-- Soft deletions of tickets and users are permanent. -/
def SoftDeletionsPermanent (log : List LogEntry) : Prop :=
  ticketRows.DeletionsPermanent log ∧ userRows.DeletionsPermanent log

/-- A row that is marked deleted. -/
def SoftDeleted (db : Sled) : Target → Prop
  | .ticket id => ∃ row, getTicket db id true = .ok (some row) ∧ row.deleted = true
  | .user uuid => ∃ row, getUser db uuid true = .ok (some row) ∧ row.deleted = true

omit [RowFormat] in
/-- A row is marked deleted exactly when it is kept as deleted with some content. -/
theorem exists_keptDeleted_iff {ι I : Type} {t : Table ι I} {db : Sled} {id : ι} :
    (∃ content, t.KeptDeleted db id content) ↔
      ∃ row, t.read db id true = .ok (some row) ∧ row.deleted = true := by
  constructor
  case mp =>
    rintro ⟨content, hkept⟩
    obtain ⟨row, hread, hdeleted, -⟩ := hkept.shown
    exact ⟨row, hread, hdeleted⟩
  case mpr =>
    rintro ⟨row, hread, hdeleted⟩
    refine ⟨(row.body, row.index), ⟨?_, row, hread, hdeleted, rfl⟩⟩
    rw [Table.read] at hread ⊢
    cases hget : get db t.tree (t.entity id) with
    | none => rfl
    | some bytes =>
        simp only [hget] at hread ⊢
        cases hdecode : t.format.decode bytes with
        | error e => simp [hdecode] at hread
        | ok stored =>
            simp only [hdecode, Bool.not_true, Bool.and_false, Bool.false_eq_true, if_false,
              Except.ok.injEq, Option.some.injEq] at hread ⊢
            rw [hread]
            simp [hdeleted]

/-- Over every log of domain commands, soft deletions are permanent (the row stays, marked
deleted, hidden from plain reads and with the body and index fields last written to it) exactly
when no entry creates a row that is marked deleted at that moment. -/
theorem soft_deletions_permanent_iff {log : List LogEntry} (hlog : ∀ e ∈ log, e.isDomain) :
    SoftDeletionsPermanent log ↔ ∀ pre e, pre ++ [e] <+: log →
      ∀ t ∈ e.creates ((applyAll Keyspace.empty pre).at? seqCell),
        ¬ SoftDeleted (applyAll Keyspace.empty pre) t := by
  rw [SoftDeletionsPermanent, ticketRows.deletionsPermanent_iff hlog,
    userRows.deletionsPermanent_iff hlog]
  constructor
  case mp =>
    rintro ⟨htickets, husers⟩ pre e hupto t hcreates hdeleted
    cases t with
    | ticket id =>
        obtain ⟨content, hkept⟩ := exists_keptDeleted_iff.mpr hdeleted
        exact htickets pre e hupto id hcreates content hkept
    | user uuid =>
        obtain ⟨content, hkept⟩ := exists_keptDeleted_iff.mpr hdeleted
        exact husers pre e hupto uuid hcreates content hkept
  case mpr =>
    intro hfree
    constructor
    · intro pre e hupto id hcreates content hkept
      exact hfree pre e hupto (.ticket id) hcreates (exists_keptDeleted_iff.mp ⟨content, hkept⟩)
    · intro pre e hupto uuid hcreates content hkept
      exact hfree pre e hupto (.user uuid) hcreates (exists_keptDeleted_iff.mp ⟨content, hkept⟩)

end InfoVulcan.Db

/-! ## Runs on the JSON formats -/

namespace InfoVulcan.Db

open scoped SerdeJson

/-- A user who is deleted and updated afterwards. -/
theorem soft_deletions_permanent_iff_update :
    SoftDeletionsPermanent [.createUser "u" [] (namedFields "a"), .softDeleteUser "u" 0,
        .updateUser "u" [1] (namedFields "b")] ↔
      ∀ pre e, pre ++ [e] <+: [.createUser "u" [] (namedFields "a"), .softDeleteUser "u" 0,
          .updateUser "u" [1] (namedFields "b")] →
        ∀ t ∈ e.creates ((applyAll Keyspace.empty pre).at? seqCell),
          ¬ SoftDeleted (applyAll Keyspace.empty pre) t :=
  soft_deletions_permanent_iff (by decide)

/-- A deleted user is back when it is created again. -/
theorem recreated_user_not_deleted :
    ¬ SoftDeletionsPermanent [.createUser "u" [] (namedFields "a"), .softDeleteUser "u" 0,
      .createUser "u" [] (namedFields "a")] := by
  rintro ⟨-, husers⟩
  obtain ⟨content, -, hkept⟩ := husers "u" [.createUser "u" [] (namedFields "a")]
    (.softDeleteUser "u" 0) [.createUser "u" [] (namedFields "a")] List.prefix_rfl rfl
    ⟨none, by decide⟩
  have hrow : users.Encodes (applyAll Keyspace.empty [.createUser "u" [] (namedFields "a"),
      .softDeleteUser "u" 0, .createUser "u" [] (namedFields "a")]) "u"
      (some (Table.fresh [] (namedFields "a"))) :=
    rowCell_createUser _ "u" [] (namedFields "a") "u"
  have hhidden := hkept.hidden
  rw [show userRows.table = users from rfl] at hhidden
  rw [List.cons_append, List.nil_append, hrow.read] at hhidden
  cases hhidden

end InfoVulcan.Db
