import InfoVulcan.Db.Retention
import InfoVulcan.Db.Service
import InfoVulcan.Db.TicketQuery
import InfoVulcan.Library.Service

/-!
# The DB service keeps a record book

`RecordBook` is what the service is for: tickets numbered one after another, users by uuid, plain
pairs by collection, and the error that has stopped the node, if one has. Counters, encoded rows and
index trees do not show in it. `service_keeps_book` says that the node answers every list of
requests as the book does. The tree of user records has the name of a collection that other services
keep plain pairs in, so requests use it in one of the two ways only.
-/

namespace InfoVulcan.Db

/-! ## The book -/

/-- What the service keeps for its clients. -/
structure RecordBook where
  tickets : TicketTable
  users : String → Option StoredUser
  pairs : SledCell → Option Bytes
  stopped : Option String

/-- The users after a command. -/
def usersAfter (rows : String → Option StoredUser) : LogEntry → String → Option StoredUser
  | .createUser userUuid body index => Function.update rows userUuid (some (Table.fresh body index))
  | .updateUser userUuid body index =>
      Function.update rows userUuid ((rows userUuid).map (Table.updated · body index))
  | .softDeleteUser userUuid atUnix =>
      Function.update rows userUuid ((rows userUuid).map (Table.retired · atUnix))
  | _ => rows

/-- The plain pairs after a command. -/
def pairsAfter (pairs : SledCell → Option Bytes) : LogEntry → SledCell → Option Bytes
  | .put collection key value => Function.update pairs ⟨collection, key⟩ (some value)
  | .delete collection key => Function.update pairs ⟨collection, key⟩ none
  | .batchPut collection items =>
      items.foldl (fun pairs kv => Function.update pairs ⟨collection, kv.1⟩ (some kv.2)) pairs
  | _ => pairs

/-- A record that is shown, or the status that it is missing. -/
def shown {I R : Type} (missing : String) (record : Stored I → R) :
    Option (Stored I) → Except Status R
  | some row => .ok (record row)
  | none => .error (.notFound missing)

/-- The row a reader sees. -/
def seen {I : Type} (row : Option (Stored I)) (includeDeleted : Bool) : Option (Stored I) :=
  row.filter fun row => !row.deleted || includeDeleted

namespace RecordBook

/-- The book of a node that starts on an empty path. -/
def blank : RecordBook where
  tickets := .initial
  users _ := none
  pairs _ := none
  stopped := none

/-- Whether a row is in the book. -/
def has (book : RecordBook) : Target → Bool
  | .ticket id => (book.tickets.rows id).isSome
  | .user uuid => (book.users uuid).isSome

variable [RowFormat]

/-- The error of a command that changes a missing row. -/
def missing (book : RecordBook) (e : LogEntry) : Option String :=
  e.target.bind fun t => if book.has t then none else some t.notFound

/-- The book after a command. -/
def apply (book : RecordBook) (e : LogEntry) : RecordBook where
  tickets := book.tickets.apply e
  users := usersAfter book.users e
  pairs := pairsAfter book.pairs e
  stopped := book.missing e

/-- The book after a request: a stopped node takes no commands. -/
def after (book : RecordBook) (req : Request) : RecordBook :=
  match req.command?, book.stopped with
  | some e, none => book.apply e
  | _, _ => book

/-- Why a request fails in Raft: the node has stopped, or the request stops it. -/
def failure? (book : RecordBook) (req : Request) : Option String :=
  req.command?.bind fun e => book.stopped.or (book.missing e)

/-- The reply to a request that does not fail in Raft. -/
def Answers (book : RecordBook) : Request → Reply → Prop
  | .createTicket body _, reply =>
      reply = .ticket (.ok ⟨UInt64.ofNat (book.tickets.issued + 1), body, false, 0⟩)
  | .getTicket id includeDeleted, reply =>
      reply = .ticket (shown "ticket not found" (ticketRecord id)
        (seen (book.tickets.rows id) includeDeleted))
  | .updateTicket id body index, reply =>
      reply = .ticket (if id = 0 then .error (.invalidArgument "update_ticket requires a ticket_id")
        else shown "ticket not found" (ticketRecord id) ((book.tickets.rows id).map
          (Table.updated · body (ticketIndexFromProto (index.getD .default)))))
  | .softDeleteTicket _ _, reply => reply = .deleted (.ok ())
  | .queryTickets query, reply =>
      ∃ rows, Ascending rows ∧ (∀ id row, (id, row) ∈ rows ↔ book.tickets.rows id = some row) ∧
        reply = .tickets (.ok ((limited query.limit.toNat
          (rows.filter fun r => (ticketQueryFromProto query).Wants r.2)).map
            fun r => ticketRecord r.1 r.2))
  | .createUser uuid body _, reply =>
      reply = .user (if uuid = "" then .error (.invalidArgument "create_user requires a user_uuid")
        else .ok ⟨uuid, body, false, 0⟩)
  | .getUser uuid includeDeleted, reply =>
      reply = .user (shown "user not found" (userRecord uuid)
        (seen (book.users uuid) includeDeleted))
  | .updateUser uuid body index, reply =>
      reply = .user (if uuid = "" then .error (.invalidArgument "update_user requires a user_uuid")
        else shown "user not found" (userRecord uuid) ((book.users uuid).map
          (Table.updated · body (userIndexFromProto (index.getD .default)))))
  | .softDeleteUser _ _, reply => reply = .deleted (.ok ())
  | .put _ _ _, reply => reply = .written (.ok ⟨true, ""⟩)
  | .get collection key, reply =>
      reply = .value (.ok ⟨(book.pairs ⟨collection, key⟩).isSome,
        (book.pairs ⟨collection, key⟩).getD [], ""⟩)
  | .delete _ _, reply => reply = .written (.ok ⟨true, ""⟩)
  | .list collection keyPrefix limit, reply =>
      ∃ items : List (Bytes × Bytes), items.Pairwise (fun a b => compare a.1 b.1 = .lt) ∧
        (∀ key value, (key, value) ∈ items ↔
          book.pairs ⟨collection, key⟩ = some value ∧ keyPrefix <+: key) ∧
        reply = .items (.ok (limited limit.toNat items))
  | .keyExists collection key, reply =>
      reply = .found (.ok (book.pairs ⟨collection, key⟩).isSome)
  | .batchPut _ items, reply =>
      reply = .batch (.ok ⟨true, UInt32.ofNat (min items.length (2 ^ 32 - 1)), ""⟩)

/-- The replies that are right and the book that comes next. -/
def specification [FailureText] : Specification RecordBook Request Reply where
  permits book req reply :=
    match book.failure? req with
    | some e => reply = req.failed (.internal s!"Raft write failed: {FailureText.raftWrite e}")
    | none => book.Answers req reply
  after := after

section Permits

variable [FailureText] {book : RecordBook} {req : Request} {reply : Reply}

theorem permits_of_failure {e : String} (h : book.failure? req = some e) :
    specification.permits book req reply ↔
      reply = req.failed (.internal s!"Raft write failed: {FailureText.raftWrite e}") := by
  simp only [specification, h]

theorem permits_of_success (h : book.failure? req = none) :
    specification.permits book req reply ↔ book.Answers req reply := by
  simp only [specification, h]

end Permits

end RecordBook

/-! ## Commands and requests -/

section Requests

variable [RowFormat] [FailureText] {storage : Sled} {req : Request}

/-- What a request does to the storage is what its command does. -/
theorem answer_storage : (DatabaseService.answer storage req).2 =
    req.command?.elim storage fun e => (e.apply storage).2 := by
  cases req with
  | createTicket body index =>
      show (DatabaseService.createTicket storage body index).2 = _
      rw [DatabaseService.createTicket_eq]
      rfl
  | updateTicket ticketId body index =>
      show (DatabaseService.updateTicket storage ticketId body (index.getD .default)).2 = _
      rw [DatabaseService.updateTicket_storage, Request.command?]
      split <;> rfl
  | softDeleteTicket ticketId now => exact DatabaseService.softDeleteTicket_storage ..
  | createUser userUuid body index =>
      simp only [DatabaseService.answer, DatabaseService.createUser, Request.command?]
      split
      · rfl
      · split <;> simp_all
  | updateUser userUuid body index =>
      simp only [DatabaseService.answer, DatabaseService.updateUser, Request.command?]
      split
      · rfl
      · split <;> simp_all
  | softDeleteUser userUuid now =>
      simp only [DatabaseService.answer, DatabaseService.softDeleteUser, Request.command?]
      split <;> simp_all
  | _ => rfl

/-- A request whose command fails is answered with the error. -/
theorem answer_failed {e : LogEntry} {err : String} (hcommand : req.command? = some e)
    (hfails : (e.apply storage).1 = .error err) :
    (DatabaseService.answer storage req).1 =
      req.failed (.internal s!"Raft write failed: {FailureText.raftWrite err}") := by
  have happly : e.apply storage = (.error err, (e.apply storage).2) := Prod.ext hfails rfl
  cases req <;> simp only [Request.command?, Option.ite_none_left_eq_some, Option.some.injEq,
    reduceCtorEq] at hcommand
  case updateTicket | createUser | updateUser =>
    obtain ⟨hnonempty, rfl⟩ := hcommand
    simp only [DatabaseService.answer, DatabaseService.updateTicket, DatabaseService.createUser,
      DatabaseService.updateUser, if_neg hnonempty, Request.failed, Prod.map]
    rw [happly]
  all_goals
    subst hcommand
    simp only [DatabaseService.answer, DatabaseService.createTicket,
      DatabaseService.softDeleteTicket, DatabaseService.softDeleteUser, DatabaseService.put,
      DatabaseService.delete, DatabaseService.batchPut, Request.failed, Prod.map]
    rw [happly]

end Requests

/-! ## A node keeps a book -/

/-- The trees of the tables that are in use: tickets always, users if they are kept as records. -/
def tableTrees (userRecords : Bool) : List String :=
  TREE_SEQ :: (ticketTrees ++ if userRecords then userTrees else [])

/-- The trees that plain pairs are not stored in: those of the tables in use, and Raft's own. -/
def reservedTrees (userRecords : Bool) : List String :=
  tableTrees userRecords ++ skippedTrees

theorem ticketTrees_reserved {userRecords : Bool} {tree : String}
    (h : tree ∈ TREE_SEQ :: ticketTrees) : tree ∈ reservedTrees userRecords := by
  refine List.mem_append_left _ ?_
  rcases List.mem_cons.mp h with rfl | htickets
  · exact List.mem_cons_self
  · exact List.mem_cons_of_mem _ (List.mem_append_left _ htickets)

theorem userTrees_reserved {tree : String} (h : tree ∈ userTrees) : tree ∈ reservedTrees true :=
  List.mem_append_left _ (List.mem_cons_of_mem _ (List.mem_append_right _ h))

/-- The entry uses the trees as agreed: plain pairs go to no reserved tree, and user commands need
users that are kept as records. -/
structure LogEntry.Admissible (userRecords : Bool) (e : LogEntry) : Prop where
  generic : ∀ tree ∈ e.genericTarget, tree ∉ reservedTrees userRecords
  users : e.isUserCommand → userRecords = true

section Keeps

variable [RowFormat]

/-- Writes outside the trees of a table leave it represented. -/
theorem Represents.congr {T : TicketTable} {db db' : Sled} (h : Represents T db)
    (hcells : ∀ c : SledCell, c.space ∈ TREE_SEQ :: ticketTrees → db'.at? c = db.at? c) :
    Represents T db' where
  counter := (hcells seqCell List.mem_cons_self).trans h.counter
  issued_lt := h.issued_lt
  row id := (hcells (tickets.rowCell id)
    (List.mem_cons_of_mem _ List.mem_cons_self)).trans (h.row id)
  keyed key bytes hget := h.keyed key bytes ((hcells ⟨TREE_TICKETS, key⟩
    (List.mem_cons_of_mem _ List.mem_cons_self)).symm.trans hget)
  known := h.known
  exact := h.exact.congr fun c hc =>
    hcells c (List.mem_cons_of_mem _ (List.mem_cons_of_mem _ hc))

/-- The node stores what the book says. -/
structure RecordBook.Kept (userRecords : Bool) (book : RecordBook) (node : DbNode) : Prop where
  tickets : Represents book.tickets node.storage
  users : userRecords = true → ∀ uuid, Db.users.Encodes node.storage uuid (book.users uuid)
  pairs : ∀ c : SledCell, c.space ∉ reservedTrees userRecords →
    node.storage.at? c = book.pairs c
  stopped : node.stopped = book.stopped

omit [RowFormat] in
/-- An entry that is no ticket command leaves the ticket table of the book as it is. -/
theorem TicketTable.apply_of_not_ticketCommand (T : TicketTable) {e : LogEntry}
    (he : e.isTicketCommand = false) : T.apply e = T := by
  cases e <;> first | rfl | cases he

/-- The ticket table follows the book. -/
theorem Represents.applyAny {T : TicketTable} {db : Sled} (h : Represents T db)
    {userRecords : Bool} {e : LogEntry} (he : e.Admissible userRecords)
    (hroom : e.isCreateTicket → T.issued + 1 < 2 ^ 64) :
    Represents (T.apply e) (e.apply db).2 := by
  cases hticket : e.isTicketCommand with
  | true => exact h.apply hticket hroom
  | false =>
      rw [T.apply_of_not_ticketCommand hticket]
      refine h.congr fun c hc => e.at_apply_outside db ?_
      revert hc
      generalize c.space = tree
      cases e with
      | createUser | updateUser | softDeleteUser =>
          show tree ∈ TREE_SEQ :: ticketTrees → tree ∉ userTrees
          revert tree
          decide
      | createTicket | updateTicket | softDeleteTicket => cases hticket
      | get => exact fun _ => List.not_mem_nil
      | _ =>
          intro hc hmem
          obtain rfl := List.mem_singleton.mp hmem
          exact he.generic _ rfl (ticketTrees_reserved hc)

/-- The users follow the book. -/
theorem usersAfter_encodes {rows : String → Option StoredUser} {db : Sled}
    (h : ∀ uuid, users.Encodes db uuid (rows uuid)) {e : LogEntry} (he : e.Admissible true)
    (uuid : String) : users.Encodes (e.apply db).2 uuid (usersAfter rows e uuid) := by
  have hother : TREE_USERS ∉ e.trees → usersAfter rows e = rows →
      users.Encodes (e.apply db).2 uuid (usersAfter rows e uuid) := by
    intro htrees hsame
    rw [hsame]
    exact (e.at_apply_outside db (c := users.rowCell uuid) htrees).trans (h uuid)
  have hgeneric : ∀ collection, e.genericTarget = some collection → e.trees = [collection] →
      TREE_USERS ∉ e.trees := by
    intro collection htarget htrees hmem
    rw [htrees, List.mem_singleton] at hmem
    exact he.generic _ htarget (hmem ▸ userTrees_reserved List.mem_cons_self)
  -- A change of a row is seen at its own id only.
  have hchange : ∀ (userUuid : String) (change : StoredUser → StoredUser),
      e.plan db.at? = noPayloadPlan (users.changeRow userUuid change
        (db.at? (users.rowCell userUuid))) →
      users.Encodes (e.apply db).2 uuid
        (Function.update rows userUuid ((rows userUuid).map change) uuid) := by
    intro userUuid change hplan
    obtain ⟨hsame, hdiff⟩ := (h uuid).changeRow holds_users userUuid hplan
    by_cases heq : uuid = userUuid
    · subst heq
      rw [Function.update_self]
      exact hsame rfl
    · rw [Function.update_of_ne heq]
      exact hdiff fun htarget => heq (Target.user.inj htarget).symm
  cases e with
  | createUser userUuid body index =>
      rw [Table.Encodes, rowCell_createUser, usersAfter, Function.update_apply]
      split
      · rfl
      · exact h uuid
  | updateUser userUuid body index => exact hchange userUuid _ rfl
  | softDeleteUser userUuid atUnix => exact hchange userUuid _ rfl
  | put collection key value => exact hother (hgeneric collection rfl rfl) rfl
  | delete collection key => exact hother (hgeneric collection rfl rfl) rfl
  | batchPut collection items => exact hother (hgeneric collection rfl rfl) rfl
  | get collection key => exact hother List.not_mem_nil rfl
  | createTicket body index => exact hother users_outside rfl
  | _ => exact hother (fun hmem => users_outside (List.mem_cons_of_mem _ hmem)) rfl

/-- The plain pairs follow the book. -/
theorem pairsAfter_at {userRecords : Bool} {pairs : SledCell → Option Bytes} {db : Sled}
    (h : ∀ c : SledCell, c.space ∉ reservedTrees userRecords → db.at? c = pairs c) {e : LogEntry}
    (he : e.Admissible userRecords) {c : SledCell} (hc : c.space ∉ reservedTrees userRecords) :
    (e.apply db).2.at? c = pairsAfter pairs e c := by
  have htable : (∀ tree ∈ e.trees, tree ∈ reservedTrees userRecords) →
      (e.apply db).2.at? c = pairs c := fun htrees =>
    (e.at_apply_outside db fun hmem => hc (htrees _ hmem)).trans (h c hc)
  have husers : e.isUserCommand → ∀ tree ∈ userTrees, tree ∈ reservedTrees userRecords := by
    intro huser tree htree
    rw [he.users huser]
    exact userTrees_reserved htree
  have hwrite : ∀ {pairs : SledCell → Option Bytes} {db : Sled}, db.at? c = pairs c →
      ∀ (d : SledCell) (value : Option Bytes),
      (if d = c then value else db.at? c) = Function.update pairs d value c := by
    intro pairs db hat d value
    rw [Function.update_apply, hat]
    exact if_congr eq_comm rfl rfl
  cases e with
  | put collection key value => exact (Keyspace.at_put ..).trans (hwrite (h c hc) _ _)
  | delete collection key => exact (Keyspace.at_remove ..).trans (hwrite (h c hc) _ _)
  | batchPut collection items =>
      show (Db.batchPut db collection items).at? c = _
      have hbatch := h c hc
      -- The items are put one after the other. The induction is on them, for every start.
      clear he h htable husers
      induction items generalizing db pairs with
      | nil => exact hbatch
      | cons item items ih => exact ih ((Keyspace.at_put ..).trans (hwrite hbatch _ _))
  | get collection key => exact h c hc
  | createUser | updateUser | softDeleteUser => exact htable (husers rfl)
  | createTicket body index => exact htable fun tree htree => ticketTrees_reserved htree
  | updateTicket | softDeleteTicket =>
      exact htable fun tree htree => ticketTrees_reserved (List.mem_cons_of_mem _ htree)

/-! ## Outcomes of commands -/

/-- A change of a row fails exactly when the row is missing. -/
theorem Table.Encodes.outcome {ι I : Type} {t : Table ι I} {db : Sled} {id : ι}
    {row : Option (Stored I)} (h : t.Encodes db id row) {e : LogEntry}
    {change : Stored I → Stored I}
    (hplan : e.plan db.at? = noPayloadPlan (t.changeRow id change (db.at? (t.rowCell id)))) :
    (e.apply db).1 = if row.isSome then .ok none else .error (t.notFound id) := by
  rw [LogEntry.apply_eq_exec]
  show (e.plan db.at?).1 = _
  rw [hplan, h]
  cases row with
  | none => rfl
  | some row => simp [Table.changeRow, noPayloadPlan, Except.map]

namespace RecordBook.Kept

variable {userRecords : Bool} {book : RecordBook} {node : DbNode}
  (h : book.Kept userRecords node)

include h

/-- A command that changes a missing row fails, and every other command succeeds. -/
theorem outcome {e : LogEntry} (he : e.Admissible userRecords) :
    (∀ err, book.missing e = some err → (e.apply node.storage).1 = .error err) ∧
      (book.missing e = none → ∃ payload, (e.apply node.storage).1 = .ok payload) := by
  have hchange : ∀ t : Target, e.target = some t →
      (e.apply node.storage).1 = (if book.has t then .ok none else .error t.notFound) →
      (∀ err, book.missing e = some err → (e.apply node.storage).1 = .error err) ∧
        (book.missing e = none → ∃ payload, (e.apply node.storage).1 = .ok payload) := by
    intro t htarget houtcome
    rw [missing, htarget, Option.bind_some, houtcome]
    split
    · exact ⟨fun err hnone => (nomatch hnone), fun _ => ⟨none, rfl⟩⟩
    · exact ⟨fun err hsome => by rw [Option.some.inj hsome], fun hsome => (nomatch hsome)⟩
  have hticket (id : UInt64) : Db.tickets.Encodes node.storage id (book.tickets.rows id) :=
    h.tickets.row id
  cases e with
  | updateTicket ticketId body index =>
      exact hchange (.ticket ticketId) rfl ((hticket ticketId).outcome rfl)
  | softDeleteTicket ticketId atUnix =>
      exact hchange (.ticket ticketId) rfl ((hticket ticketId).outcome rfl)
  | updateUser userUuid body index =>
      exact hchange (.user userUuid) rfl ((h.users (he.users rfl) userUuid).outcome rfl)
  | softDeleteUser userUuid atUnix =>
      exact hchange (.user userUuid) rfl ((h.users (he.users rfl) userUuid).outcome rfl)
  | _ => exact ⟨fun err hnone => (nomatch hnone), fun _ => ⟨_, rfl⟩⟩

/-- A running node that applies a command keeps the next book. -/
theorem apply {e : LogEntry} (he : e.Admissible userRecords)
    (hroom : e.isCreateTicket → book.tickets.issued + 1 < 2 ^ 64) {stopped : Option String}
    (hstopped : stopped = book.missing e) :
    (book.apply e).Kept userRecords ⟨(e.apply node.storage).2, stopped⟩ where
  tickets := h.tickets.applyAny he hroom
  users hrecords := usersAfter_encodes (h.users hrecords) (hrecords ▸ he)
  pairs _ hc := pairsAfter_at h.pairs he hc
  stopped := hstopped

end RecordBook.Kept

/-! ## Replies -/

/-- What a read of a user returns. -/
theorem getUser_shown {storage : Sled} {uuid : String} {row : Option StoredUser}
    (h : users.Encodes storage uuid row) (includeDeleted : Bool) :
    DatabaseService.getUser storage uuid includeDeleted =
      shown "user not found" (userRecord uuid) (seen row includeDeleted) := by
  have hread : Db.getUser storage uuid includeDeleted = .ok (seen row includeDeleted) :=
    h.read includeDeleted
  rw [DatabaseService.getUser, hread]
  cases seen row includeDeleted <;> rfl

/-- What a read of a ticket returns. -/
theorem getTicket_shown {T : TicketTable} {storage : Sled} (h : Represents T storage)
    (id : UInt64) (includeDeleted : Bool) :
    DatabaseService.getTicket storage id includeDeleted =
      shown "ticket not found" (ticketRecord id) (seen (T.rows id) includeDeleted) := by
  have hread : Db.getTicket storage id includeDeleted = .ok (seen (T.rows id) includeDeleted) :=
    h.getTicket_eq id includeDeleted
  rw [DatabaseService.getTicket, hread]
  cases seen (T.rows id) includeDeleted <;> rfl

omit [RowFormat] in
/-- A read that includes deleted rows sees every row. -/
@[simp] theorem seen_true {I : Type} (row : Option (Stored I)) : seen row true = row := by
  cases row <;> simp [seen]

omit [RowFormat] in
/-- The pairs that are listed without a limit. -/
theorem mem_list {db : Sled} {collection : String} {keyPrefix key value : Bytes} :
    (key, value) ∈ list db collection keyPrefix none ↔
      db.at? ⟨collection, key⟩ = some value ∧ keyPrefix <+: key := by
  have hscan : (key, value) ∈ Keyspace.scan db collection ↔
      db.at? ⟨collection, key⟩ = some value := Keyspace.mem_scan
  rw [list]
  split
  case isTrue hempty =>
    rw [List.isEmpty_iff.mp hempty]
    simpa using hscan
  case isFalse => simp [scanPrefix, hscan]

omit [RowFormat] in
/-- The pairs are listed in strictly ascending order of their keys. -/
theorem list_sorted (db : Sled) (collection : String) (keyPrefix : Bytes) :
    (list db collection keyPrefix none).Pairwise fun a b => compare a.1 b.1 = .lt := by
  rw [list]
  split
  · exact Keyspace.scan_sorted db collection
  · exact (Keyspace.scan_sorted db collection).filter _

omit [RowFormat] in
/-- The service lists the first of all pairs with the prefix. -/
theorem service_list (db : Sled) (collection : String) (keyPrefix : Bytes) (limit : UInt32) :
    DatabaseService.list db collection keyPrefix limit =
      .ok (limited limit.toNat (list db collection keyPrefix none)) := by
  rw [DatabaseService.list, limited]
  by_cases hlimit : limit > 0
  · have hne : limit.toNat ≠ 0 := by
      have := UInt32.lt_iff_toNat_lt.mp hlimit
      exact Nat.pos_iff_ne_zero.mp this
    rw [if_pos hlimit, if_neg hne]
    rfl
  · have hzero : limit.toNat = 0 := by
      have := UInt32.lt_iff_toNat_lt.not.mp hlimit
      exact Nat.eq_zero_of_not_pos this
    rw [if_neg hlimit, if_pos hzero]

end Keeps

/-! ## Steps of the node -/

namespace Request

/-- Whether a request creates a ticket. -/
def isCreateTicket : Request → Bool
  | .createTicket _ _ => true
  | _ => false

/-- Whether a request is about users as records. -/
def isUserRequest : Request → Bool
  | .createUser _ _ _ | .getUser _ _ | .updateUser _ _ _ | .softDeleteUser _ _ => true
  | _ => false

/-- The request uses the trees as agreed: a key-value request names no reserved tree, and one about
users needs users that are kept as records. -/
structure Admissible (userRecords : Bool) (req : Request) : Prop where
  generic : ∀ collection ∈ req.collection?, collection ∉ reservedTrees userRecords
  users : req.isUserRequest → userRecords = true

instance (userRecords : Bool) (req : Request) : Decidable (req.Admissible userRecords) :=
  decidable_of_iff
    ((∀ collection ∈ req.collection?, collection ∉ reservedTrees userRecords) ∧
      (req.isUserRequest → userRecords = true))
    ⟨fun h => ⟨h.1, h.2⟩, fun h => ⟨h.generic, h.users⟩⟩

theorem command?_admissible {userRecords : Bool} {req : Request} (h : req.Admissible userRecords)
    {e : LogEntry} (he : req.command? = some e) : e.Admissible userRecords := by
  cases req <;> simp only [command?, Option.ite_none_left_eq_some, Option.some.injEq,
    reduceCtorEq] at he
  case updateTicket | createUser | updateUser =>
    obtain ⟨-, rfl⟩ := he
    exact ⟨fun tree htree => (nomatch htree), h.users⟩
  all_goals
    subst he
    exact ⟨h.generic, h.users⟩

theorem command?_isCreateTicket {req : Request} {e : LogEntry} (he : req.command? = some e) :
    e.isCreateTicket = req.isCreateTicket := by
  cases req <;> simp only [command?, Option.ite_none_left_eq_some, Option.some.injEq,
    reduceCtorEq] at he
  case updateTicket | createUser | updateUser =>
    obtain ⟨-, rfl⟩ := he
    rfl
  all_goals
    subst he
    rfl

end Request

section Steps

variable [RowFormat] [FailureText] {userRecords : Bool} {book : RecordBook} {node : DbNode}

/-- A request that does not fail in Raft is answered from the book. -/
theorem RecordBook.Kept.answers (h : book.Kept userRecords node) {req : Request}
    (hreq : req.Admissible userRecords)
    (hroom : req.isCreateTicket → book.tickets.issued + 1 < 2 ^ 64)
    (hsucceeds : ∀ e ∈ req.command?, book.missing e = none) :
    book.Answers req (DatabaseService.answer node.storage req).1 := by
  -- A command that does not fail leaves its payload aside, and the storage the book tells.
  have happly : ∀ e, req.command? = some e → ∃ payload,
      e.apply node.storage = (.ok payload, (e.apply node.storage).2) ∧
        (book.apply e).Kept userRecords ⟨(e.apply node.storage).2, book.missing e⟩ := by
    intro e he
    obtain ⟨payload, hok⟩ := (h.outcome (Request.command?_admissible hreq he)).2 (hsucceeds e he)
    refine ⟨payload, Prod.ext hok rfl, h.apply (Request.command?_admissible hreq he) ?_ rfl⟩
    rw [Request.command?_isCreateTicket he]
    exact hroom
  cases req with
  | createTicket body index =>
      show Reply.ticket (DatabaseService.createTicket node.storage body index).1 = _
      rw [DatabaseService.createTicket_eq, h.tickets.counter, nextCounter_counterBytes (hroom rfl)]
  | getTicket id includeDeleted =>
      exact congrArg Reply.ticket (getTicket_shown h.tickets id includeDeleted)
  | updateTicket id body index =>
      refine congrArg Reply.ticket ?_
      show (DatabaseService.updateTicket node.storage id body (index.getD .default)).1 = _
      rw [DatabaseService.updateTicket]
      by_cases hid : id = 0
      · rw [if_pos hid, if_pos hid]
      · obtain ⟨payload, hok, hkept⟩ := happly _ (if_neg hid)
        rw [if_neg hid, if_neg hid, hok]
        refine (getTicket_shown hkept.tickets id true).trans ?_
        rw [seen_true]
        exact congrArg _ (Function.update_self ..)
  | softDeleteTicket id now =>
      obtain ⟨payload, hok, -⟩ := happly _ rfl
      refine congrArg Reply.deleted ?_
      show (DatabaseService.softDeleteTicket node.storage id now).1 = _
      rw [DatabaseService.softDeleteTicket, hok]
  | queryTickets query =>
      obtain ⟨rows, hsorted, hmem⟩ := h.tickets.exists_rows
      refine ⟨rows, hsorted, hmem, congrArg Reply.tickets ?_⟩
      rw [DatabaseService.queryTickets, h.tickets.queryTickets_eq _ hsorted hmem]
      rfl
  | createUser uuid body index =>
      refine congrArg Reply.user ?_
      show (DatabaseService.createUser node.storage uuid body index).1 = _
      rw [DatabaseService.createUser]
      by_cases huuid : uuid = ""
      · rw [if_pos huuid, if_pos huuid]
      · obtain ⟨payload, hok, -⟩ := happly _ (if_neg huuid)
        rw [if_neg huuid, if_neg huuid, hok]
  | getUser uuid includeDeleted =>
      exact congrArg Reply.user (getUser_shown (h.users (hreq.users rfl) uuid) includeDeleted)
  | updateUser uuid body index =>
      refine congrArg Reply.user ?_
      show (DatabaseService.updateUser node.storage uuid body index).1 = _
      rw [DatabaseService.updateUser]
      by_cases huuid : uuid = ""
      · rw [if_pos huuid, if_pos huuid]
      · obtain ⟨payload, hok, hkept⟩ := happly _ (if_neg huuid)
        rw [if_neg huuid, if_neg huuid, hok]
        refine (getUser_shown (hkept.users (hreq.users rfl) uuid) true).trans ?_
        rw [seen_true]
        exact congrArg _ (Function.update_self ..)
  | softDeleteUser uuid now =>
      obtain ⟨payload, hok, -⟩ := happly _ rfl
      refine congrArg Reply.deleted ?_
      show (DatabaseService.softDeleteUser node.storage uuid now).1 = _
      rw [DatabaseService.softDeleteUser, hok]
  | put collection key value => rfl
  | get collection key =>
      refine congrArg Reply.value ?_
      have hat : Db.get node.storage collection key = book.pairs ⟨collection, key⟩ :=
        h.pairs ⟨collection, key⟩ (hreq.generic collection rfl)
      rw [DatabaseService.get, hat]
      cases book.pairs ⟨collection, key⟩ <;> rfl
  | delete collection key => rfl
  | list collection keyPrefix limit =>
      refine ⟨_, list_sorted node.storage collection keyPrefix, fun key value => ?_,
        congrArg Reply.items (service_list ..)⟩
      rw [mem_list, h.pairs ⟨collection, key⟩ (hreq.generic collection rfl)]
  | keyExists collection key =>
      refine congrArg (fun found => Reply.found (.ok (Option.isSome found))) ?_
      exact h.pairs ⟨collection, key⟩ (hreq.generic collection rfl)
  | batchPut collection items =>
      refine congrArg (fun count => Reply.batch (.ok ⟨true, count, ""⟩)) ?_
      by_cases hlength : items.length < 2 ^ 32
      · rw [if_pos hlength, min_eq_left (by omega)]
      · rw [if_neg hlength, min_eq_right (by omega)]

/-- A node that keeps a book answers a request as the book does, and keeps the next one. -/
theorem RecordBook.Kept.handle (h : book.Kept userRecords node) {req : Request}
    (hreq : req.Admissible userRecords)
    (hroom : req.isCreateTicket → book.tickets.issued + 1 < 2 ^ 64) :
    specification.permits book req (node.handle req).1 ∧
      (specification.after book req).Kept userRecords (node.handle req).2 := by
  show (match book.failure? req with | some _ => _ | none => _) ∧
    (book.after req).Kept userRecords _
  rw [DbNode.handle, after, failure?, ← h.stopped]
  cases hcommand : req.command? with
  | none => exact ⟨h.answers hreq hroom (by simp [hcommand]), h⟩
  | some e =>
      cases hstopped : node.stopped with
      | some err => exact ⟨rfl, h⟩
      | none =>
          have houtcome := h.outcome (Request.command?_admissible hreq hcommand)
          have hstorage : (DatabaseService.answer node.storage req).2 =
              (e.apply node.storage).2 := by
            rw [answer_storage, hcommand]
            rfl
          have hnext : ∀ stopped, stopped = book.missing e →
              (book.apply e).Kept userRecords
                ⟨(DatabaseService.answer node.storage req).2, stopped⟩ := by
            intro stopped heq
            rw [hstorage]
            refine h.apply (Request.command?_admissible hreq hcommand) ?_ heq
            rw [Request.command?_isCreateTicket hcommand]
            exact hroom
          -- The command fails at the node exactly when the book misses its row.
          cases hmissing : book.missing e with
          | some err =>
              have hfails := houtcome.1 err hmissing
              simp only [hfails, Option.bind_some, Option.none_or, hmissing]
              exact ⟨answer_failed hcommand hfails, hnext _ hmissing.symm⟩
          | none =>
              obtain ⟨payload, hok⟩ := houtcome.2 hmissing
              simp only [hok, Option.bind_some, Option.none_or, hmissing]
              refine ⟨h.answers hreq hroom fun d hd => ?_, hnext _ hmissing.symm⟩
              obtain rfl := Option.some.inj (hcommand.symm.trans hd)
              exact hmissing

omit [FailureText] in
/-- A node that starts on an empty path keeps the blank book. -/
theorem RecordBook.kept_blank : RecordBook.blank.Kept userRecords DbNode.blank where
  tickets := .empty
  users _ _ := Keyspace.at_empty _
  pairs _ _ := Keyspace.at_empty _
  stopped := rfl

/-! ## Lists of requests -/

omit [FailureText] in
/-- A request issues an id when it creates a ticket, if the node runs. -/
theorem RecordBook.issued_after (book : RecordBook) (req : Request) :
    (book.after req).tickets.issued ≤
      book.tickets.issued + if req.isCreateTicket then 1 else 0 := by
  rw [after]
  split
  case h_1 e hcommand _ =>
    show (book.tickets.apply e).issued ≤ _
    rw [TicketTable.issued_apply, Request.command?_isCreateTicket hcommand]
  case h_2 => exact Nat.le_add_right ..

omit [FailureText] in
/-- A book issues no more ids than requests ask for. -/
theorem RecordBook.issued_le (reqs : List Request) :
    (reqs.foldl after blank).tickets.issued ≤ reqs.countP Request.isCreateTicket := by
  induction reqs using List.reverseRecOn with
  | nil => exact le_rfl
  | append_singleton reqs req ih =>
      rw [List.foldl_concat, List.countP_append, List.countP_singleton]
      exact (issued_after ..).trans (Nat.add_le_add_right ih _)

/-- Whatever it is asked, a node answers as the book does, as long as key-value requests keep to
collections of their own and the ticket ids do not run out. -/
theorem service_keeps_book {reqs : List Request}
    (hreqs : ∀ req ∈ reqs, req.Admissible userRecords)
    (hroom : reqs.countP Request.isCreateTicket < 2 ^ 64) :
    RecordBook.specification.Explains .blank reqs (serve DbNode.handle .blank reqs).1 ∧
      (reqs.foldl RecordBook.after .blank).Kept userRecords
        (serve DbNode.handle .blank reqs).2 := by
  refine Specification.explains_serve
    (fun book req => req.Admissible userRecords ∧
      (req.isCreateTicket → book.tickets.issued + 1 < 2 ^ 64))
    (fun hkept hok => hkept.handle hok.1 hok.2) RecordBook.kept_blank fun pre req hupto => ?_
  refine ⟨hreqs req (hupto.subset (by simp)), fun hcreate => ?_⟩
  have hcount := hupto.sublist.countP_le (p := Request.isCreateTicket)
  have hissued : (pre.foldl RecordBook.after .blank).tickets.issued ≤
      pre.countP Request.isCreateTicket := RecordBook.issued_le pre
  rw [List.countP_append, List.countP_singleton, if_pos hcreate] at hcount
  show (pre.foldl RecordBook.after .blank).tickets.issued + 1 < _
  omega

end Steps

end InfoVulcan.Db

/-! ## Runs on the JSON formats -/

namespace InfoVulcan.Db

open scoped SerdeJson

/-- Requests of which one changes a missing ticket: the node stops there, and the pair that is put
after that is refused. -/
def stoppingRequests : List Request :=
  [.createTicket [1] none, .createUser "u" [2] none, .put "notes" [3] [4],
    .updateTicket 7 [5] none, .put "notes" [3] [6], .get "notes" [3]]

/-- A node that is stopped on the way. -/
theorem service_keeps_book_stopped :
    RecordBook.specification.Explains .blank stoppingRequests
        (serve DbNode.handle .blank stoppingRequests).1 ∧
      (stoppingRequests.foldl RecordBook.after .blank).Kept true
        (serve DbNode.handle .blank stoppingRequests).2 :=
  service_keeps_book (by decide) (by decide)

end InfoVulcan.Db
