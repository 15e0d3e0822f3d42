import InfoVulcan.Db.Server
import InfoVulcan.Db.TicketQuery
import InfoVulcan.Db.TicketRows

/-!
# Filters of a query request

The status of a request is a 32-bit number and that of a row a byte. A number that does not fit is
dropped on the way, so the query is answered as if no status had been asked for.
`query_honours_filters_iff` says when that shows: some row passes the other filters.
-/

namespace InfoVulcan.Db

/-! ## The meaning of a request -/

namespace TicketQueryMessage

/-- A row is wanted by a request: it satisfies every filter the request sets, and it is not deleted
unless deleted rows are asked for. -/
def Wants (req : TicketQueryMessage) (row : StoredTicket) : Prop :=
  (req.includeDeleted = false → row.deleted = false) ∧
  (∀ s ∈ req.status, row.index.status.toNat = s.toNat) ∧
  (∀ a ∈ req.assignedToUuid, row.index.assignedToUuid = some a) ∧
  (∀ a ∈ req.accountUuid, row.index.accountUuid = a) ∧
  (∀ p ∈ req.project, row.index.project = p)

instance (req : TicketQueryMessage) (row : StoredTicket) : Decidable (req.Wants row) :=
  inferInstanceAs (Decidable (_ ∧ _ ∧ _ ∧ _ ∧ _))

/-- The status the request asks for, if it asks for one, is a byte. -/
def StatusFits (req : TicketQueryMessage) : Prop :=
  ∀ s ∈ req.status, s.toNat < 256

instance (req : TicketQueryMessage) : Decidable req.StatusFits :=
  inferInstanceAs (Decidable (∀ s ∈ req.status, _))

/-- The request without its status filter. -/
def anyStatus (req : TicketQueryMessage) : TicketQueryMessage :=
  { req with status := none }

/-- No row has a status that is not a byte. -/
theorem statusFits_of_wants {req : TicketQueryMessage} {row : StoredTicket}
    (h : req.Wants row) : req.StatusFits := by
  intro s hs
  rw [← h.2.1 s hs]
  exact row.index.status.toNat_lt

/-- The storage layer looks for the rows the request wants, if the status fits. -/
theorem wants_fromProto {req : TicketQueryMessage} (h : req.StatusFits) (row : StoredTicket) :
    (ticketQueryFromProto req).Wants row ↔ req.Wants row := by
  have hstatus : (∀ s ∈ (ticketQueryFromProto req).status, row.index.status = s) ↔
      ∀ s ∈ req.status, row.index.status.toNat = s.toNat := by
    rw [ticketQueryFromProto]
    cases hs : req.status with
    | none => simp
    | some s =>
        have hlt : s.toNat < 256 := h s hs
        have hbyte : (UInt8.ofNat s.toNat).toNat = s.toNat := UInt8.toNat_ofNat_of_lt' hlt
        simp only [Option.bind_some, hlt, if_true, Option.mem_some_iff, forall_eq']
        rw [← UInt8.toNat_inj, hbyte]
  unfold TicketQuery.Wants Wants
  rw [hstatus]
  rfl

/-- A status that does not fit is ignored. -/
theorem fromProto_of_not_fits {req : TicketQueryMessage} (h : ¬ req.StatusFits) :
    ticketQueryFromProto req = ticketQueryFromProto req.anyStatus := by
  rw [ticketQueryFromProto, ticketQueryFromProto, anyStatus]
  cases hs : req.status with
  | none => rfl
  | some s =>
      have hge : ¬ s.toNat < 256 := by
        intro hlt
        refine h fun s' hs' => ?_
        obtain rfl : s = s' := Option.some.inj (hs.symm.trans hs')
        exact hlt
      simp [hge]

/-- The storage layer looks for any status then. -/
theorem wants_fromProto_of_not_fits {req : TicketQueryMessage} (h : ¬ req.StatusFits)
    (row : StoredTicket) : (ticketQueryFromProto req).Wants row ↔ req.anyStatus.Wants row := by
  have hany : req.anyStatus.StatusFits := fun s hs => by simp [anyStatus] at hs
  rw [fromProto_of_not_fits h, wants_fromProto hany]

end TicketQueryMessage

variable [RowFormat]

/-- A query request is answered, and every record of the answer is that of a stored row which the
request wants. -/
def HonoursFilters (storage : Sled) (req : TicketQueryMessage) : Prop :=
  ∃ records, DatabaseService.queryTickets storage req = .ok records ∧
    ∀ record ∈ records, ∃ row, TicketRowAt storage record.ticketId row ∧
      record = ticketRecord record.ticketId row ∧ req.Wants row

/-- A status that no row has yields an empty answer. -/
theorem HonoursFilters.empty_of_unused_status {storage : Sled} {req : TicketQueryMessage}
    (h : HonoursFilters storage req) {s : UInt32} (hs : req.status = some s)
    (hunused : ∀ id row, TicketRowAt storage id row → row.index.status.toNat ≠ s.toNat) :
    DatabaseService.queryTickets storage req = .ok [] := by
  obtain ⟨records, hok, hrecords⟩ := h
  cases records with
  | nil => exact hok
  | cons record records =>
      obtain ⟨row, hrow, -, hwants⟩ := hrecords record List.mem_cons_self
      exact absurd (hwants.2.1 s hs) (hunused _ row hrow)

/-! ## Queries over listed rows -/

/-- Every stored row is under one of the ids of the ticket tree. -/
theorem mem_allTicketIds {db : Sled} {id : UInt64} {row : StoredTicket}
    (hrow : TicketRowAt db id row) : id ∈ allTicketIds db := by
  obtain ⟨bytes, hbytes, -⟩ := hrow
  exact List.mem_filterMap.mpr
    ⟨(Bytes.ofU64 id, bytes), Keyspace.mem_scan.mpr hbytes, Bytes.toU64_ofU64 id⟩

namespace TicketsListed

variable {db : Sled} (h : TicketsListed db)

include h

/-- A cell of a row is empty or holds an encoded row. -/
theorem exists_row (id : UInt64) :
    ∃ o : Option StoredTicket, db.at? (tickets.rowCell id) = o.map tickets.format.encode := by
  cases hat : db.at? (tickets.rowCell id) with
  | none => exact ⟨none, rfl⟩
  | some bytes =>
      obtain ⟨row, rfl⟩ := h.encoded id bytes hat
      exact ⟨some row, rfl⟩

/-- A candidate contributes its row if the query wants it. -/
theorem answer_eq_some {query : TicketQuery} {id : UInt64} {found : UInt64 × StoredTicket} :
    answer db query id = some found ↔
      found.1 = id ∧ TicketRowAt db id found.2 ∧ query.Wants found.2 := by
  obtain ⟨id', row'⟩ := found
  obtain ⟨o, ho⟩ := h.exists_row id
  have hget : get db TREE_TICKETS (Bytes.ofU64 id) = o.map tickets.format.encode := ho
  have hrow : TicketRowAt db id row' ↔ o = some row' := by
    rw [TicketRowAt, hget]
    cases o with
    | none => simp
    | some row => simp [tickets]
  rw [answer, getTicket_of_row ho, TicketQuery.wants_iff, hrow]
  cases o with
  | none => simp
  | some row =>
      cases hdel : row.deleted <;> cases hincl : query.includeDeleted <;>
        simp [Option.filter_some, hdel] <;> grind

/-- Every live row is found under each of its index values. -/
theorem mem_scanIndexIds {id : UInt64} {row : StoredTicket} (hrow : TicketRowAt db id row)
    (hlive : row.deleted = false) {tree : String} {value : Bytes}
    (hvalue : (tree, value) ∈ ticketIndexEntries row.index) : id ∈ scanIndexIds db tree value := by
  have hmem : (⟨tree, indexKey value (Bytes.ofU64 id)⟩ : SledCell) ∈
      tickets.listed id (some row) := by
    rw [Table.listed, hlive]
    exact List.mem_map.mpr ⟨(tree, value), hvalue, rfl⟩
  have hget : get db tree (indexKey value (Bytes.ofU64 id)) = some (Bytes.ofU64 id) :=
    h.listed id row hrow _ hmem
  refine List.mem_filterMap.mpr
    ⟨(indexKey value (Bytes.ofU64 id), Bytes.ofU64 id), ?_, Bytes.toU64_ofU64 id⟩
  exact List.mem_filter.mpr ⟨Keyspace.mem_scan.mpr hget, by simp [indexKey, indexPrefix]⟩

/-- Whatever the query is driven from, the rows it wants are among the candidates. -/
theorem mem_queryCandidates {query : TicketQuery} {id : UInt64} {row : StoredTicket}
    (hrow : TicketRowAt db id row) (hwants : query.Wants row) : id ∈ queryCandidates db query := by
  obtain ⟨hlive, hstatus, hassignee, haccount, hproject⟩ := hwants
  unfold queryCandidates
  split
  · exact mem_allTicketIds hrow
  case isFalse hincl =>
      replace hlive := hlive (by simpa using hincl)
      split
      · refine h.mem_scanIndexIds hrow hlive (mem_status_entries.mpr ?_)
        rw [hstatus _ ‹_›]
      split
      · exact h.mem_scanIndexIds hrow hlive (mem_assignee_entries.mpr ⟨_, hassignee _ ‹_›, rfl⟩)
      split
      · refine h.mem_scanIndexIds hrow hlive (mem_account_entries.mpr ?_)
        rw [haccount _ ‹_›]
      split
      · refine h.mem_scanIndexIds hrow hlive (mem_project_entries.mpr ?_)
        rw [hproject _ ‹_›]
      · exact mem_allTicketIds hrow

/-- A query answers with stored rows that it wants, and with none only if there are none. -/
theorem queryTickets_spec (query : TicketQuery) :
    ∃ rows, queryTickets db query = .ok rows ∧
      (∀ found ∈ rows, TicketRowAt db found.1 found.2 ∧ query.Wants found.2) ∧
      (rows = [] → ∀ id row, TicketRowAt db id row → ¬ query.Wants row) := by
  have hread : ∀ id, ∃ row, getTicket db id query.includeDeleted = .ok row := by
    intro id
    obtain ⟨o, ho⟩ := h.exists_row id
    exact ⟨_, getTicket_of_row ho _⟩
  refine ⟨_, queryLoop_eq db query _ [] (fun id _ => hread id) (Nat.eq_zero_or_pos _), ?_, ?_⟩
  · intro found hfound
    have hmem : found ∈ (queryCandidates db query).filterMap (answer db query) := by
      rw [List.nil_append, limited] at hfound
      split at hfound
      · exact hfound
      · exact List.mem_of_mem_take hfound
    obtain ⟨id, -, hanswer⟩ := List.mem_filterMap.mp hmem
    obtain ⟨rfl, hrow, hwants⟩ := h.answer_eq_some.mp hanswer
    exact ⟨hrow, hwants⟩
  · intro hnone id row hrow hwants
    have hmem : (id, row) ∈ (queryCandidates db query).filterMap (answer db query) :=
      List.mem_filterMap.mpr ⟨id, h.mem_queryCandidates hrow hwants,
        h.answer_eq_some.mpr ⟨rfl, hrow, hwants⟩⟩
    have hempty : (queryCandidates db query).filterMap (answer db query) = [] := by
      rw [List.nil_append, limited] at hnone
      split at hnone
      · exact hnone
      case isFalse hlimit => exact (List.take_eq_nil_iff.mp hnone).resolve_left hlimit
    rw [hempty] at hmem
    exact absurd hmem List.not_mem_nil

/-- A request is honoured exactly when its status fits, or no row passes its other filters. -/
theorem honoursFilters_iff (req : TicketQueryMessage) :
    HonoursFilters db req ↔
      req.StatusFits ∨ ∀ id row, TicketRowAt db id row → ¬ req.anyStatus.Wants row := by
  obtain ⟨rows, hrows, hsound, hcomplete⟩ := h.queryTickets_spec (ticketQueryFromProto req)
  have hok : DatabaseService.queryTickets db req =
      .ok (rows.map fun row => ticketRecord row.1 row.2) := by
    rw [DatabaseService.queryTickets, hrows]
  constructor
  · rintro ⟨records, hrecords, hwanted⟩
    obtain rfl := Except.ok.inj (hok.symm.trans hrecords)
    by_cases hfits : req.StatusFits
    · exact .inl hfits
    refine .inr fun id row hrow hwants => hfits ?_
    -- A status that does not fit is dropped, so any row that passes the rest is answered wrongly.
    cases rows with
    | nil =>
        exact absurd ((req.wants_fromProto_of_not_fits hfits row).mpr hwants)
          (hcomplete rfl id row hrow)
    | cons found rows =>
        obtain ⟨_, -, -, hfound⟩ := hwanted _ (List.mem_map.mpr ⟨found, List.mem_cons_self, rfl⟩)
        exact req.statusFits_of_wants hfound
  · intro hcond
    refine ⟨_, hok, fun record hrecord => ?_⟩
    obtain ⟨found, hfound, rfl⟩ := List.mem_map.mp hrecord
    obtain ⟨hrow, hwants⟩ := hsound found hfound
    refine ⟨found.2, hrow, rfl, ?_⟩
    by_cases hfits : req.StatusFits
    · exact (req.wants_fromProto hfits found.2).mp hwants
    · exact absurd ((req.wants_fromProto_of_not_fits hfits found.2).mp hwants)
        (hcond.resolve_left hfits _ _ hrow)

end TicketsListed

/-! ## Queries on reachable stores -/

/-- After any log that writes to the ticket trees by ticket commands only, a query request is
honoured exactly when its status is a byte, or no stored ticket passes its other filters. -/
theorem query_honours_filters_iff {log : List LogEntry} (hlog : ∀ e ∈ log, e.SparesTickets)
    (req : TicketQueryMessage) :
    HonoursFilters (applyAll Keyspace.empty log) req ↔
      req.StatusFits ∨ ∀ id row, TicketRowAt (applyAll Keyspace.empty log) id row →
        ¬ req.anyStatus.Wants row :=
  (TicketsListed.empty.applyAll hlog).honoursFilters_iff req

end InfoVulcan.Db

/-! ## Runs on the JSON formats -/

namespace InfoVulcan.Db

open scoped SerdeJson

/-- The query for the tickets of an account with a status. -/
def statusQuery (status : UInt32) (account : String) : TicketQueryMessage where
  status := some status
  assignedToUuid := none
  accountUuid := some account
  project := none
  includeDeleted := false
  limit := 0

/-- A ticket and a request with a status that no ticket can have. -/
theorem query_honours_filters_iff_create :
    HonoursFilters (applyAll Keyspace.empty [.createTicket [] (accountFields "a")])
        (statusQuery 300 "a") ↔
      (statusQuery 300 "a").StatusFits ∨
        ∀ id row, TicketRowAt
          (applyAll Keyspace.empty [.createTicket [] (accountFields "a")]) id row →
          ¬ (statusQuery 300 "a").anyStatus.Wants row :=
  query_honours_filters_iff
    (fun _ he => List.mem_singleton.mp he ▸ LogEntry.sparesTickets_of_isTicketCommand rfl) _

/-- A request for a status that no ticket can have is answered with a ticket. -/
theorem unused_status_answered :
    ¬ HonoursFilters (applyAll Keyspace.empty [.createTicket [] (accountFields "a")])
      (statusQuery 300 "a") := by
  intro hhonours
  have hlisted : TicketsListed (applyAll Keyspace.empty [.createTicket [] (accountFields "a")]) :=
    TicketsListed.empty.applyAll
      fun _ he => List.mem_singleton.mp he ▸ LogEntry.sparesTickets_of_isTicketCommand rfl
  have hrow : TicketRowAt (applyAll Keyspace.empty [.createTicket [] (accountFields "a")]) 1
      (Table.fresh [] (accountFields "a")) :=
    (represents_upTo (accountFields "a") (n := 1) (by omega)).ticketRowAt.mpr
      (TicketTable.upTo_rows _ le_rfl le_rfl)
  rcases (hlisted.honoursFilters_iff _).mp hhonours with hfits | hnone
  · exact absurd (hfits 300 rfl) (by decide)
  · refine hnone 1 _ hrow ?_
    simp [TicketQueryMessage.Wants, TicketQueryMessage.anyStatus, statusQuery, Table.fresh,
      accountFields]

end InfoVulcan.Db
