import InfoVulcan.Db.TicketIndex

/-!
# Querying by index is scanning the rows

A query is driven from one index or from the row tree. `Represents.queryTickets_eq` shows that the
candidates of every source, once filtered by row, are the same list: the wanted rows in ascending
id order. Index keys of other values that share the scan prefix are filtered out, and among keys
of one value byte order is id order.
-/

namespace InfoVulcan.Db

/-! ## The meaning of a query -/

/-- A row is wanted by a query: it satisfies every filter that is set, and it is not deleted
unless deleted rows are asked for. -/
def TicketQuery.Wants (query : TicketQuery) (row : StoredTicket) : Prop :=
  (query.includeDeleted = false → row.deleted = false) ∧
  (∀ s ∈ query.status, row.index.status = s) ∧
  (∀ a ∈ query.assignedToUuid, row.index.assignedToUuid = some a) ∧
  (∀ a ∈ query.accountUuid, row.index.accountUuid = a) ∧
  (∀ p ∈ query.project, row.index.project = p)

instance (query : TicketQuery) (row : StoredTicket) : Decidable (query.Wants row) :=
  inferInstanceAs (Decidable (_ ∧ _ ∧ _ ∧ _ ∧ _))

/-- The first `limit` elements, or all of them when `limit` is `0`. -/
def limited {α : Type} (limit : Nat) (xs : List α) : List α :=
  if limit = 0 then xs else xs.take limit

/-- Strictly ascending ids. -/
def Ascending (rows : List (UInt64 × StoredTicket)) : Prop :=
  rows.Pairwise fun a b => a.1 < b.1

theorem TicketQuery.wants_iff (query : TicketQuery) (row : StoredTicket) :
    query.Wants row ↔
      (query.includeDeleted = false → row.deleted = false) ∧ query.matches row.index = true := by
  rcases query with ⟨_ | _, _ | _, _ | _, _ | _, _, _⟩ <;>
    simp [TicketQuery.Wants, TicketQuery.matches, and_assoc]

/-! ## Index values

Each filter field has its own index tree, in which a row is listed under that field only. -/

theorem mem_status_entries {index : TicketIndexFields} {v : Bytes} :
    (IDX_TICKET_STATUS, v) ∈ ticketIndexEntries index ↔ v = [index.status] := by
  simp [ticketIndexEntries, IDX_TICKET_STATUS, IDX_TICKET_ACCOUNT, IDX_TICKET_PROJECT,
    IDX_TICKET_CREATED, IDX_TICKET_UPDATED, IDX_TICKET_ASSIGNEE, IDX_TICKET_TRACKING]

theorem mem_account_entries {index : TicketIndexFields} {v : Bytes} :
    (IDX_TICKET_ACCOUNT, v) ∈ ticketIndexEntries index ↔ v = Bytes.ofText index.accountUuid := by
  simp [ticketIndexEntries, IDX_TICKET_STATUS, IDX_TICKET_ACCOUNT, IDX_TICKET_PROJECT,
    IDX_TICKET_CREATED, IDX_TICKET_UPDATED, IDX_TICKET_ASSIGNEE, IDX_TICKET_TRACKING]

theorem mem_project_entries {index : TicketIndexFields} {v : Bytes} :
    (IDX_TICKET_PROJECT, v) ∈ ticketIndexEntries index ↔ v = Bytes.ofText index.project := by
  simp [ticketIndexEntries, IDX_TICKET_STATUS, IDX_TICKET_ACCOUNT, IDX_TICKET_PROJECT,
    IDX_TICKET_CREATED, IDX_TICKET_UPDATED, IDX_TICKET_ASSIGNEE, IDX_TICKET_TRACKING]

theorem mem_assignee_entries {index : TicketIndexFields} {v : Bytes} :
    (IDX_TICKET_ASSIGNEE, v) ∈ ticketIndexEntries index ↔
      ∃ a, index.assignedToUuid = some a ∧ v = Bytes.ofText a := by
  simp [ticketIndexEntries, IDX_TICKET_STATUS, IDX_TICKET_ACCOUNT, IDX_TICKET_PROJECT,
    IDX_TICKET_CREATED, IDX_TICKET_UPDATED, IDX_TICKET_ASSIGNEE, IDX_TICKET_TRACKING, eq_comm]

variable [RowFormat]

/-! ## The collecting loop -/

/-- What a candidate id contributes to the result. -/
def answer (db : Sled) (query : TicketQuery) (id : UInt64) : Option (UInt64 × StoredTicket) :=
  match getTicket db id query.includeDeleted with
  | .ok (some row) => if query.matches row.index then some (id, row) else none
  | _ => none

/-- The loop collects the contributions of the candidates, cut at the limit. -/
theorem queryLoop_eq (db : Sled) (query : TicketQuery) (candidates : List UInt64)
    (out : List (UInt64 × StoredTicket))
    (hread : ∀ id ∈ candidates, ∃ row, getTicket db id query.includeDeleted = .ok row)
    (hout : query.limit = 0 ∨ out.length < query.limit) :
    queryLoop db query candidates out =
      .ok (limited query.limit (out ++ candidates.filterMap (answer db query))) := by
  induction candidates generalizing out with
  | nil =>
      rw [queryLoop, List.filterMap_nil, List.append_nil, limited]
      split
      · rfl
      · rw [List.take_of_length_le (by omega)]
  | cons id candidates ih =>
      have hrest : ∀ j ∈ candidates, ∃ row, getTicket db j query.includeDeleted = .ok row :=
        fun j hj => hread j (List.mem_cons_of_mem _ hj)
      obtain ⟨row, hrow⟩ := hread id List.mem_cons_self
      rw [queryLoop, hrow, List.filterMap_cons, answer, hrow]
      cases row with
      | none => exact ih out hrest hout
      | some row =>
          by_cases hmatch : query.matches row.index
          · simp only [hmatch, if_true]
            by_cases hfull : query.limit > 0 ∧ (out ++ [(id, row)]).length ≥ query.limit
            · have hlength : (out ++ [(id, row)]).length = query.limit := by
                simp only [List.length_append, List.length_singleton] at hfull ⊢
                omega
              rw [if_pos hfull, limited, if_neg (by omega),
                List.append_cons out (id, row) (List.filterMap _ candidates),
                List.take_append_of_le_length hlength.ge, List.take_of_length_le hlength.le]
            · rw [if_neg hfull, ih _ hrest (by omega), List.append_assoc]
              rfl
          · simp only [hmatch]
            exact ih out hrest hout

/-! ## Candidates -/

/-- Reading a ticket gives the row in its cell, hidden when it is deleted. -/
theorem getTicket_of_row {db : Sled} {id : UInt64} {o : Option StoredTicket}
    (hrow : db.at? (tickets.rowCell id) = o.map tickets.format.encode) (includeDeleted : Bool) :
    getTicket db id includeDeleted = .ok (o.filter fun row => !row.deleted || includeDeleted) := by
  have hcell : get db tickets.tree (tickets.entity id) = o.map tickets.format.encode := hrow
  rw [getTicket, Table.read, hcell]
  cases o with
  | none => rfl
  | some row =>
      simp only [Option.map_some, Codec.decode_encode]
      cases hdel : row.deleted <;> cases includeDeleted <;> simp [Option.filter_some, hdel]

namespace Represents

variable {T : TicketTable} {db : Sled}

/-- Reading a ticket gives the row of the table, hidden when it is deleted. -/
theorem getTicket_eq (h : Represents T db) (id : UInt64) (includeDeleted : Bool) :
    getTicket db id includeDeleted =
      .ok ((T.rows id).filter fun row => !row.deleted || includeDeleted) :=
  getTicket_of_row (h.row id) includeDeleted

/-- A candidate contributes its row if the query wants it. -/
theorem answer_eq_some (h : Represents T db) {query : TicketQuery} {id : UInt64}
    {found : UInt64 × StoredTicket} :
    answer db query id = some found ↔
      found.1 = id ∧ T.rows id = some found.2 ∧ query.Wants found.2 := by
  obtain ⟨id', row'⟩ := found
  rw [answer, h.getTicket_eq, TicketQuery.wants_iff]
  cases T.rows id with
  | none => simp
  | some row =>
      cases hdel : row.deleted <;> cases hincl : query.includeDeleted <;>
        simp [Option.filter_some, hdel] <;> grind

/-- The keys of the row tree, in order, are the ids of the rows. -/
theorem allTicketIds_spec (h : Represents T db) :
    (allTicketIds db).Pairwise (· < ·) ∧
      ∀ id, id ∈ allTicketIds db ↔ ∃ row, T.rows id = some row := by
  have hkeys : ∀ kv ∈ Keyspace.scan db TREE_TICKETS, ∃ id, kv.1 = Bytes.ofU64 id :=
    fun kv hkv => h.keyed kv.1 kv.2 (Keyspace.mem_scan.mp hkv)
  constructor
  · refine List.pairwise_filterMap.mpr
      ((Keyspace.scan_sorted db TREE_TICKETS).imp_of_mem fun {a b} ha hb hlt i hi j hj => ?_)
    obtain ⟨i', hi'⟩ := hkeys a ha
    obtain ⟨j', hj'⟩ := hkeys b hb
    rw [hi', Bytes.toU64_ofU64] at hi
    rw [hj', Bytes.toU64_ofU64] at hj
    obtain rfl := Option.some.inj hi
    obtain rfl := Option.some.inj hj
    rw [hi', hj', Bytes.compare_ofU64] at hlt
    exact UInt64.lt_iff_toNat_lt.mpr (Nat.compare_eq_lt.mp hlt)
  · intro id
    have hcell : get db TREE_TICKETS (Bytes.ofU64 id) = (T.rows id).map tickets.format.encode :=
      h.row id
    constructor
    · intro hid
      obtain ⟨kv, hkv, hid⟩ := List.mem_filterMap.mp hid
      obtain ⟨id', hkey⟩ := hkeys kv hkv
      rw [hkey, Bytes.toU64_ofU64] at hid
      obtain rfl := Option.some.inj hid
      have hget : get db TREE_TICKETS kv.1 = some kv.2 := Keyspace.mem_scan.mp hkv
      rw [hkey, hcell] at hget
      obtain ⟨row, hrow, -⟩ := Option.map_eq_some_iff.mp hget
      exact ⟨row, hrow⟩
    · rintro ⟨row, hrow⟩
      refine List.mem_filterMap.mpr ⟨(Bytes.ofU64 id, tickets.format.encode row), ?_, by simp⟩
      refine Keyspace.mem_scan.mpr ?_
      show get db TREE_TICKETS (Bytes.ofU64 id) = _
      rw [hcell, hrow]
      rfl

/-- A list of candidates answers the query when it finds the wanted rows and nothing else, each
once and in ascending order. -/
def Answers (T : TicketTable) (query : TicketQuery) (found : List (UInt64 × StoredTicket)) :
    Prop :=
  Ascending found ∧
    ∀ id row, (id, row) ∈ found ↔ T.rows id = some row ∧ query.Wants row

/-- All rows are enough to answer any query. -/
theorem answers_all (h : Represents T db) (query : TicketQuery) :
    Answers T query ((allTicketIds db).filterMap (answer db query)) := by
  obtain ⟨hsorted, hmem⟩ := h.allTicketIds_spec
  constructor
  · refine List.pairwise_filterMap.mpr (hsorted.imp fun {i j} hlt a ha b hb => ?_)
    rw [(h.answer_eq_some.mp ha).1, (h.answer_eq_some.mp hb).1]
    exact hlt
  · intro id row
    rw [List.mem_filterMap]
    constructor
    · rintro ⟨j, -, hj⟩
      obtain ⟨rfl, hrow, hwants⟩ := h.answer_eq_some.mp hj
      exact ⟨hrow, hwants⟩
    · rintro ⟨hrow, hwants⟩
      exact ⟨id, (hmem id).mpr ⟨row, hrow⟩, h.answer_eq_some.mpr ⟨rfl, hrow, hwants⟩⟩

/-- An index is enough to answer a query about live rows that all are listed in it under one
value. -/
theorem answers_index (h : Represents T db) {query : TicketQuery} {tree : String}
    {value : Bytes} (htree : tree ∈ ticketIndexTrees) (hlive : query.includeDeleted = false)
    (hvalue : ∀ row, query.Wants row →
      ∀ v, (tree, v) ∈ ticketIndexEntries row.index ↔ v = value) :
    Answers T query ((scanIndexIds db tree value).filterMap (answer db query)) := by
  -- An entry that contributes a row is the one of that row, so its key ends in the id.
  have hentry : ∀ kv ∈ scanPrefix db tree (indexPrefix value), ∀ id, Bytes.toU64? kv.2 = some id →
      ∀ found, answer db query id = some found → kv.1 = indexKey value (Bytes.ofU64 found.1) := by
    intro kv hkv id hid found hfound
    obtain ⟨hfst, hrow, hwants⟩ := h.answer_eq_some.mp hfound
    have hget : db.at? ⟨tree, kv.1⟩ = some kv.2 := Keyspace.mem_scan.mp (List.mem_filter.mp hkv).1
    obtain ⟨id', row, v, hrow', -, hv, hkey, hid'⟩ := (h.indexesCoherent tree htree _ _).mp hget
    rw [hid', Bytes.toU64_ofU64] at hid
    obtain rfl := Option.some.inj hid
    obtain rfl : row = found.2 := Option.some.inj ((h.ticketRowAt.mp hrow').symm.trans hrow)
    rw [hkey, (hvalue _ hwants v).mp hv, hfst]
  rw [scanIndexIds, List.filterMap_filterMap]
  constructor
  · refine List.pairwise_filterMap.mpr (List.Pairwise.imp_of_mem
      (fun {a b} ha hb hlt => ?_) ((Keyspace.scan_sorted db tree).filter _))
    intro x hx y hy
    obtain ⟨i, hi, hx⟩ := Option.bind_eq_some_iff.mp hx
    obtain ⟨j, hj, hy⟩ := Option.bind_eq_some_iff.mp hy
    rw [hentry a ha i hi x hx, hentry b hb j hj y hy, indexKey, indexKey,
      Bytes.compare_append_left, Bytes.compare_ofU64] at hlt
    exact UInt64.lt_iff_toNat_lt.mpr (Nat.compare_eq_lt.mp hlt)
  · intro id row
    rw [List.mem_filterMap]
    constructor
    · rintro ⟨kv, -, hfound⟩
      obtain ⟨j, -, hfound⟩ := Option.bind_eq_some_iff.mp hfound
      obtain ⟨rfl, hrow, hwants⟩ := h.answer_eq_some.mp hfound
      exact ⟨hrow, hwants⟩
    · rintro ⟨hrow, hwants⟩
      refine ⟨(indexKey value (Bytes.ofU64 id), Bytes.ofU64 id), List.mem_filter.mpr ⟨?_, ?_⟩, ?_⟩
      · refine Keyspace.mem_scan.mpr ((h.indexesCoherent tree htree _ _).mpr ?_)
        exact ⟨id, row, value, h.ticketRowAt.mpr hrow, hwants.1 hlive,
          (hvalue row hwants value).mpr rfl, rfl, rfl⟩
      · simp [indexKey, indexPrefix]
      · have hanswer : answer db query id = some (id, row) :=
          h.answer_eq_some.mpr ⟨rfl, hrow, hwants⟩
        simpa using hanswer

/-- Whatever the query is driven from, its candidates answer it. -/
theorem answers_queryCandidates (h : Represents T db) (query : TicketQuery) :
    Answers T query ((queryCandidates db query).filterMap (answer db query)) := by
  rw [queryCandidates]
  cases hlive : query.includeDeleted with
  | true => exact h.answers_all query
  | false =>
      simp only [Bool.false_eq_true, if_false]
      cases hstatus : query.status with
      | some status =>
          refine h.answers_index (by decide) hlive fun row hwants v => ?_
          rw [mem_status_entries, hwants.2.1 status hstatus]
      | none =>
          cases hassignee : query.assignedToUuid with
          | some assignee =>
              refine h.answers_index (by decide) hlive fun row hwants v => ?_
              rw [mem_assignee_entries, hwants.2.2.1 assignee hassignee]
              simp
          | none =>
              cases haccount : query.accountUuid with
              | some account =>
                  refine h.answers_index (by decide) hlive fun row hwants v => ?_
                  rw [mem_account_entries, hwants.2.2.2.1 account haccount]
              | none =>
                  cases hproject : query.project with
                  | some project =>
                      refine h.answers_index (by decide) hlive fun row hwants v => ?_
                      rw [mem_project_entries, hwants.2.2.2.2 project hproject]
                  | none => exact h.answers_all query

/-- The rows of a represented table, in ascending id order. -/
theorem exists_rows (h : Represents T db) :
    ∃ rows, Ascending rows ∧ ∀ id row, (id, row) ∈ rows ↔ T.rows id = some row := by
  obtain ⟨hsorted, hmem⟩ :=
    h.answers_all ⟨none, none, none, none, true, 0⟩
  exact ⟨_, hsorted, fun id row => (hmem id row).trans (by simp [TicketQuery.Wants])⟩

/-- A query over a represented table returns the wanted rows in ascending id order, up to the
limit. -/
theorem queryTickets_eq (h : Represents T db) (query : TicketQuery)
    {rows : List (UInt64 × StoredTicket)} (hsorted : Ascending rows)
    (hmem : ∀ id row, (id, row) ∈ rows ↔ T.rows id = some row) :
    queryTickets db query =
      .ok (limited query.limit (rows.filter fun r => query.Wants r.2)) := by
  rw [queryTickets, queryLoop_eq db query _ [] (fun id _ => ⟨_, h.getTicket_eq id _⟩)
    (Nat.eq_zero_or_pos _), List.nil_append]
  obtain ⟨hfound, hwanted⟩ := h.answers_queryCandidates query
  have hirrefl : Std.Irrefl fun a b : UInt64 × StoredTicket => a.1 < b.1 :=
    ⟨fun a => UInt64.lt_irrefl a.1⟩
  have hantisymm : Std.Antisymm fun a b : UInt64 × StoredTicket => a.1 < b.1 :=
    ⟨fun a b hab hba => absurd hba (UInt64.lt_asymm hab)⟩
  have hlist := List.Pairwise.eq_of_mem_iff hfound (hsorted.filter fun r => query.Wants r.2) ?_
  · rw [hlist]
  · rintro ⟨id, row⟩
    rw [hwanted, List.mem_filter, hmem, decide_eq_true_iff]

end Represents

/-! ## Queries on reachable stores -/

/-- As long as the id counter does not run out, a query returns the rows it wants, in ascending
id order and each once, cut to the limit. -/
theorem query_eq_full_scan {log : List LogEntry} (hlog : ∀ e ∈ log, e.isTicketCommand)
    (hroom : log.countP LogEntry.isCreateTicket < 2 ^ 64) (query : TicketQuery) :
    ∃ rows, Ascending rows ∧
      (∀ id row, (id, row) ∈ rows ↔ TicketRowAt (applyAll Keyspace.empty log) id row) ∧
      queryTickets (applyAll Keyspace.empty log) query =
        .ok (limited query.limit (rows.filter fun r => query.Wants r.2)) := by
  have h := Represents.empty.applyAll hlog (by simpa [TicketTable.initial] using hroom)
  obtain ⟨rows, hsorted, hmem⟩ := h.exists_rows
  exact ⟨rows, hsorted, fun id row => (hmem id row).trans h.ticketRowAt.symm,
    h.queryTickets_eq query hsorted hmem⟩

/-! ## A repeated row -/

/-- An id that an index lists under two keys with the scanned prefix answers the query twice, so
the answers do not ascend. -/
theorem not_ascending_of_listed_twice {db : Sled} {query : TicketQuery} {tree : String}
    {value k l : Bytes} {id : UInt64} {found : UInt64 × StoredTicket} (hne : k ≠ l)
    (hk : get db tree k = some (Bytes.ofU64 id)) (hl : get db tree l = some (Bytes.ofU64 id))
    (hkpre : indexPrefix value <+: k) (hlpre : indexPrefix value <+: l)
    (hfound : answer db query id = some found) :
    ¬ Ascending ((scanIndexIds db tree value).filterMap (answer db query)) := by
  intro hascending
  rw [Ascending, scanIndexIds, List.filterMap_filterMap, List.pairwise_filterMap] at hascending
  have hmem : ∀ {key}, get db tree key = some (Bytes.ofU64 id) → indexPrefix value <+: key →
      (key, Bytes.ofU64 id) ∈ scanPrefix db tree (indexPrefix value) := by
    intro key hget hpre
    exact List.mem_filter.mpr ⟨Keyspace.mem_scan.mpr hget, by simpa using hpre⟩
  have hanswer : found ∈ (Bytes.toU64? (Bytes.ofU64 id)).bind (answer db query) := by
    rw [Bytes.toU64_ofU64]
    exact hfound
  -- Of two entries in scan order, one does not hold the id.
  let NotBoth (a b : Bytes × Bytes) : Prop := ¬ (a.2 = Bytes.ofU64 id ∧ b.2 = Bytes.ofU64 id)
  have hsymm : Std.Symm NotBoth := ⟨fun a b hab hba => hab hba.symm⟩
  have hnotBoth : (scanPrefix db tree (indexPrefix value)).Pairwise NotBoth := by
    refine hascending.imp fun {a b} hlt hboth => ?_
    rw [hboth.1, hboth.2] at hlt
    exact UInt64.lt_irrefl _ (hlt _ hanswer _ hanswer)
  exact hnotBoth.forall (hmem hk hkpre) (hmem hl hlpre)
    (fun heq => hne (congrArg Prod.fst heq)) ⟨rfl, rfl⟩

/-- After one creation too many, reading a ticket succeeds whatever its id. -/
theorem exists_getTicket_creationsPastLastId (first last : TicketIndexFields) (id : UInt64)
    (includeDeleted : Bool) :
    ∃ row, getTicket (applyAll Keyspace.empty (creationsPastLastId first last)) id includeDeleted =
      .ok row := by
  by_cases hid : id = lastId
  · subst hid
    exact ⟨_, getTicket_of_row (o := some (Table.fresh [] last))
      (lastRow_creationsPastLastId first last) includeDeleted⟩
  · have hrow := at_creationsPastLastId first last (tickets_rowCell_ne_seqCell id)
    rw [tickets.lastWrite_rewrite_unlisted _ _ _ tickets.tree_unlisted,
      if_neg (tickets_rowCell_inj.not.mpr hid), Option.getD_none,
      (represents_upTo first lastId.toNat_lt).row id] at hrow
    exact ⟨_, getTicket_of_row hrow includeDeleted⟩

end InfoVulcan.Db

/-! ## Runs on the JSON formats -/

namespace InfoVulcan.Db

open scoped SerdeJson

/-- The query for the tickets of an account. -/
def accountQuery (account : String) : TicketQuery where
  status := none
  assignedToUuid := none
  accountUuid := some account
  project := none
  includeDeleted := false
  limit := 0

/-- A ticket that is moved to another account answers queries for the latter. -/
theorem query_eq_full_scan_update :
    ∃ rows, Ascending rows ∧
      (∀ id row, (id, row) ∈ rows ↔ TicketRowAt (applyAll Keyspace.empty
        [.createTicket [1] (accountFields "a"), .updateTicket 1 [2] (accountFields "b")]) id row) ∧
      queryTickets (applyAll Keyspace.empty
        [.createTicket [1] (accountFields "a"), .updateTicket 1 [2] (accountFields "b")])
        (accountQuery "b") =
        .ok (limited 0 (rows.filter fun r => (accountQuery "b").Wants r.2)) :=
  query_eq_full_scan (by decide) (by decide) (accountQuery "b")

/-- One creation too many makes a query return the last row twice. -/
theorem query_repeats_last_row :
    ¬ ∃ rows, Ascending rows ∧
      (∀ id row, (id, row) ∈ rows ↔ TicketRowAt (applyAll Keyspace.empty
        (creationsPastLastId (accountFields "a\x00b") (accountFields "a"))) id row) ∧
      queryTickets (applyAll Keyspace.empty
        (creationsPastLastId (accountFields "a\x00b") (accountFields "a"))) (accountQuery "a") =
        .ok (limited 0 (rows.filter fun r => (accountQuery "a").Wants r.2)) := by
  rintro ⟨rows, hsorted, -, hquery⟩
  have hread := exists_getTicket_creationsPastLastId (accountFields "a\x00b") (accountFields "a")
  have hlast := account_listed_creationsPastLastId (accountFields "a\x00b") (accountFields "a")
    (.inr rfl)
  have hfirst := account_listed_creationsPastLastId (accountFields "a\x00b") (accountFields "a")
    (.inl rfl)
  have hrow := getTicket_of_row (o := some (Table.fresh [] (accountFields "a")))
    (lastRow_creationsPastLastId (accountFields "a\x00b") (accountFields "a")) false
  generalize applyAll Keyspace.empty _ = db at hquery hread hlast hfirst hrow
  rw [queryTickets, queryLoop_eq db (accountQuery "a") _ [] (fun id _ => hread id _) (.inl rfl),
    List.nil_append] at hquery
  have hanswer : answer db (accountQuery "a") lastId =
      some (lastId, Table.fresh [] (accountFields "a")) := by
    rw [answer, show (accountQuery "a").includeDeleted = false from rfl, hrow]
    rfl
  have hne : indexKey (Bytes.ofText (accountFields "a").accountUuid) (Bytes.ofU64 lastId) ≠
      indexKey (Bytes.ofText (accountFields "a\x00b").accountUuid) (Bytes.ofU64 lastId) := by
    intro heq
    exact absurd (Bytes.ofText_inj.mp (indexKey_entity_inj heq).1) (by decide)
  refine not_ascending_of_listed_twice hne hlast hfirst (List.prefix_append ..)
    ⟨Bytes.ofText "b" ++ [0] ++ Bytes.ofU64 lastId, rfl⟩ hanswer ?_
  replace hquery := Except.ok.inj hquery
  rw [show (accountQuery "a").limit = 0 from rfl, limited, limited, if_pos rfl, if_pos rfl]
    at hquery
  exact hquery ▸ hsorted.filter _

end InfoVulcan.Db
