import InfoVulcan.Db.Json
import InfoVulcan.Db.LogEntry
import InfoVulcan.Library.Postings

/-!
# The ticket indexes agree with the ticket rows

`TicketTable` is what the ticket part of the database is for: a number of issued ids and a row
for some of them. `Represents` relates it to the bytes in the trees, index trees included, and
`Represents.applyAll` shows that a log of ticket commands does to the trees what it does to the
table, as long as the id counter has room. Index coherence is read off that relation.
-/

namespace InfoVulcan.Db

/-! ## Postings -/

/-- The entity suffix of an index key determines the entity. -/
theorem indexKey_entity_inj {v w : Bytes} {i j : UInt64}
    (h : indexKey v (Bytes.ofU64 i) = indexKey w (Bytes.ofU64 j)) : v = w ∧ i = j := by
  obtain ⟨hvalue, hentity⟩ := List.append_inj' h (by simp)
  exact ⟨List.append_cancel_right hvalue, Bytes.ofU64_inj.mp hentity⟩

variable [RowFormat]

/-- The index trees of tickets as a posting index. -/
def ticketIndex : PostingIndex String Bytes Bytes UInt64 StoredTicket where
  trees := ticketIndexTrees
  cells id row := tickets.listed id (some row)
  mark := Bytes.ofU64
  disjoint {i j r q c} hi hj := by
    simp only [Table.listed] at hi hj
    split at hi
    · cases hi
    split at hj
    · cases hj
    obtain ⟨e, -, rfl⟩ := List.mem_map.mp hi
    obtain ⟨d, -, hd⟩ := List.mem_map.mp hj
    exact (indexKey_entity_inj (congrArg Cell.key hd)).2.symm

theorem ticketIndex_cellsOf (id : UInt64) (row : Option StoredTicket) :
    ticketIndex.cellsOf id row = tickets.listed id row := by
  cases row <;> rfl

/-! ## The abstract table -/

/-- A ticket table: the number of ids issued so far, and the rows. -/
structure TicketTable where
  issued : Nat
  rows : UInt64 → Option StoredTicket

namespace TicketTable

/-- The table before any command. -/
def initial : TicketTable := ⟨0, fun _ => none⟩

/-- Changes a row that is there. -/
def change (T : TicketTable) (id : UInt64) (f : StoredTicket → StoredTicket) : TicketTable :=
  { T with rows := Function.update T.rows id ((T.rows id).map f) }

omit [RowFormat] in
@[simp] theorem change_issued (T : TicketTable) (id : UInt64) (f : StoredTicket → StoredTicket) :
    (T.change id f).issued = T.issued := rfl

/-- The table after a command. -/
def apply (T : TicketTable) : LogEntry → TicketTable
  | .createTicket body index =>
      { issued := T.issued + 1
        rows := Function.update T.rows (UInt64.ofNat (T.issued + 1))
          (some (Table.fresh body index)) }
  | .updateTicket ticketId body index => T.change ticketId (Table.updated · body index)
  | .softDeleteTicket ticketId atUnix => T.change ticketId (Table.retired · atUnix)
  | _ => T

/-- The table after a log. -/
def applyAll (T : TicketTable) (log : List LogEntry) : TicketTable :=
  log.foldl apply T

omit [RowFormat] in
theorem applyAll_append (T : TicketTable) (log : List LogEntry) (e : LogEntry) :
    T.applyAll (log ++ [e]) = (T.applyAll log).apply e :=
  List.foldl_concat ..

end TicketTable

omit [RowFormat] in
/-- A change is made to one row. -/
theorem TicketTable.rows_change (T : TicketTable) (id : UInt64) (f : StoredTicket → StoredTicket)
    (j : UInt64) : (T.change id f).rows j = if j = id then (T.rows id).map f else T.rows j :=
  Function.update_apply ..

omit [RowFormat] in
/-- A creation adds the row of the next id. -/
theorem TicketTable.rows_createTicket (T : TicketTable) (body : Bytes) (index : TicketIndexFields)
    (j : UInt64) :
    (T.apply (.createTicket body index)).rows j =
      if j = UInt64.ofNat (T.issued + 1) then some (Table.fresh body index) else T.rows j :=
  Function.update_apply ..

omit [RowFormat] in
/-- Only a creation issues an id. -/
theorem TicketTable.issued_apply (T : TicketTable) (e : LogEntry) :
    (T.apply e).issued = T.issued + if e.isCreateTicket then 1 else 0 := by
  cases e <;> rfl

/-! ## Coherence -/

/-- The ticket tree holds a row under an id. -/
def TicketRowAt (db : Sled) (id : UInt64) (row : StoredTicket) : Prop :=
  ∃ bytes, get db TREE_TICKETS (Bytes.ofU64 id) = some bytes ∧
    RowFormat.storedTicket.decode bytes = .ok row

/-- The index trees hold an entry `value ++ 0x00 ++ id` for every row that is not deleted and
every index value of it, and nothing else. -/
def IndexesCoherent (db : Sled) : Prop :=
  ∀ tree ∈ ticketIndexTrees, ∀ key entity,
    get db tree key = some entity ↔
      ∃ id row value, TicketRowAt db id row ∧ row.deleted = false ∧
        (tree, value) ∈ ticketIndexEntries row.index ∧
        key = indexKey value (Bytes.ofU64 id) ∧ entity = Bytes.ofU64 id


/-! ## Representation -/

/-- The trees of the database hold the table `T`: counter, rows, and indexes. -/
structure Represents (T : TicketTable) (db : Sled) : Prop where
  counter : db.at? seqCell = counterBytes T.issued
  issued_lt : T.issued < 2 ^ 64
  row : ∀ id, db.at? (tickets.rowCell id) = (T.rows id).map tickets.format.encode
  keyed : ∀ key bytes, get db TREE_TICKETS key = some bytes → ∃ id, key = Bytes.ofU64 id
  known : ∀ id row, T.rows id = some row → id.toNat ≤ T.issued
  exact : ticketIndex.Exact T.rows db

namespace Represents

variable {T : TicketTable} {db : Sled}

theorem empty : Represents .initial Keyspace.empty where
  counter := by simp [TicketTable.initial, counterBytes]
  issued_lt := by simp [TicketTable.initial]
  row id := by simp [TicketTable.initial]
  keyed key bytes h := by simp [get] at h
  known id row h := by simp [TicketTable.initial] at h
  exact := PostingIndex.exact_empty

/-- Rewriting one row of the represented table, with the counter put where it belongs. -/
theorem rewrite (h : Represents T db) {id : UInt64} {n : Nat} {new : StoredTicket} {db' : Sled}
    (hn : n < 2 ^ 64) (hid : id.toNat ≤ n) (hmono : T.issued ≤ n)
    (hseq : db'.at? seqCell = counterBytes n)
    (hdb' : ∀ c, c ≠ seqCell →
      db'.at? c = (lastWrite (tickets.rewrite id (T.rows id) new) c).getD (db.at? c)) :
    Represents ⟨n, Function.update T.rows id (some new)⟩ db' where
  counter := hseq
  issued_lt := hn
  row j := by
    rw [hdb' _ (tickets_rowCell_ne_seqCell j),
      tickets.lastWrite_rewrite_unlisted _ _ _ tickets.tree_unlisted]
    by_cases hj : j = id
    · subst hj
      simp
    · simp only [if_neg (tickets_rowCell_inj.not.mpr hj), Function.update_of_ne hj]
      exact h.row j
  keyed key bytes hget := by
    by_cases hkey : key = Bytes.ofU64 id
    · exact ⟨id, hkey⟩
    · have hne := ne_tickets_rowCell hkey
      refine h.keyed key bytes ?_
      rw [← hget]
      show db.at? _ = db'.at? _
      rw [hdb' _ (by simp [seqCell, TREE_TICKETS, TREE_SEQ]),
        tickets.lastWrite_rewrite_unlisted _ _ _ tickets.tree_unlisted, if_neg hne]
      rfl
  known j row hrow := by
    by_cases hj : j = id
    · exact hj ▸ hid
    · simp only [Function.update_of_ne hj] at hrow
      exact (h.known j row hrow).trans hmono
  exact := by
    refine h.exact.replace id (some new) fun c hc => ?_
    have hseqne : c ≠ seqCell := by
      rintro rfl
      exact seqCell_outside (List.mem_cons_of_mem _ hc)
    have hrowne : c ≠ tickets.rowCell id := by
      rintro rfl
      exact tickets.tree_unlisted hc
    rw [hdb' c hseqne, Table.lastWrite_rewrite, if_neg hrowne, ticketIndex_cellsOf,
      ticketIndex_cellsOf]
    split_ifs <;> rfl

/-- Changing one row of the represented table. -/
theorem changeRow (h : Represents T db) (id : UInt64) (f : StoredTicket → StoredTicket) :
    Represents (T.change id f)
      (db.applyWrites (tickets.changeRow id f (db.at? (tickets.rowCell id))).2) := by
  rw [h.row id]
  cases hrow : T.rows id with
  | none =>
      have hsame : T.change id f = T := by
        rw [TicketTable.change, hrow, Option.map_none, ← hrow, Function.update_eq_self]
      rw [hsame]
      exact h
  | some old =>
      rw [TicketTable.change, hrow]
      simp only [Option.map_some, Table.changeRow, Codec.decode_encode]
      refine h.rewrite h.issued_lt (h.known id old hrow) le_rfl ?_ fun c _ => ?_
      · rw [← h.counter, Keyspace.at_applyWrites,
          Table.lastWrite_rewrite_outside _ _ _ _ seqCell_outside]
        rfl
      · rw [Keyspace.at_applyWrites, hrow]

/-- The next id has no row yet. -/
theorem next_free (h : Represents T db) (hroom : T.issued + 1 < 2 ^ 64) :
    T.rows (UInt64.ofNat (T.issued + 1)) = none := by
  have hid : (UInt64.ofNat (T.issued + 1)).toNat = T.issued + 1 :=
    UInt64.toNat_ofNat_of_lt' hroom
  cases hrow : T.rows (UInt64.ofNat (T.issued + 1)) with
  | none => rfl
  | some row =>
      have hknown := h.known _ _ hrow
      omega

/-- Creating a row under the next id. -/
theorem createTicket (h : Represents T db) (hroom : T.issued + 1 < 2 ^ 64) (body : Bytes)
    (index : TicketIndexFields) :
    Represents (T.apply (.createTicket body index))
      (db.applyWrites (createTicketWrites (db.at? seqCell) body index)) := by
  have hid : (UInt64.ofNat (T.issued + 1)).toNat = T.issued + 1 :=
    UInt64.toNat_ofNat_of_lt' hroom
  have hfree := h.next_free hroom
  rw [h.counter, createTicketWrites, nextCounter_counterBytes hroom]
  refine h.rewrite hroom hid.le (Nat.le_succ _) ?_ fun c hc => ?_
  · rw [← List.singleton_append, Keyspace.at_applyWrites, lastWrite_append,
      Table.lastWrite_rewrite_outside _ _ _ _ seqCell_outside]
    simp [lastWrite, Write.cell, Write.value, counterBytes]
  · rw [← List.singleton_append, Keyspace.at_applyWrites, lastWrite_append, hfree]
    simp [lastWrite, Write.cell, hc.symm]

/-- A ticket command does to the trees what it does to the table, as long as a fresh id is left
for a creation. -/
theorem apply (h : Represents T db) {e : LogEntry} (he : e.isTicketCommand)
    (hroom : e.isCreateTicket → T.issued + 1 < 2 ^ 64) :
    Represents (T.apply e) (e.apply db).2 := by
  rw [LogEntry.apply_eq_exec]
  cases e with
  | createTicket body index => exact h.createTicket (hroom rfl) body index
  | updateTicket ticketId body index => exact h.changeRow ticketId _
  | softDeleteTicket ticketId atUnix => exact h.changeRow ticketId _
  | _ => cases he

/-- A log of ticket commands does to the trees what it does to the table. -/
theorem applyAll (h : Represents T db) {log : List LogEntry}
    (hlog : ∀ e ∈ log, e.isTicketCommand)
    (hroom : T.issued + log.countP LogEntry.isCreateTicket < 2 ^ 64) :
    Represents (T.applyAll log) (applyAll db log) := by
  induction log generalizing T db with
  | nil => exact h
  | cons e log ih =>
      rw [List.countP_cons] at hroom
      refine ih (h.apply (hlog e List.mem_cons_self) fun hc => ?_)
        (fun d hd => hlog d (List.mem_cons_of_mem _ hd)) ?_
      · rw [if_pos hc] at hroom
        omega
      · rw [T.issued_apply]
        omega

/-- The row cells of the trees hold the rows of the table. -/
theorem ticketRowAt (h : Represents T db) {id : UInt64} {row : StoredTicket} :
    TicketRowAt db id row ↔ T.rows id = some row := by
  have hcell : get db TREE_TICKETS (Bytes.ofU64 id) = (T.rows id).map tickets.format.encode :=
    h.row id
  rw [TicketRowAt, hcell]
  constructor
  · rintro ⟨bytes, hbytes, hdecode⟩
    obtain ⟨row', hrow', rfl⟩ := Option.map_eq_some_iff.mp hbytes
    rw [hrow']
    exact congrArg some (by simpa [tickets] using hdecode)
  · intro hrow
    exact ⟨_, by rw [hrow]; rfl, tickets.format.decode_encode row⟩

/-- The indexes of a represented table list its live rows. -/
theorem indexesCoherent (h : Represents T db) : IndexesCoherent db := by
  intro tree htree key value
  refine (h.exact ⟨tree, key⟩ htree value).trans ?_
  constructor
  · rintro ⟨id, row, hrow, hmem, hvalue⟩
    replace hmem : _ ∈ tickets.listed id (some row) := hmem
    rw [Table.listed] at hmem
    split at hmem
    case isTrue hdel => cases hmem
    case isFalse hdel =>
        obtain ⟨⟨tree', v⟩, hv, heq⟩ := List.mem_map.mp hmem
        obtain ⟨rfl, rfl⟩ := Cell.mk.inj heq
        exact ⟨id, row, v, h.ticketRowAt.mpr hrow, by simpa using hdel, hv, rfl, hvalue⟩
  · rintro ⟨id, row, v, hrow, hdel, hv, rfl, hvalue⟩
    refine ⟨id, row, h.ticketRowAt.mp hrow, ?_, hvalue⟩
    show _ ∈ tickets.listed id (some row)
    rw [Table.listed, hdel]
    exact List.mem_map.mpr ⟨(tree, v), hv, rfl⟩

end Represents

/-! ## Index coherence -/

/-- As long as the id counter does not run out, the indexes agree with the rows after any log of
ticket commands. -/
theorem ticket_indexes_coherent {log : List LogEntry} (hlog : ∀ e ∈ log, e.isTicketCommand)
    (hroom : log.countP LogEntry.isCreateTicket < 2 ^ 64) :
    IndexesCoherent (applyAll Keyspace.empty log) :=
  (Represents.empty.applyAll hlog (by simpa [TicketTable.initial] using hroom)).indexesCoherent

/-! ## The last id

The counter stays at the largest id, so one creation too many writes over the row of that id. -/

/-- The table of the first `n` ids, with the same fields in every row. -/
def TicketTable.upTo (index : TicketIndexFields) (n : Nat) : TicketTable where
  issued := n
  rows id := if 1 ≤ id.toNat ∧ id.toNat ≤ n then some (Table.fresh [] index) else none

omit [RowFormat] in
theorem TicketTable.upTo_rows (index : TicketIndexFields) {n : Nat} {id : UInt64}
    (hone : 1 ≤ id.toNat) (hle : id.toNat ≤ n) :
    (TicketTable.upTo index n).rows id = some (Table.fresh [] index) :=
  if_pos ⟨hone, hle⟩

omit [RowFormat] in
/-- The table after some creations. -/
theorem TicketTable.applyAll_replicate (index : TicketIndexFields) {n : Nat} (hn : n < 2 ^ 64) :
    TicketTable.initial.applyAll (List.replicate n (.createTicket [] index)) = .upTo index n := by
  induction n with
  | zero =>
      refine congrArg (TicketTable.mk 0) (funext fun id => ?_)
      rw [if_neg (by omega)]
  | succ n ih =>
      have hid : (UInt64.ofNat (n + 1)).toNat = n + 1 := UInt64.toNat_ofNat_of_lt' hn
      rw [List.replicate_succ', TicketTable.applyAll_append, ih (by omega)]
      refine congrArg (TicketTable.mk (n + 1)) (funext fun id => ?_)
      simp only [TicketTable.upTo, Function.update_apply]
      by_cases heq : id = UInt64.ofNat (n + 1)
      · rw [if_pos heq, heq, hid, if_pos ⟨by omega, le_rfl⟩]
      · have hne : id.toNat ≠ n + 1 := fun h => heq (UInt64.toNat_inj.mp (h.trans hid.symm))
        rw [if_neg heq]
        exact if_congr (by omega) rfl rfl

/-- The database after some creations. -/
theorem represents_upTo (index : TicketIndexFields) {n : Nat} (hn : n < 2 ^ 64) :
    Represents (.upTo index n)
      (applyAll Keyspace.empty (List.replicate n (.createTicket [] index))) := by
  rw [← TicketTable.applyAll_replicate index hn]
  refine Represents.empty.applyAll (fun e he => ?_) ?_
  · rw [List.eq_of_mem_replicate he]
    rfl
  · have hcount := List.countP_le_length (p := LogEntry.isCreateTicket)
      (l := List.replicate n (.createTicket [] index))
    rw [List.length_replicate] at hcount
    exact (Nat.zero_add _).trans_lt (hcount.trans_lt hn)

/-- The last id. -/
def lastId : UInt64 := UInt64.ofNat (2 ^ 64 - 1)

omit [RowFormat] in
theorem lastId_toNat : lastId.toNat + 1 = 2 ^ 64 := rfl

/-- A creation for every id, and one more. -/
def creationsPastLastId (first last : TicketIndexFields) : List LogEntry :=
  List.replicate lastId.toNat (.createTicket [] first) ++ [.createTicket [] last]

/-- After one creation more, a cell outside the counter holds what the creation wrote to it under
the last id, or else what it held before. -/
theorem at_creationsPastLastId (first last : TicketIndexFields) {c : SledCell} (hc : c ≠ seqCell) :
    (applyAll Keyspace.empty (creationsPastLastId first last)).at? c =
      (lastWrite (tickets.rewrite lastId none (Table.fresh [] last)) c).getD
        ((applyAll Keyspace.empty
          (List.replicate lastId.toNat (.createTicket [] first))).at? c) := by
  have hcounter := (represents_upTo first lastId.toNat_lt).counter
  rw [creationsPastLastId, applyAll_append]
  generalize applyAll Keyspace.empty _ = db at hcounter ⊢
  rw [applyAll_cons, applyAll_nil, LogEntry.apply_eq_exec]
  show (db.applyWrites (createTicketWrites (db.at? seqCell) [] last)).at? c = _
  have hseq : lastWrite [(.put seqCell (Bytes.ofU64 lastId) : SledWrite)] c = none := by
    simp [lastWrite, Write.cell, Ne.symm hc]
  have hnext : nextCounter (db.at? seqCell) = lastId := by
    rw [hcounter]
    exact nextCounter_counterBytes_last
  rw [createTicketWrites, hnext, ← List.singleton_append, Keyspace.at_applyWrites,
    lastWrite_append, hseq, Option.or_none]

/-- After the creations, the row of the last id is that of the last creation. -/
theorem lastRow_creationsPastLastId (first last : TicketIndexFields) :
    get (applyAll Keyspace.empty (creationsPastLastId first last)) TREE_TICKETS
      (Bytes.ofU64 lastId) = some (RowFormat.storedTicket.encode (Table.fresh [] last)) := by
  refine (at_creationsPastLastId first last (tickets_rowCell_ne_seqCell lastId)).trans ?_
  rw [tickets.lastWrite_rewrite_unlisted _ _ _ tickets.tree_unlisted, if_pos rfl]
  rfl

/-- After the creations, the last id is listed under the account of the last creation, and still
listed under that of the creation before it. -/
theorem account_listed_creationsPastLastId (first last : TicketIndexFields) {account : String}
    (haccount : account = first.accountUuid ∨ account = last.accountUuid) :
    get (applyAll Keyspace.empty (creationsPastLastId first last)) IDX_TICKET_ACCOUNT
      (indexKey (Bytes.ofText account) (Bytes.ofU64 lastId)) = some (Bytes.ofU64 lastId) := by
  have hne : (⟨IDX_TICKET_ACCOUNT, indexKey (Bytes.ofText account) (Bytes.ofU64 lastId)⟩ :
      SledCell) ≠ seqCell := by
    simp [seqCell, IDX_TICKET_ACCOUNT, TREE_SEQ]
  have hrow : (⟨IDX_TICKET_ACCOUNT, indexKey (Bytes.ofText account) (Bytes.ofU64 lastId)⟩ :
      SledCell) ≠ tickets.rowCell lastId := by
    simp [Table.rowCell, tickets, IDX_TICKET_ACCOUNT, TREE_TICKETS]
  refine (at_creationsPastLastId first last hne).trans ?_
  have h := represents_upTo first lastId.toNat_lt
  have hone : 1 ≤ lastId.toNat := by
    have hnat := lastId_toNat
    omega
  have hlive := TicketTable.upTo_rows first hone le_rfl
  generalize applyAll Keyspace.empty _ = db at h ⊢
  rw [Table.lastWrite_rewrite, if_neg hrow]
  split
  case isTrue hlisted => rfl
  case isFalse hlisted =>
      have hfirst : account = first.accountUuid := by
        refine haccount.resolve_right fun hlast => hlisted ?_
        refine List.mem_map.mpr ⟨(IDX_TICKET_ACCOUNT, Bytes.ofText account), ?_, rfl⟩
        simp [tickets, ticketIndexEntries, Table.fresh, hlast]
      have hentry : (IDX_TICKET_ACCOUNT, Bytes.ofText account) ∈
          ticketIndexEntries (Table.fresh [] first).index := by
        simp [ticketIndexEntries, Table.fresh, hfirst]
      have hrowAt : TicketRowAt db lastId (Table.fresh [] first) := h.ticketRowAt.mpr hlive
      rw [if_neg (show _ ∉ tickets.listed lastId none from List.not_mem_nil), Option.getD_none]
      exact (h.indexesCoherent IDX_TICKET_ACCOUNT (by simp [ticketIndexTrees])
        (indexKey (Bytes.ofText account) (Bytes.ofU64 lastId)) (Bytes.ofU64 lastId)).mpr
        ⟨lastId, Table.fresh [] first, Bytes.ofText account, hrowAt, rfl, hentry, rfl, rfl⟩

end InfoVulcan.Db

/-! ## Runs on the JSON formats -/

namespace InfoVulcan.Db

open scoped SerdeJson

/-- A ticket that is created and moved to another account is listed under the latter. -/
theorem ticket_indexes_coherent_update :
    IndexesCoherent (applyAll Keyspace.empty
      [.createTicket [1] (accountFields "a"), .updateTicket 1 [2] (accountFields "b")]) :=
  ticket_indexes_coherent (by decide) (by decide)

/-- One creation too many leaves an index entry that no row has. -/
theorem not_coherent_past_last_id :
    ¬ IndexesCoherent (applyAll Keyspace.empty
      (creationsPastLastId (accountFields "a\x00b") (accountFields "a"))) := by
  intro hcoherent
  obtain ⟨id, row, value, ⟨bytes, hbytes, hdecode⟩, -, hvalue, hkey, -⟩ :=
    (hcoherent IDX_TICKET_ACCOUNT (by simp [ticketIndexTrees]) _ _).mp
      (account_listed_creationsPastLastId _ (accountFields "a") (.inl rfl))
  obtain ⟨hvalue', rfl⟩ := indexKey_entity_inj hkey
  rw [lastRow_creationsPastLastId, Option.some_inj] at hbytes
  obtain rfl : Table.fresh [] (accountFields "a") = row := by
    simpa [← hbytes] using hdecode
  have haccount : value = Bytes.ofText "a" := by
    simpa [ticketIndexEntries, Table.fresh, accountFields, IDX_TICKET_STATUS, IDX_TICKET_ACCOUNT,
      IDX_TICKET_PROJECT, IDX_TICKET_CREATED, IDX_TICKET_UPDATED] using hvalue
  rw [haccount, Bytes.ofText_inj] at hvalue'
  exact absurd hvalue' (by decide)

end InfoVulcan.Db
