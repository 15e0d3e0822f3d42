import InfoVulcan.Db.TicketIndex

/-!
# Ticket rows under any log

Ticket and user commands share the log with generic writes, and the id counter can run out. What
still holds then is weaker than `Represents`: an entry leaves the ticket table alone or puts one
row in the place of another (`LogEntry.ticket_cases`), so rows stay readable and every live row
stays listed under its index values (`TicketsListed`), though stale entries may be listed with it.
-/

namespace InfoVulcan.Db

/-- The entry is no generic write to the trees of the ticket table. -/
def LogEntry.SparesTickets (e : LogEntry) : Prop :=
  ∀ tree ∈ e.genericTarget, tree ∉ ticketTrees

theorem LogEntry.sparesTickets_of_isTicketCommand {e : LogEntry} (h : e.isTicketCommand) :
    e.SparesTickets := by
  cases e <;> simp_all [LogEntry.SparesTickets, LogEntry.genericTarget, LogEntry.isTicketCommand]

/-- The ticket trees are no trees of users. -/
theorem not_mem_userTrees {tree : String} (h : tree ∈ ticketTrees) : tree ∉ userTrees := by
  revert tree
  decide

variable [RowFormat]

/-! ## What an entry does to the ticket table -/

/-- The entry leaves the ticket table alone, generic writes to it apart. -/
structure LeavesTickets (db : Sled) (e : LogEntry) : Prop where
  noCreation : e.isCreateTicket = false
  cells : ∀ c : SledCell, c.space ∈ ticketTrees → e.genericTarget ≠ some c.space →
    (e.apply db).2.at? c = db.at? c

/-- The entry puts the row `new` in the place of `old`, under the next id or under one that is
taken. -/
structure RewritesTicket (db : Sled) (e : LogEntry) (id : UInt64) (old : Option StoredTicket)
    (new : StoredTicket) : Prop where
  cause : (∃ index, e = .createTicket new.body index) ∧ id = nextCounter (db.at? seqCell) ∨
    e.isCreateTicket = false ∧ (db.at? (tickets.rowCell id)).isSome
  cells : ∀ c : SledCell, c.space ∈ ticketTrees →
    (e.apply db).2.at? c = (lastWrite (tickets.rewrite id old new) c).getD (db.at? c)

/-- A command that changes a row rewrites it, unless it finds none that can be read. -/
theorem ticket_cases_of_change {db : Sled} {e : LogEntry} {id : UInt64}
    {change : StoredTicket → StoredTicket} (hcreate : e.isCreateTicket = false)
    (hplan : e.plan db.at? =
      noPayloadPlan (tickets.changeRow id change (db.at? (tickets.rowCell id)))) :
    LeavesTickets db e ∨ ∃ id old new, RewritesTicket db e id old new := by
  have hcells : ∀ c, (e.apply db).2.at? c =
      (lastWrite (tickets.changeRow id change (db.at? (tickets.rowCell id))).2 c).getD
        (db.at? c) := by
    intro c
    rw [LogEntry.apply_eq_exec]
    show (db.applyWrites (e.plan db.at?).2).at? c = _
    rw [hplan, Keyspace.at_applyWrites]
    rfl
  cases hrow : db.at? (tickets.rowCell id) with
  | none =>
      refine .inl ⟨hcreate, fun c _ _ => ?_⟩
      rw [hcells, hrow]
      rfl
  | some bytes =>
      rw [hrow] at hcells
      cases hdecode : tickets.format.decode bytes with
      | error err =>
          refine .inl ⟨hcreate, fun c _ _ => ?_⟩
          rw [hcells, Table.changeRow]
          simp only [hdecode]
          rfl
      | ok old =>
          refine .inr ⟨id, some old, change old, .inr ⟨hcreate, by rw [hrow]; rfl⟩, fun c _ => ?_⟩
          rw [hcells, Table.changeRow]
          simp only [hdecode]

/-- A creation puts a row under the id the counter moves to. -/
theorem rewritesTicket_createTicket (db : Sled) (body : Bytes) (index : TicketIndexFields) :
    RewritesTicket db (.createTicket body index) (nextCounter (db.at? seqCell)) none
      (Table.fresh body index) where
  cause := .inl ⟨⟨index, rfl⟩, rfl⟩
  cells c hc := by
    have hne : seqCell ≠ c := by
      rintro rfl
      exact seqCell_outside hc
    rw [LogEntry.apply_eq_exec]
    show (db.applyWrites (createTicketWrites (db.at? seqCell) body index)).at? c = _
    rw [createTicketWrites, ← List.singleton_append, Keyspace.at_applyWrites, lastWrite_append]
    simp [lastWrite, Write.cell, hne]

/-- What a log entry can do to the ticket table. -/
theorem LogEntry.ticket_cases (e : LogEntry) (db : Sled) :
    LeavesTickets db e ∨ ∃ id old new, RewritesTicket db e id old new := by
  have houtside : e.isCreateTicket = false →
      (∀ tree ∈ e.trees, tree ∈ ticketTrees → e.genericTarget = some tree) →
      LeavesTickets db e := by
    intro hcreate htrees
    refine ⟨hcreate, fun c hc hgeneric => e.at_apply_outside db fun hmem => ?_⟩
    exact hgeneric (htrees c.space hmem hc)
  cases e with
  | createTicket body index => exact .inr ⟨_, _, _, rewritesTicket_createTicket db body index⟩
  | updateTicket ticketId body index => exact ticket_cases_of_change rfl rfl
  | softDeleteTicket ticketId atUnix => exact ticket_cases_of_change rfl rfl
  | createUser userUuid body index =>
      exact .inl (houtside rfl fun tree hmem hc => absurd hmem (not_mem_userTrees hc))
  | updateUser userUuid body index =>
      exact .inl (houtside rfl fun tree hmem hc => absurd hmem (not_mem_userTrees hc))
  | softDeleteUser userUuid atUnix =>
      exact .inl (houtside rfl fun tree hmem hc => absurd hmem (not_mem_userTrees hc))
  | get collection key =>
      exact .inl (houtside rfl fun tree hmem _ => absurd hmem List.not_mem_nil)
  | _ => exact .inl (houtside rfl fun tree hmem _ => by rw [List.mem_singleton.mp hmem]; rfl)

/-- Rewriting a row writes to no other row. -/
theorem RewritesTicket.rowCell {db : Sled} {e : LogEntry} {id : UInt64}
    {old : Option StoredTicket} {new : StoredTicket} (h : RewritesTicket db e id old new)
    (j : UInt64) :
    (e.apply db).2.at? (tickets.rowCell j) =
      if j = id then some (tickets.format.encode new) else db.at? (tickets.rowCell j) := by
  rw [h.cells _ List.mem_cons_self, tickets.lastWrite_rewrite_unlisted _ _ _ tickets.tree_unlisted]
  by_cases hj : j = id
  · rw [if_pos (by rw [hj]), if_pos hj]
    rfl
  · rw [if_neg (tickets_rowCell_inj.not.mpr hj), if_neg hj]
    rfl

/-- A creation writes the row of the id the counter moves to, and no other. -/
theorem rowCell_createTicket (db : Sled) (body : Bytes) (index : TicketIndexFields) (j : UInt64) :
    ((LogEntry.createTicket body index).apply db).2.at? (tickets.rowCell j) =
      if j = nextCounter (db.at? seqCell) then
        some (tickets.format.encode (Table.fresh body index))
      else db.at? (tickets.rowCell j) :=
  (rewritesTicket_createTicket db body index).rowCell j

/-! ## Rows that are readable and listed -/

/-- The ticket tree holds encoded rows under their ids, and the index trees list every live one
under each of its index values. -/
structure TicketsListed (db : Sled) : Prop where
  keyed : ∀ key bytes, get db TREE_TICKETS key = some bytes → ∃ id, key = Bytes.ofU64 id
  encoded : ∀ id bytes, db.at? (tickets.rowCell id) = some bytes →
    ∃ row, bytes = tickets.format.encode row
  listed : ∀ id row, TicketRowAt db id row → ∀ c ∈ tickets.listed id (some row),
    db.at? c = some (Bytes.ofU64 id)

namespace TicketsListed

variable {db : Sled}

theorem empty : TicketsListed Keyspace.empty where
  keyed key bytes h := by simp [get] at h
  encoded id bytes h := by simp at h
  listed id row h := by
    obtain ⟨bytes, hbytes, -⟩ := h
    simp [get] at hbytes

/-- Writes elsewhere change nothing. -/
theorem congr (h : TicketsListed db) {db' : Sled}
    (hcells : ∀ c : SledCell, c.space ∈ ticketTrees → db'.at? c = db.at? c) :
    TicketsListed db' where
  keyed key bytes hget :=
    h.keyed key bytes ((hcells ⟨TREE_TICKETS, key⟩ List.mem_cons_self).symm.trans hget)
  encoded id bytes hat :=
    h.encoded id bytes ((hcells (tickets.rowCell id) List.mem_cons_self).symm.trans hat)
  listed id row hrow c hc := by
    obtain ⟨bytes, hbytes, hdecode⟩ := hrow
    have hget : get db TREE_TICKETS (Bytes.ofU64 id) = some bytes :=
      (hcells (tickets.rowCell id) List.mem_cons_self).symm.trans hbytes
    rw [hcells c (List.mem_cons_of_mem _ (tickets.space_of_mem_listed hc))]
    exact h.listed id row ⟨bytes, hget, hdecode⟩ c hc

/-- Putting a row in the place of another keeps the rows listed, whatever is said to have been
there. -/
theorem rewrite (h : TicketsListed db) {id : UInt64} {old : Option StoredTicket}
    {new : StoredTicket} {db' : Sled}
    (hcells : ∀ c : SledCell, c.space ∈ ticketTrees →
      db'.at? c = (lastWrite (tickets.rewrite id old new) c).getD (db.at? c))
    (hrows : ∀ j, db'.at? (tickets.rowCell j) =
      if j = id then some (tickets.format.encode new) else db.at? (tickets.rowCell j)) :
    TicketsListed db' where
  keyed key bytes hget := by
    by_cases hkey : key = Bytes.ofU64 id
    · exact ⟨id, hkey⟩
    · have hne := ne_tickets_rowCell hkey
      have hsame := hcells ⟨TREE_TICKETS, key⟩ List.mem_cons_self
      rw [tickets.lastWrite_rewrite_unlisted _ _ _ tickets.tree_unlisted, if_neg hne] at hsame
      exact h.keyed key bytes (hsame.symm.trans hget)
  encoded j bytes hat := by
    rw [hrows] at hat
    split at hat
    · exact ⟨new, (Option.some.inj hat).symm⟩
    · exact h.encoded j bytes hat
  listed j row hrow c hc := by
    obtain ⟨bytes, hbytes, hdecode⟩ := hrow
    rw [hcells c (List.mem_cons_of_mem _ (tickets.space_of_mem_listed hc)),
      Table.lastWrite_rewrite]
    replace hbytes : db'.at? (tickets.rowCell j) = some bytes := hbytes
    rw [hrows] at hbytes
    by_cases hj : j = id
    · subst hj
      rw [if_pos rfl, Option.some_inj] at hbytes
      obtain rfl : new = row := by
        rw [← hbytes] at hdecode
        simpa [tickets] using hdecode
      rw [if_pos hc]
      rfl
    · -- A cell of another row is none of the cells the rewriting touches.
      rw [if_neg hj] at hbytes
      have hnot : ∀ {o}, c ∉ tickets.listed id o := by
        intro o hmem
        cases o with
        | none => exact absurd hmem List.not_mem_nil
        | some row' => exact hj (ticketIndex.disjoint hc hmem)
      have hrowne : c ≠ tickets.rowCell id := by
        rintro rfl
        exact Table.rowCell_not_listed _ hc
      rw [if_neg hnot, if_neg hrowne, if_neg hnot]
      exact h.listed j row ⟨bytes, hbytes, hdecode⟩ c hc

/-- An entry that spares the ticket trees keeps the rows listed. -/
theorem apply (h : TicketsListed db) {e : LogEntry} (he : e.SparesTickets) :
    TicketsListed (e.apply db).2 := by
  rcases e.ticket_cases db with hleaves | ⟨id, old, new, hrewrites⟩
  · exact h.congr fun c hc => hleaves.cells c hc fun hgeneric => he c.space hgeneric hc
  · exact h.rewrite hrewrites.cells hrewrites.rowCell

/-- A log that spares the ticket trees keeps the rows listed. -/
theorem applyAll (h : TicketsListed db) {log : List LogEntry}
    (hlog : ∀ e ∈ log, e.SparesTickets) : TicketsListed (applyAll db log) := by
  induction log generalizing db with
  | nil => exact h
  | cons e log ih =>
      exact ih (h.apply (hlog e List.mem_cons_self)) fun d hd =>
        hlog d (List.mem_cons_of_mem _ hd)

end TicketsListed

end InfoVulcan.Db
