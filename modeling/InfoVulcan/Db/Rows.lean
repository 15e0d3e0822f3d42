import InfoVulcan.Db.LogEntry

/-!
# Rows under domain commands

Domain commands only ever store encoded rows, so every row can be read back (`Readable`). A
command therefore fails for one reason alone, that the row it names is absent, and which rows are
present is tracked without looking at their contents (`present_apply`, `apply_ok_iff`).
-/

namespace InfoVulcan.Db

variable [RowFormat]

/-! ## Targets -/

/-- A row named by a command. -/
inductive Target where
  | ticket (id : UInt64)
  | user (uuid : String)
  deriving DecidableEq

/-- The cell of the row. -/
def Target.cell : Target → SledCell
  | .ticket id => tickets.rowCell id
  | .user uuid => users.rowCell uuid

theorem Target.cell_inj {s t : Target} : s.cell = t.cell ↔ s = t := by
  refine ⟨fun h => ?_, fun h => h ▸ rfl⟩
  cases s <;> cases t <;>
    simp_all [Target.cell, Table.rowCell, tickets, users, TREE_TICKETS, TREE_USERS]

theorem Target.cell_ne_seqCell (t : Target) : t.cell ≠ seqCell := by
  cases t <;>
    simp [Target.cell, Table.rowCell, tickets, users, seqCell, TREE_TICKETS, TREE_USERS, TREE_SEQ]

namespace LogEntry

/-- The row a command changes, if it changes one. -/
def target : LogEntry → Option Target
  | .updateTicket ticketId _ _ => some (.ticket ticketId)
  | .softDeleteTicket ticketId _ => some (.ticket ticketId)
  | .updateUser userUuid _ _ => some (.user userUuid)
  | .softDeleteUser userUuid _ => some (.user userUuid)
  | _ => none

/-- The row a command creates when it finds the ticket counter in `seq`, if it creates one. -/
def creates (seq : Option Bytes) : LogEntry → Option Target
  | .createTicket _ _ => some (.ticket (nextCounter seq))
  | .createUser userUuid _ _ => some (.user userUuid)
  | _ => none

omit [RowFormat] in
/-- A command that changes a row creates none. -/
theorem creates_of_target {e : LogEntry} {t : Target} (h : e.target = some t)
    (seq : Option Bytes) : e.creates seq = none := by
  cases e <;> simp_all [target, creates]

end LogEntry

/-- A row is stored, live or soft-deleted. -/
def Present (db : Sled) (t : Target) : Prop :=
  (db.at? t.cell).isSome

instance (db : Sled) (t : Target) : Decidable (Present db t) :=
  inferInstanceAs (Decidable (_ = true))

/-! ## Readable rows -/

/-- The error of a command on an absent row. -/
def Target.notFound : Target → String
  | .ticket id => tickets.notFound id
  | .user uuid => users.notFound uuid

/-- The bytes are an encoded row of the table of the target. -/
def Target.Decodes : Target → Bytes → Prop
  | .ticket _, bytes => ∃ row, tickets.format.decode bytes = .ok row
  | .user _, bytes => ∃ row, users.format.decode bytes = .ok row

/-- Every row in sight can be decoded. -/
def Readable (view : SledCell → Option Bytes) : Prop :=
  ∀ (t : Target) bytes, view t.cell = some bytes → t.Decodes bytes

theorem readable_empty : Readable (Keyspace.empty : Sled).at? :=
  fun t bytes h => by simp at h

/-- A table stores the rows of the targets `mk id`, and lists them away from all rows. -/
structure Holds {ι I : Type} (t : Table ι I) (mk : ι → Target) : Prop where
  cell : ∀ id, (mk id).cell = t.rowCell id
  notFound : ∀ id, (mk id).notFound = t.notFound id
  decodes : ∀ id bytes, (mk id).Decodes bytes ↔ ∃ row, t.format.decode bytes = .ok row
  rows_unlisted : ∀ s : Target, s.cell.space ∉ t.indexTrees

theorem holds_tickets : Holds tickets .ticket where
  cell _ := rfl
  notFound _ := rfl
  decodes _ _ := Iff.rfl
  rows_unlisted s := by
    cases s with
    | ticket id => exact tickets.tree_unlisted
    | user uuid =>
        show TREE_USERS ∉ ticketIndexTrees
        decide

theorem holds_users : Holds users .user where
  cell _ := rfl
  notFound _ := rfl
  decodes _ _ := Iff.rfl
  rows_unlisted s := by
    cases s with
    | ticket id =>
        show TREE_TICKETS ∉ userIndexTrees
        decide
    | user uuid => exact users.tree_unlisted

/-- Rewriting a row writes that row and no other. -/
theorem Holds.lastWrite_row {ι I : Type} {t : Table ι I} {mk : ι → Target} (hk : Holds t mk)
    (id : ι) (old : Option (Stored I)) (new : Stored I) (s : Target) :
    lastWrite (t.rewrite id old new) s.cell =
      if s = mk id then some (some (t.format.encode new)) else none := by
  rw [Table.lastWrite_rewrite_unlisted _ _ _ _ (hk.rows_unlisted s), ← hk.cell]
  simp only [Target.cell_inj]

/-! ## What a domain command does to rows -/

/-- The command fails because the row it names is absent, and writes nothing. -/
def Rejected (view : SledCell → Option Bytes) (e : LogEntry) (t : Target) : Prop :=
  e.target = some t ∧ view t.cell = none ∧ e.plan view = (.error t.notFound, [])

/-- The command succeeds and writes one row, which it creates or finds. -/
structure Effective (view : SledCell → Option Bytes) (e : LogEntry) (t : Target) (bytes : Bytes) :
    Prop where
  cause : e.creates (view seqCell) = some t ∨ e.target = some t ∧ (view t.cell).isSome
  decodes : t.Decodes bytes
  outcome : ∃ payload, (e.plan view).1 = .ok payload
  rows : ∀ s : Target,
    lastWrite (e.plan view).2 s.cell = if s = t then some (some bytes) else none

/-- A change of a row is rejected or takes effect. -/
theorem Holds.change_cases {ι I : Type} {t : Table ι I} {mk : ι → Target} (hk : Holds t mk)
    {view : SledCell → Option Bytes} (h : Readable view) {e : LogEntry} {id : ι}
    {change : Stored I → Stored I} (htarget : e.target = some (mk id))
    (hplan : e.plan view = noPayloadPlan (t.changeRow id change (view (t.rowCell id)))) :
    (∃ s, Rejected view e s) ∨ ∃ s bytes, Effective view e s bytes := by
  rw [← hk.cell] at hplan
  cases hrow : view (mk id).cell with
  | none =>
      refine .inl ⟨mk id, htarget, hrow, ?_⟩
      rw [hplan, hrow, hk.notFound]
      rfl
  | some bytes =>
      obtain ⟨old, hold⟩ := (hk.decodes id bytes).mp (h (mk id) bytes hrow)
      have hwrites : e.plan view = (.ok none, t.rewrite id (some old) (change old)) := by
        rw [hplan, hrow, noPayloadPlan, Table.changeRow, hold]
        rfl
      refine .inr ⟨mk id, t.format.encode (change old), ?_⟩
      exact
        { cause := .inr ⟨htarget, Option.isSome_iff_exists.mpr ⟨bytes, hrow⟩⟩
          decodes := (hk.decodes id _).mpr ⟨_, t.format.decode_encode _⟩
          outcome := ⟨none, by rw [hwrites]⟩
          rows := fun s => by rw [hwrites, hk.lastWrite_row] }

/-- What a domain command can do to rows. -/
theorem domain_cases {view : SledCell → Option Bytes} (h : Readable view) {e : LogEntry}
    (he : e.isDomain) :
    (∃ t, Rejected view e t) ∨ ∃ t bytes, Effective view e t bytes := by
  cases e with
  | createTicket body index =>
      refine .inr ⟨.ticket (nextCounter (view seqCell)),
        tickets.format.encode (Table.fresh body index), ?_⟩
      exact
        { cause := .inl rfl
          decodes := ⟨_, tickets.format.decode_encode _⟩
          outcome := ⟨_, rfl⟩
          rows := fun s => by
            have hseq : seqCell ≠ s.cell := s.cell_ne_seqCell.symm
            rw [LogEntry.plan, createTicketWrites, ← List.singleton_append, lastWrite_append,
              holds_tickets.lastWrite_row]
            simp [lastWrite, Write.cell, hseq] }
  | createUser userUuid body index =>
      refine .inr ⟨.user userUuid, users.format.encode (Table.fresh body index), ?_⟩
      exact
        { cause := .inl rfl
          decodes := ⟨_, users.format.decode_encode _⟩
          outcome := ⟨_, rfl⟩
          rows := fun s => holds_users.lastWrite_row userUuid none _ s }
  | updateTicket ticketId body index => exact holds_tickets.change_cases h rfl rfl
  | softDeleteTicket ticketId atUnix => exact holds_tickets.change_cases h rfl rfl
  | updateUser userUuid body index => exact holds_users.change_cases h rfl rfl
  | softDeleteUser userUuid atUnix => exact holds_users.change_cases h rfl rfl
  | _ => cases he

/-! ## Rows after a domain command -/

section Apply

variable {db : Sled} (h : Readable db.at?) {e : LogEntry} (he : e.isDomain)

include h he

/-- A domain command succeeds exactly when the row it names is there. -/
theorem apply_ok_iff :
    (∃ payload, (e.apply db).1 = .ok payload) ↔ ∀ t ∈ e.target, Present db t := by
  rw [LogEntry.apply_eq_exec]
  show (∃ payload, (e.plan db.at?).1 = .ok payload) ↔ _
  rcases domain_cases h he with ⟨t, htarget, habsent, hplan⟩ | ⟨t, bytes, heff⟩
  · rw [hplan, htarget]
    simp [Present, habsent]
  · refine ⟨fun _ s hs => ?_, fun _ => heff.outcome⟩
    rcases heff.cause with hcreates | ⟨htarget, hpresent⟩
    · exact absurd hcreates (by simp [LogEntry.creates_of_target hs])
    · obtain rfl : t = s := Option.some.inj (htarget.symm.trans hs)
      exact hpresent

/-- Rows stay readable. -/
theorem readable_apply : Readable (e.apply db).2.at? := by
  rw [LogEntry.apply_eq_exec]
  intro s bytes hs
  replace hs : (db.applyWrites (e.plan db.at?).2).at? s.cell = some bytes := hs
  rw [Keyspace.at_applyWrites] at hs
  rcases domain_cases h he with ⟨t, -, -, hplan⟩ | ⟨t, written, heff⟩
  · rw [hplan] at hs
    exact h s bytes hs
  · rw [heff.rows] at hs
    split at hs
    case isTrue hst =>
        obtain rfl : written = bytes := Option.some.inj hs
        exact hst ▸ heff.decodes
    case isFalse => exact h s bytes hs

/-- The rows that are present afterwards are those that were, and the one the command creates. -/
theorem present_apply (t : Target) :
    Present (e.apply db).2 t ↔ Present db t ∨ e.creates (db.at? seqCell) = some t := by
  rw [LogEntry.apply_eq_exec, Present]
  show ((db.applyWrites (e.plan db.at?).2).at? t.cell).isSome ↔ _
  rw [Keyspace.at_applyWrites]
  rcases domain_cases h he with ⟨s, htarget, -, hplan⟩ | ⟨s, written, heff⟩
  · rw [hplan]
    simp [LogEntry.creates_of_target htarget, lastWrite, Present]
  · rw [heff.rows]
    by_cases hts : t = s
    · subst hts
      rw [if_pos rfl]
      simpa [or_comm, Present] using heff.cause.imp id And.right
    · have hcreates : e.creates (db.at? seqCell) ≠ some t := by
        intro hcreates
        rcases heff.cause with hs | ⟨hs, -⟩
        · exact hts (Option.some.inj (hcreates.symm.trans hs))
        · exact absurd hcreates (by simp [LogEntry.creates_of_target hs])
      rw [if_neg hts]
      simp [hcreates, Present]

end Apply

end InfoVulcan.Db
