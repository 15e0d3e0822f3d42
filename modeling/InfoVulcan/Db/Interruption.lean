import InfoVulcan.Db.Json
import InfoVulcan.Db.TicketIds

/-!
# Commands that are cut short

A domain command is up to sixteen writes, each flushed on its own. A process may stop between any
two of them and apply the entry again after its restart. Rows are written in one piece, so an
update or a deletion finds either the row it started from or the one it was about to write, and
both lead to the same end. The ticket counter moves first and on its own, so a ticket creation
does not find what it started from, unless the counter has run out of ids.
-/

namespace InfoVulcan.Db

/-! ## Changes of rows -/

namespace Table

variable {ι I : Type} (t : Table ι I)

/-- The index cells a changed row is first removed from are the ones it is then listed in. -/
theorem delist_covered (id : ι) (new : Stored I) :
    ∀ w ∈ delist (t.listed id (some new)),
      ∃ v ∈ t.putRow id new :: t.enlist id (t.listed id (some new)), v.cell = w.cell := by
  intro w hw
  obtain ⟨c, hc, rfl⟩ := List.mem_map.mp hw
  exact ⟨.put c (t.entity id), List.mem_cons_of_mem _ (List.mem_map.mpr ⟨c, hc, rfl⟩), rfl⟩

/-- Up to the write of the row, the row is the old one. -/
theorem at_rowCell_delist (db : Sled) (id : ι) (old : Option (Stored I)) (k : Nat) :
    (db.applyWrites ((delist (t.listed id old)).take k)).at? (t.rowCell id) =
      db.at? (t.rowCell id) := by
  refine Keyspace.at_applyWrites_of_untouched fun w hw hcell => ?_
  obtain ⟨c, hc, rfl⟩ := List.mem_map.mp (List.mem_of_mem_take hw)
  have hlisted : t.rowCell id ∈ t.listed id old := hcell ▸ hc
  exact t.rowCell_not_listed hlisted

/-- From the write of the row on, the row is the new one. -/
theorem at_rowCell_putRow (db : Sled) (id : ι) (old : Option (Stored I)) (new : Stored I)
    (k : Nat) :
    (db.applyWrites (delist (t.listed id old) ++
        (t.putRow id new :: t.enlist id (t.listed id (some new))).take (k + 1))).at?
      (t.rowCell id) = some (t.format.encode new) := by
  have henlist : lastWrite ((t.enlist id (t.listed id (some new))).take k) (t.rowCell id) =
      none := by
    refine lastWrite_eq_none.mpr fun w hw hcell => ?_
    obtain ⟨c, hc, rfl⟩ := List.mem_map.mp (List.mem_of_mem_take hw)
    have hlisted : t.rowCell id ∈ t.listed id (some new) := hcell ▸ hc
    exact t.rowCell_not_listed hlisted
  rw [Keyspace.at_applyWrites, List.take_succ_cons, ← List.singleton_append, lastWrite_append,
    lastWrite_append, henlist]
  simp [lastWrite, putRow, Write.cell, Write.value]

/-- A change can be made again wherever it was cut short, if it has no further effect on its own
result. -/
theorem changeRow_again {change : Stored I → Stored I}
    (hchange : ∀ row, change (change row) = change row) (db : Sled) (id : ι) (k : Nat)
    {cut : Sled}
    (hcut : cut = db.applyWrites ((t.changeRow id change (db.at? (t.rowCell id))).2.take k)) :
    (t.changeRow id change (cut.at? (t.rowCell id))).1 =
        (t.changeRow id change (db.at? (t.rowCell id))).1 ∧
      cut.applyWrites (t.changeRow id change (cut.at? (t.rowCell id))).2 =
        db.applyWrites (t.changeRow id change (db.at? (t.rowCell id))).2 := by
  by_cases hrow : cut.at? (t.rowCell id) = db.at? (t.rowCell id)
  case pos =>
    -- The second run finds the old row and makes the writes of the first.
    rw [hrow]
    refine ⟨rfl, ?_⟩
    rw [hcut, Keyspace.applyWrites_take]
  case neg =>
    -- The row has changed, so it was decoded and the cut lies behind its write.
    cases hbytes : db.at? (t.rowCell id) with
    | none =>
        rw [hbytes, changeRow, List.take_nil] at hcut
        exact absurd (congrArg (Keyspace.at? · (t.rowCell id)) hcut) hrow
    | some bytes =>
        cases hold : t.format.decode bytes with
        | error e =>
            have hplan : t.changeRow id change (some bytes) = (.error e, []) := by
              rw [changeRow, hold]
            rw [hbytes, hplan, List.take_nil] at hcut
            exact absurd (congrArg (Keyspace.at? · (t.rowCell id)) hcut) hrow
        | ok old =>
            have hplan : t.changeRow id change (some bytes) =
                (.ok (), t.rewrite id (some old) (change old)) := by
              rw [changeRow, hold]
            rw [hbytes, hplan, rewrite, List.take_append] at hcut
            rw [hplan]
            cases hrest : k - (delist (t.listed id (some old))).length with
            | zero =>
                rw [hrest, List.take_zero, List.append_nil] at hcut
                refine absurd ?_ hrow
                rw [hcut, t.at_rowCell_delist]
            | succ j =>
                rw [hrest, List.take_of_length_le (by omega)] at hcut
                have hnew : cut.at? (t.rowCell id) = some (t.format.encode (change old)) := by
                  rw [hcut, t.at_rowCell_putRow]
                have hagain : t.changeRow id change (some (t.format.encode (change old))) =
                    (.ok (), t.rewrite id (some (change old)) (change old)) := by
                  simp only [changeRow, Codec.decode_encode, hchange]
                rw [hnew, hagain]
                refine ⟨rfl, ?_⟩
                rw [hcut, rewrite, rewrite,
                  Keyspace.applyWrites_resume _ _ _ _ _ (t.delist_covered id (change old))]

end Table

/-! ## Domain commands -/

variable [RowFormat]

/-- The writes of a log entry on a database, in the order in which they are made. -/
def LogEntry.sledWrites (e : LogEntry) (db : Sled) : List SledWrite :=
  (e.plan db.at?).2

/-- The database when the application of a log entry stops after its first `k` writes. -/
def LogEntry.stopAfter (e : LogEntry) (k : Nat) (db : Sled) : Sled :=
  db.applyWrites ((e.sledWrites db).take k)

/-- The writes of a log entry, all made, are its application. -/
theorem LogEntry.stopAfter_all (e : LogEntry) (db : Sled) :
    e.stopAfter (e.sledWrites db).length db = (e.apply db).2 := by
  rw [e.apply_eq_exec, LogEntry.stopAfter, List.take_length]
  rfl

/-- To apply an entry again is to run its interrupted transaction again. -/
theorem LogEntry.apply_stopAfter_iff (e : LogEntry) (k : Nat) (db : Sled) :
    e.apply (e.stopAfter k db) = e.apply db ↔ e.transaction.RepairedAfter db k := by
  rw [e.apply_eq_exec, e.apply_eq_exec]
  rfl

/-- A command on a row that was cut short can be applied again. -/
theorem repairedAfter_of_changeRow {ι I : Type} (t : Table ι I) (id : ι)
    (change : Stored I → Stored I) (hchange : ∀ row, change (change row) = change row)
    {e : LogEntry} (hplan : ∀ view : SledCell → Option Bytes,
      e.plan view = noPayloadPlan (t.changeRow id change (view (t.rowCell id))))
    (db : Sled) (k : Nat) : e.transaction.RepairedAfter db k := by
  have hcut : e.transaction.interrupt db k =
      db.applyWrites ((t.changeRow id change (db.at? (t.rowCell id))).2.take k) := by
    show db.applyWrites ((e.plan db.at?).2.take k) = _
    rw [hplan]
    rfl
  obtain ⟨houtcome, hstore⟩ := t.changeRow_again hchange db id k hcut
  show ((e.plan (e.transaction.interrupt db k).at?).1,
      (e.transaction.interrupt db k).applyWrites (e.plan (e.transaction.interrupt db k).at?).2) =
    ((e.plan db.at?).1, db.applyWrites (e.plan db.at?).2)
  rw [hplan, hplan]
  simp only [noPayloadPlan, houtcome, hstore]

/-- Every domain command but the creation of a ticket is repaired wherever it was cut short. -/
theorem LogEntry.repairedAfter {e : LogEntry} (he : e.isDomain)
    (hcreate : e.isCreateTicket = false) (db : Sled) (k : Nat) :
    e.transaction.RepairedAfter db k := by
  cases e with
  | createTicket body index => cases hcreate
  | updateTicket ticketId body index =>
      exact repairedAfter_of_changeRow tickets ticketId (Table.updated · body index)
        (fun row => rfl) (fun view => rfl) db k
  | softDeleteTicket ticketId atUnix =>
      exact repairedAfter_of_changeRow tickets ticketId (Table.retired · atUnix)
        (fun row => rfl) (fun view => rfl) db k
  | createUser userUuid body index =>
      -- The creation of a user reads nothing.
      exact Transaction.repairedAfter_of_reads fun c hc => by cases hc
  | updateUser userUuid body index =>
      exact repairedAfter_of_changeRow users userUuid (Table.updated · body index)
        (fun row => rfl) (fun view => rfl) db k
  | softDeleteUser userUuid atUnix =>
      exact repairedAfter_of_changeRow users userUuid (Table.retired · atUnix)
        (fun row => rfl) (fun view => rfl) db k
  | _ => cases he

/-! ## The creation of a ticket -/

/-- Behind its first write, a ticket creation has moved the counter. -/
theorem counter_interrupt (db : Sled) (body : Bytes) (index : TicketIndexFields) (k : Nat) :
    ((LogEntry.createTicket body index).transaction.interrupt db (k + 1)).at? seqCell =
      some (Bytes.ofU64 (nextCounter (db.at? seqCell))) := by
  show (db.applyWrites ((createTicketWrites (db.at? seqCell) body index).take (k + 1))).at?
    seqCell = _
  have hrows : ∀ w ∈ (tickets.rewrite (nextCounter (db.at? seqCell)) none
      (Table.fresh body index)).take k, w.cell ≠ seqCell := by
    have huntouched := lastWrite_eq_none.mp (tickets.lastWrite_rewrite_outside
      (nextCounter (db.at? seqCell)) none (Table.fresh body index) seqCell_outside)
    exact fun w hw => huntouched w (List.mem_of_mem_take hw)
  rw [createTicketWrites, List.take_succ_cons, Keyspace.at_applyWrites, ← List.singleton_append,
    lastWrite_append, lastWrite_eq_none.mpr hrows]
  simp [lastWrite, Write.cell, Write.value]

/-- A ticket creation that was cut short is repaired exactly when the next id is the largest one,
which the counter does not leave. -/
theorem repairedAfter_createTicket_iff (db : Sled) (body : Bytes) (index : TicketIndexFields)
    (k : Nat) :
    (LogEntry.createTicket body index).transaction.RepairedAfter db (k + 1) ↔
      saturatingSucc (nextCounter (db.at? seqCell)) = nextCounter (db.at? seqCell) := by
  have hnext : nextCounter (((LogEntry.createTicket body index).transaction.interrupt db
      (k + 1)).at? seqCell) = saturatingSucc (nextCounter (db.at? seqCell)) := by
    rw [counter_interrupt, nextCounter, Bytes.toU64_ofU64, Option.getD_some]
  constructor
  case mp =>
    intro hrepaired
    have houtcome := congrArg Prod.fst hrepaired
    simp only [Transaction.exec, LogEntry.transaction, LogEntry.plan, Except.ok.injEq,
      Option.some.injEq, Bytes.ofU64_inj] at houtcome
    exact hnext.symm.trans houtcome
  case mpr =>
    intro hlast
    -- The second run finds another counter, but the same next id.
    refine Transaction.repairedAfter_of_plan ?_
    show (LogEntry.createTicket body index).plan _ = (LogEntry.createTicket body index).plan db.at?
    rw [LogEntry.plan, LogEntry.plan, createTicketWrites, createTicketWrites, hnext, hlast]

omit [RowFormat] in
/-- A counter in range is at its end when two more ids do not fit. -/
theorem saturatingSucc_nextCounter_iff {n : Nat} (h : n < 2 ^ 64) :
    saturatingSucc (nextCounter (counterBytes n)) = nextCounter (counterBytes n) ↔
      2 ^ 64 - 2 ≤ n := by
  by_cases hroom : n + 1 < 2 ^ 64
  case neg =>
    have hn : n = 2 ^ 64 - 1 := by omega
    rw [hn, nextCounter_counterBytes_last]
    exact ⟨fun _ => by omega, fun _ => by decide⟩
  case pos =>
    have hval : (UInt64.ofNat (n + 1)).toNat = n + 1 := UInt64.toNat_ofNat_of_lt' hroom
    rw [nextCounter_counterBytes hroom, saturatingSucc, hval]
    by_cases hmore : n + 2 < 2 ^ 64
    case pos =>
      rw [if_pos hmore]
      refine ⟨fun hsame => ?_, fun hlast => by omega⟩
      have hnat := congrArg UInt64.toNat hsame
      rw [UInt64.toNat_add, hval] at hnat
      have hmod : (n + 1 + 1) % 2 ^ 64 = n + 1 + 1 := Nat.mod_eq_of_lt hmore
      have hone : (1 : UInt64).toNat = 1 := rfl
      rw [hone, hmod] at hnat
      omega
    case neg =>
      rw [if_neg hmore]
      exact ⟨fun _ => by omega, fun _ => rfl⟩

/-! ## Reachable stores -/

/-- On a store that domain commands have led to, a command that stopped between two writes and is
then applied again from its start answers, and leaves the store, as one uninterrupted application
does, exactly when it creates no ticket, or the log has used up all ids but the last. -/
theorem interrupted_command_repaired_iff {log : List LogEntry} (hlog : ∀ d ∈ log, d.isDomain)
    {e : LogEntry} (he : e.isDomain) {k : Nat} (hstarted : 0 < k)
    (hcut : k < (e.sledWrites (applyAll Keyspace.empty log)).length) :
    e.apply (e.stopAfter k (applyAll Keyspace.empty log)) = e.apply (applyAll Keyspace.empty log) ↔
      e.isCreateTicket = false ∨ 2 ^ 64 - 2 ≤ creations log := by
  rw [LogEntry.apply_stopAfter_iff]
  cases hcreate : e.isCreateTicket with
  | false =>
      exact ⟨fun _ => .inl rfl, fun _ => LogEntry.repairedAfter he hcreate _ _⟩
  | true =>
      cases e with
      | createTicket body index =>
          obtain ⟨j, rfl⟩ : ∃ j, k = j + 1 := ⟨k - 1, by omega⟩
          have hseq : ∀ d ∈ log, d.genericTarget ≠ some TREE_SEQ := by
            intro d hd
            simp [LogEntry.genericTarget_of_isDomain (hlog d hd)]
          have hcounter : (applyAll Keyspace.empty log).at? seqCell =
              counterBytes (min (creations log) (2 ^ 64 - 1)) := by
            rw [seq_applyAll hseq (n := 0) (by omega) (by simp [counterBytes]), Nat.zero_add]
            rfl
          rw [repairedAfter_createTicket_iff, hcounter, saturatingSucc_nextCounter_iff (by omega)]
          simp only [Bool.true_eq_false, false_or]
          omega
      | _ => cases hcreate

end InfoVulcan.Db

/-! ## Runs on the JSON formats -/

namespace InfoVulcan.Db

open scoped SerdeJson

/-- The deletion of a ticket that stopped when it had removed the first index entry. -/
theorem interrupted_command_repaired_deletion :
    (LogEntry.softDeleteTicket 1 0).apply ((LogEntry.softDeleteTicket 1 0).stopAfter 1
        (applyAll Keyspace.empty [.createTicket [] (accountFields "a")])) =
      (LogEntry.softDeleteTicket 1 0).apply
        (applyAll Keyspace.empty [.createTicket [] (accountFields "a")]) :=
  (interrupted_command_repaired_iff (by decide) rfl Nat.one_pos (by decide)).mpr (.inl rfl)

/-- A ticket creation that stopped when it had moved the counter gives its ticket the second id
when it is applied again. -/
theorem interrupted_creation_not_repaired :
    1 < ((LogEntry.createTicket [] (accountFields "a")).sledWrites
        (applyAll Keyspace.empty [])).length ∧
      (LogEntry.createTicket [] (accountFields "a")).apply
          ((LogEntry.createTicket [] (accountFields "a")).stopAfter 1
            (applyAll Keyspace.empty [])) ≠
        (LogEntry.createTicket [] (accountFields "a")).apply (applyAll Keyspace.empty []) := by
  refine ⟨by decide, fun hsame => ?_⟩
  have hfirst : ((LogEntry.createTicket [] (accountFields "a")).apply
      (applyAll Keyspace.empty [])).1 = .ok (some (Bytes.ofU64 1)) := by
    decide
  have hagain : ((LogEntry.createTicket [] (accountFields "a")).apply
      ((LogEntry.createTicket [] (accountFields "a")).stopAfter 1
        (applyAll Keyspace.empty []))).1 = .ok (some (Bytes.ofU64 2)) := by
    decide
  rw [hsame, hfirst] at hagain
  exact absurd hagain (by decide)

end InfoVulcan.Db
