import InfoVulcan.Db.Server
import InfoVulcan.Db.TicketRows

/-!
# Ticket ids

The id counter and the rows are written apart. What ties them together is `Numbered`: the rows that
are stored are those of the ids issued so far. It holds after any log in which generic operations
spare the tickets and the counters, so creations return `1, 2, 3, …` and no row is written over.
-/

namespace InfoVulcan.Db

/-- The entry is no generic write to the ticket rows or the counters. -/
def LogEntry.SparesIds (e : LogEntry) : Prop :=
  e.genericTarget ≠ some TREE_TICKETS ∧ e.genericTarget ≠ some TREE_SEQ

instance (e : LogEntry) : Decidable e.SparesIds :=
  inferInstanceAs (Decidable (_ ∧ _))

/-- The number of tickets a log creates. -/
def creations (log : List LogEntry) : Nat :=
  log.countP LogEntry.isCreateTicket

theorem creations_cons (e : LogEntry) (log : List LogEntry) :
    creations (e :: log) = creations log + if e.isCreateTicket then 1 else 0 :=
  List.countP_cons

theorem creations_append (xs ys : List LogEntry) :
    creations (xs ++ ys) = creations xs + creations ys :=
  List.countP_append

/-- The id the next creation after a log is to return. -/
def idAfter (log : List LogEntry) : UInt64 :=
  UInt64.ofNat (creations log + 1)

variable [RowFormat]

/-- What the creations of a log return, in the order in which they are applied. -/
def creationResults (db : Sled) : List LogEntry → List (Except String (Option Bytes))
  | [] => []
  | e :: log =>
      if e.isCreateTicket then (e.apply db).1 :: creationResults (e.apply db).2 log
      else creationResults (e.apply db).2 log

/-! ## Rows and the counter -/

/-- The counter stands at `n`, and the rows that are stored are those of the first `n` ids. -/
structure Numbered (n : Nat) (db : Sled) : Prop where
  counter : db.at? seqCell = counterBytes n
  rows : ∀ id : UInt64, (db.at? (tickets.rowCell id)).isSome ↔ 1 ≤ id.toNat ∧ id.toNat ≤ n

namespace Numbered

variable {n : Nat} {db : Sled}

theorem empty : Numbered 0 Keyspace.empty where
  counter := by simp [counterBytes]
  rows id := by simp; omega

/-- The counter after an entry. -/
theorem counter_apply (h : Numbered n db) {e : LogEntry} (he : e.SparesIds)
    (hroom : n + (if e.isCreateTicket then 1 else 0) < 2 ^ 64) :
    (e.apply db).2.at? seqCell = counterBytes (n + if e.isCreateTicket then 1 else 0) := by
  rw [LogEntry.seq_apply he.2, h.counter, LogEntry.seqAfter_counterBytes e (by omega),
    min_eq_left (by omega)]

/-- An entry adds the row of the next id if it creates a ticket, and no other. -/
theorem apply (h : Numbered n db) {e : LogEntry} (he : e.SparesIds)
    (hroom : n + (if e.isCreateTicket then 1 else 0) < 2 ^ 64) :
    Numbered (n + if e.isCreateTicket then 1 else 0) (e.apply db).2 where
  counter := h.counter_apply he hroom
  rows id := by
    rcases e.ticket_cases db with hleaves | ⟨j, old, new, hrewrites⟩
    · rw [hleaves.cells _ List.mem_cons_self he.1, h.rows, hleaves.noCreation]
      rfl
    · rw [hrewrites.rowCell id]
      rcases hrewrites.cause with ⟨⟨index, rfl⟩, hj⟩ | ⟨hcreate, hpresent⟩
      · simp only [LogEntry.isCreateTicket, if_true] at hroom ⊢
        rw [h.counter, nextCounter_counterBytes hroom] at hj
        have hnat : j.toNat = n + 1 := by
          rw [hj]
          exact UInt64.toNat_ofNat_of_lt' hroom
        by_cases hid : id = j
        · rw [if_pos hid, hid, hnat]
          simp
        · have hne : id.toNat ≠ n + 1 := fun heq => hid (UInt64.toNat_inj.mp (heq.trans hnat.symm))
          rw [if_neg hid, h.rows]
          omega
      · rw [h.rows] at hpresent
        rw [hcreate]
        by_cases hid : id = j
        · rw [if_pos hid, hid]
          simpa using hpresent
        · rw [if_neg hid, h.rows]
          rfl

/-- A log adds the rows of the ids it issues. -/
theorem applyAll (h : Numbered n db) {log : List LogEntry} (hlog : ∀ e ∈ log, e.SparesIds)
    (hroom : n + creations log < 2 ^ 64) : Numbered (n + creations log) (applyAll db log) := by
  induction log generalizing n db with
  | nil => exact h
  | cons e log ih =>
      rw [creations_cons, Nat.add_comm (creations log), ← Nat.add_assoc] at hroom ⊢
      exact ih (h.apply (hlog e List.mem_cons_self) (by omega))
        (fun d hd => hlog d (List.mem_cons_of_mem _ hd)) hroom

/-- The row a creation is about to write is absent. -/
theorem next_absent (h : Numbered n db) (hroom : n + 1 < 2 ^ 64) :
    db.at? (tickets.rowCell (UInt64.ofNat (n + 1))) = none := by
  have hnat : (UInt64.ofNat (n + 1)).toNat = n + 1 := UInt64.toNat_ofNat_of_lt' hroom
  rw [← Option.not_isSome_iff_eq_none, h.rows, hnat]
  omega

/-- A creation returns the next id. -/
theorem createTicket_result (h : Numbered n db) (hroom : n + 1 < 2 ^ 64) (body : Bytes)
    (index : TicketIndexFields) :
    ((LogEntry.createTicket body index).apply db).1 =
      .ok (some (Bytes.ofU64 (UInt64.ofNat (n + 1)))) := by
  have hnext : nextCounter (db.at? seqCell) = UInt64.ofNat (n + 1) := by
    rw [h.counter, nextCounter_counterBytes hroom]
  rw [LogEntry.apply_eq_exec, ← hnext]
  rfl

/-- A creation stores the given body under the next id. -/
theorem createTicket_row (h : Numbered n db) (hroom : n + 1 < 2 ^ 64) (body : Bytes)
    (index : TicketIndexFields) :
    TicketRowAt ((LogEntry.createTicket body index).apply db).2 (UInt64.ofNat (n + 1))
      (Table.fresh body index) := by
  have hnext : nextCounter (db.at? seqCell) = UInt64.ofNat (n + 1) := by
    rw [h.counter, nextCounter_counterBytes hroom]
  refine ⟨tickets.format.encode (Table.fresh body index), ?_, tickets.format.decode_encode _⟩
  show ((LogEntry.createTicket body index).apply db).2.at?
    (tickets.rowCell (UInt64.ofNat (n + 1))) = _
  rw [rowCell_createTicket, hnext, if_pos rfl]

/-- The service returns the id and the body of the row it has created. -/
theorem service_createTicket [FailureText] (h : Numbered n db) (hroom : n + 1 < 2 ^ 64)
    (body : Bytes) (index : Option TicketIndexMessage) :
    DatabaseService.createTicket db body index =
      (.ok ⟨UInt64.ofNat (n + 1), body, false, 0⟩,
        ((LogEntry.createTicket body (ticketIndexFromProto (index.getD .default))).apply db).2) := by
  rw [DatabaseService.createTicket_eq, h.counter, nextCounter_counterBytes hroom]

/-- The creations of a log return the ids that follow the counter. -/
theorem creationResults_eq (h : Numbered n db) {log : List LogEntry}
    (hlog : ∀ e ∈ log, e.SparesIds) (hroom : n + creations log < 2 ^ 64) :
    creationResults db log = (List.range' (n + 1) (creations log)).map fun k =>
      .ok (some (Bytes.ofU64 (UInt64.ofNat k))) := by
  induction log generalizing n db with
  | nil => rfl
  | cons e log ih =>
      have hnext := h.apply (hlog e List.mem_cons_self) (by rw [creations_cons] at hroom; omega)
      have hrest := fun hr => ih hnext (fun d hd => hlog d (List.mem_cons_of_mem _ hd)) hr
      rw [creations_cons] at hroom ⊢
      rw [creationResults]
      cases e with
      | createTicket body index =>
          simp only [LogEntry.isCreateTicket, if_true] at hroom hrest ⊢
          rw [h.createTicket_result (by omega), List.range'_succ, List.map_cons,
            hrest (by omega)]
      | _ => exact hrest hroom

end Numbered

/-! ## Ids of reachable stores -/

/-- What a creation at some point of a log does: it returns the id after those issued so far, under
which there was no row, and stores the given body there; the service decodes that id. -/
structure CreatesFreshRow [FailureText] (pre : List LogEntry) (body : Bytes)
    (index : TicketIndexFields) : Prop where
  result : ((LogEntry.createTicket body index).apply (applyAll Keyspace.empty pre)).1 =
    .ok (some (Bytes.ofU64 (idAfter pre)))
  absent : (applyAll Keyspace.empty pre).at? (tickets.rowCell (idAfter pre)) = none
  stored : TicketRowAt ((LogEntry.createTicket body index).apply (applyAll Keyspace.empty pre)).2
    (idAfter pre) (Table.fresh body index)
  decoded : ∀ message, ticketIndexFromProto (message.getD .default) = index →
    DatabaseService.createTicket (applyAll Keyspace.empty pre) body message =
      (.ok ⟨idAfter pre, body, false, 0⟩,
        ((LogEntry.createTicket body index).apply (applyAll Keyspace.empty pre)).2)

/-- As long as the id counter does not run out and generic operations spare the tickets and the
counters, creations return `1, 2, 3, …`, each stores its body in a row that was absent, and no row
ever goes away. -/
theorem ticket_ids_never_reused [FailureText] {log : List LogEntry}
    (hlog : ∀ e ∈ log, e.SparesIds) (hroom : creations log < 2 ^ 64 - 1) :
    (creationResults Keyspace.empty log = (List.range' 1 (creations log)).map fun k =>
      .ok (some (Bytes.ofU64 (UInt64.ofNat k)))) ∧
    (∀ pre body index post, log = pre ++ .createTicket body index :: post →
      CreatesFreshRow pre body index) ∧
    (∀ pre mid post, log = pre ++ mid ++ post → ∀ id,
      ((applyAll Keyspace.empty pre).at? (tickets.rowCell id)).isSome →
      ((applyAll Keyspace.empty (pre ++ mid)).at? (tickets.rowCell id)).isSome) := by
  have hnumbered : ∀ pre, (∀ e ∈ pre, e.SparesIds) → creations pre < 2 ^ 64 →
      Numbered (creations pre) (applyAll Keyspace.empty pre) := by
    intro pre hpre hcount
    have h := Numbered.empty.applyAll hpre (by rwa [Nat.zero_add])
    rwa [Nat.zero_add] at h
  refine ⟨?_, ?_, ?_⟩
  · have h := Numbered.empty.creationResults_eq hlog (by omega)
    rwa [Nat.zero_add] at h
  · rintro pre body index post rfl
    rw [creations_append, creations_cons] at hroom
    have h := hnumbered pre (fun e he => hlog e (List.mem_append_left _ he)) (by omega)
    have hnext : creations pre + 1 < 2 ^ 64 := by
      simp only [LogEntry.isCreateTicket, if_true] at hroom
      omega
    exact
      { result := h.createTicket_result hnext body index
        absent := h.next_absent hnext
        stored := h.createTicket_row hnext body index
        decoded := fun message hmessage => hmessage ▸ h.service_createTicket hnext body message }
  · rintro pre mid post rfl id hpresent
    have hmid : ∀ e ∈ pre ++ mid, e.SparesIds := fun e he => hlog e (List.mem_append_left _ he)
    rw [creations_append] at hroom
    have hpre := hnumbered pre (fun e he => hmid e (List.mem_append_left _ he)) (by
      rw [creations_append] at hroom
      omega)
    have hboth := hnumbered (pre ++ mid) hmid (by omega)
    rw [hpre.rows] at hpresent
    rw [hboth.rows, creations_append]
    omega

end InfoVulcan.Db

/-! ## A run on the JSON formats -/

namespace InfoVulcan.Db

open scoped SerdeJson

/-- Two creations, with a deletion and an unrelated write in between. -/
theorem ticket_ids_never_reused_twice :
    creationResults Keyspace.empty [.createTicket [1] (accountFields "a"),
        .softDeleteTicket 1 0, .put "notes" [1] [2], .createTicket [2] (accountFields "b")] =
      [.ok (some (Bytes.ofU64 1)), .ok (some (Bytes.ofU64 2))] :=
  (ticket_ids_never_reused
    (by decide : ∀ e ∈ [.createTicket [1] (accountFields "a"), .softDeleteTicket 1 0,
      .put "notes" [1] [2], .createTicket [2] (accountFields "b")], LogEntry.SparesIds e)
    (by decide)).1

end InfoVulcan.Db
