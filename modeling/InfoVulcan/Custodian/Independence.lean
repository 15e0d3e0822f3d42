import InfoVulcan.Custodian.Exclusion
import InfoVulcan.Library.Projection

/-!
# Tickets do not interfere

A lock command reads and writes the record of its own ticket only, and distinct tickets have
distinct keys. So the lock table keeps tickets apart (`apply_keepsApart`): what commands do to a
ticket, and how they are answered, does not depend on the commands on other tickets
(`tickets_do_not_interfere`).
-/

namespace InfoVulcan.Custodian

variable [Chrono] [LockFormat]

/-! ## One command -/

omit [Chrono] [LockFormat] in
/-- The cell of the lock record of a ticket. -/
def lockCell (ticketId : UInt64) : SledCell :=
  ⟨TREE_LOCKS, Bytes.ofU64 ticketId⟩

omit [Chrono] [LockFormat] in
/-- Distinct tickets have distinct cells. -/
theorem lockCell_inj {t t' : UInt64} : lockCell t = lockCell t' ↔ t = t' := by
  simp [lockCell]

/-- The lock record is decoded from the cell of the ticket. -/
theorem getLockInfo_congr {db db' : Sled} {t : UInt64}
    (h : db.at? (lockCell t) = db'.at? (lockCell t)) : getLockInfo db t = getLockInfo db' t := by
  have hget : get db TREE_LOCKS (Bytes.ofU64 t) = get db' TREE_LOCKS (Bytes.ofU64 t) := h
  rw [getLockInfo, getLockInfo, hget]

/-- A lock command leaves the database as it is, or writes or removes the record of its ticket. -/
theorem apply_storage_cases (db : Sled) (c : LockCommand) :
    (CustodianStateMachine.apply db c).2 = db ∨
      (∃ value, (CustodianStateMachine.apply db c).2 =
        Keyspace.put db (lockCell c.ticketId) value) ∨
      (CustodianStateMachine.apply db c).2 = Keyspace.remove db (lockCell c.ticketId) := by
  cases c with
  | acquireLock t u atUnix ttlSecs =>
      simp only [CustodianStateMachine.apply]
      rcases getLockInfo db t with e | _ | existing
      · exact Or.inl rfl
      · exact Or.inr (Or.inl ⟨_, rfl⟩)
      · simp only
        split
        · exact Or.inl rfl
        · exact Or.inr (Or.inl ⟨_, rfl⟩)
  | releaseLock t u =>
      simp only [CustodianStateMachine.apply]
      rcases getLockInfo db t with e | _ | existing
      · exact Or.inl rfl
      · exact Or.inr (Or.inr rfl)
      · simp only
        split
        · exact Or.inl rfl
        · exact Or.inr (Or.inr rfl)

/-- A lock command leaves every cell but that of its ticket as it is. -/
theorem at_apply_of_ne {db : Sled} {c : LockCommand} {d : SledCell}
    (h : lockCell c.ticketId ≠ d) : (CustodianStateMachine.apply db c).2.at? d = db.at? d := by
  rcases apply_storage_cases db c with hsame | ⟨value, hput⟩ | hremove
  · rw [hsame]
  · rw [hput, Keyspace.at_put, if_neg h]
  · rw [hremove, Keyspace.at_remove, if_neg h]

/-- A lock command is answered by the record of its ticket, and leaves a record that depends on that
one alone. -/
theorem apply_determined {db db' : Sled} {c : LockCommand}
    (h : db.at? (lockCell c.ticketId) = db'.at? (lockCell c.ticketId)) :
    (CustodianStateMachine.apply db c).1 = (CustodianStateMachine.apply db' c).1 ∧
      (CustodianStateMachine.apply db c).2.at? (lockCell c.ticketId) =
        (CustodianStateMachine.apply db' c).2.at? (lockCell c.ticketId) := by
  have hinfo := getLockInfo_congr h
  have hput : ∀ value, (Keyspace.put db (lockCell c.ticketId) value).at? (lockCell c.ticketId) =
      (Keyspace.put db' (lockCell c.ticketId) value).at? (lockCell c.ticketId) := fun value => by
    rw [Keyspace.at_put, Keyspace.at_put, if_pos rfl, if_pos rfl]
  have hremove : (Keyspace.remove db (lockCell c.ticketId)).at? (lockCell c.ticketId) =
      (Keyspace.remove db' (lockCell c.ticketId)).at? (lockCell c.ticketId) := by
    rw [Keyspace.at_remove, Keyspace.at_remove, if_pos rfl, if_pos rfl]
  cases c with
  | acquireLock t u atUnix ttlSecs =>
      simp only [LockCommand.ticketId] at hinfo h hput ⊢
      simp only [CustodianStateMachine.apply, ← hinfo]
      rcases getLockInfo db t with e | _ | existing
      · exact ⟨rfl, h⟩
      · exact ⟨rfl, hput _⟩
      · by_cases hrefuse : existing.userId ≠ u ∧ existing.isExpired atUnix = false
        · simp only [if_pos hrefuse]
          exact ⟨trivial, h⟩
        · simp only [if_neg hrefuse]
          exact ⟨trivial, hput _⟩
  | releaseLock t u =>
      simp only [LockCommand.ticketId] at hinfo h hremove ⊢
      simp only [CustodianStateMachine.apply, ← hinfo]
      rcases getLockInfo db t with e | _ | existing
      · exact ⟨rfl, h⟩
      · exact ⟨rfl, hremove⟩
      · by_cases hrefuse : existing.userId ≠ u
        · simp only [if_pos hrefuse]
          exact ⟨trivial, h⟩
        · simp only [if_neg hrefuse]
          exact ⟨trivial, hremove⟩

/-- The lock table keeps tickets apart. -/
theorem apply_keepsApart :
    Projection.KeepsApart CustodianStateMachine.apply LockCommand.ticketId
      fun (db : Sled) t => db.at? (lockCell t) where
  determined h := apply_determined h
  frame h := at_apply_of_ne fun hc => h (lockCell_inj.mp hc)

/-! ## Logs -/

/-- The commands of a log with their answers. -/
def answers (log : List LockCommand) : List (LockCommand × Except String LockResponse) :=
  Projection.answered CustodianStateMachine.apply Keyspace.empty log

omit [Chrono] [LockFormat] in
/-- The commands on a ticket. -/
def commandsOn (t : UInt64) (log : List LockCommand) : List LockCommand :=
  log.filter fun c => c.ticketId = t

/-- The commands on a ticket with their answers in a log. -/
def answersOn (t : UInt64) (log : List LockCommand) :
    List (LockCommand × Except String LockResponse) :=
  (answers log).filter fun a => a.1.ticketId = t

/-- Lock commands write to cells of lock records only. -/
theorem at_applyLocks_eq_none {log : List LockCommand} {d : SledCell}
    (h : ∀ t, lockCell t ≠ d) : (applyLocks Keyspace.empty log).at? d = none := by
  induction log using List.reverseRecOn with
  | nil => exact Keyspace.at_empty d
  | append_singleton log c ih =>
      rw [applyLocks, List.foldl_concat, at_apply_of_ne (h _)]
      exact ih

/-- In every log, the lock record of a ticket and the answers to the commands on it are those of the
log of these commands alone. Two logs in which every ticket has the same commands in the same
order leave the same lock table and answer every command alike. -/
theorem tickets_do_not_interfere (log : List LockCommand) :
    (∀ t, getLockInfo (applyLocks Keyspace.empty log) t =
        getLockInfo (applyLocks Keyspace.empty (commandsOn t log)) t ∧
      answersOn t log = answers (commandsOn t log)) ∧
    ∀ log', (∀ t, commandsOn t log = commandsOn t log') →
      applyLocks Keyspace.empty log = applyLocks Keyspace.empty log' ∧
        ∀ t, answersOn t log = answersOn t log' := by
  constructor
  · intro t
    obtain ⟨hcell, hanswers⟩ := apply_keepsApart.project (k := t) rfl log
    exact ⟨getLockInfo_congr hcell, hanswers⟩
  · intro log' horder
    obtain ⟨hcells, hanswers⟩ := apply_keepsApart.reorder Keyspace.empty horder
    refine ⟨Keyspace.ext fun d => ?_, hanswers⟩
    by_cases hlock : ∃ t, lockCell t = d
    · obtain ⟨t, rfl⟩ := hlock
      exact hcells t
    · push Not at hlock
      rw [at_applyLocks_eq_none hlock, at_applyLocks_eq_none hlock]

end InfoVulcan.Custodian

/-! ## Two tickets -/

namespace InfoVulcan.Custodian

open scoped SerdeJson

/-- Locks on two tickets are taken in either order. -/
theorem tickets_do_not_interfere_two :
    applyLocks Keyspace.empty [.acquireLock 7 ⟨1⟩ 100 50, .acquireLock 8 ⟨2⟩ 100 50] =
      applyLocks Keyspace.empty [.acquireLock 8 ⟨2⟩ 100 50, .acquireLock 7 ⟨1⟩ 100 50] := by
  refine ((tickets_do_not_interfere _).2 _ fun t => ?_).1
  by_cases h : t = 7
  · subst h
    rfl
  · have hseven : ¬ (7 : UInt64) = t := Ne.symm h
    simp [commandsOn, List.filter_cons, LockCommand.ticketId, hseven]

end InfoVulcan.Custodian
