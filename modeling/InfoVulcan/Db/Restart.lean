import InfoVulcan.Db.DataTrees
import InfoVulcan.Db.Json
import InfoVulcan.Db.RaftLog

/-!
# Restarting a node

The tables are on disk, the position of the state machine is not: a reopened store reports that
it has applied nothing, so the whole log runs again on the tables it has already produced.
Updates and deletions overwrite what they wrote before; the creation of a ticket takes a new id.
`restart_exactly_once` draws the line.
-/

namespace InfoVulcan.Db

open Raft

/-- The entries that are applied again after a restart: those whose log id is greater than the
last applied one. -/
def entriesToReapply (lastApplied : Option LogId) (log : List DbEntry) : List DbEntry :=
  log.filter fun entry => !decide (AtLeast lastApplied (some entry.logId))

/-- A store that has just been opened gets the whole log. -/
theorem entriesToReapply_reopened (storage : Sled) (raftStorage : RaftMetadata)
    (log : List DbEntry) :
    entriesToReapply
      (DbStore.lastAppliedState { storage, stateMachine := .new, raftStorage }).1 log = log :=
  List.filter_eq_self.mpr fun _ _ => rfl

variable [RowFormat]

/-! ## A second run of a log without ticket creations -/

/-- A command other than the creation of a ticket that succeeds has read rows that are there. -/
theorem reads_present {db : Sled} {e : LogEntry} (hcreate : e.isCreateTicket = false)
    (hok : ∃ payload, (e.apply db).1 = .ok payload) :
    ∀ c ∈ e.reads, db.at? c ≠ none := by
  obtain ⟨payload, hok⟩ := hok
  rw [LogEntry.apply_eq_exec] at hok
  intro c hc hnone
  cases e <;> simp only [LogEntry.reads, List.mem_singleton, List.not_mem_nil] at hc
  case createTicket => cases hcreate
  all_goals
    subst hc
    simp only [LogEntry.transaction, Transaction.exec, LogEntry.plan, hnone] at hok
    cases hok

/-- A log that creates no ticket reads only rows it has written itself. -/
theorem readsOwnWrites {db : Sled} {log : List LogEntry} (hlog : Succeeds db log)
    (hcreate : ∀ e ∈ log, e.isCreateTicket = false) :
    Transaction.ReadsOwnWrites Keyspace.empty (log.map LogEntry.transaction) db := by
  induction log generalizing db with
  | nil => trivial
  | cons e log ih =>
      refine ⟨fun c hc => ?_, ?_⟩
      · rw [Keyspace.at_empty]
        exact reads_present (hcreate e List.mem_cons_self) hlog.1 c hc
      · have hnext := hlog.2
        rw [LogEntry.apply_eq_exec] at hnext
        exact ih hnext fun d hd => hcreate d (List.mem_cons_of_mem _ hd)

/-- Whether a log succeeds can be read off its outcomes. -/
theorem succeeds_iff_outcomes {db : Sled} {log : List LogEntry} :
    Succeeds db log ↔
      ∀ o ∈ Transaction.outcomes (log.map LogEntry.transaction) db, ∃ payload, o = .ok payload := by
  induction log generalizing db with
  | nil => simp [Succeeds, Transaction.outcomes]
  | cons e log ih =>
      rw [Succeeds, List.map_cons, Transaction.outcomes, List.forall_mem_cons, ih,
        LogEntry.apply_eq_exec]

/-- A log that creates no ticket has no effect on its own result. -/
theorem replay_without_creations {log : List LogEntry} (hlog : Succeeds Keyspace.empty log)
    (hcreate : ∀ e ∈ log, e.isCreateTicket = false) :
    Succeeds (applyAll Keyspace.empty log) log ∧
      applyAll (applyAll Keyspace.empty log) log = applyAll Keyspace.empty log := by
  obtain ⟨hrun, houtcomes⟩ := Transaction.replay (readsOwnWrites hlog hcreate)
  rw [succeeds_iff_outcomes] at hlog ⊢
  simp only [applyAll_eq_runAll] at hrun houtcomes ⊢
  exact ⟨houtcomes ▸ hlog, hrun⟩

/-! ## Reopening -/

variable [RaftFormat]

omit [RowFormat] in
/-- The stored vote and purge marker can be decoded. -/
def MetadataReadable (db : Sled) : Prop :=
  (∃ vote : Option Vote, db.at? (metadataCell KEY_VOTE) = vote.map RaftFormat.vote.encode) ∧
    ∃ lastPurged : Option LogId,
      db.at? (metadataCell KEY_LAST_PURGED) = lastPurged.map RaftFormat.logId.encode

omit [RowFormat] in
theorem MetadataReadable.empty : MetadataReadable Keyspace.empty :=
  ⟨⟨none, by simp⟩, none, by simp⟩

omit [RowFormat] in
/-- Only the metadata tree matters. -/
theorem MetadataReadable.congr {db db' : Sled} (h : MetadataReadable db)
    (hmeta : ∀ key, db'.at? (metadataCell key) = db.at? (metadataCell key)) :
    MetadataReadable db' := by
  obtain ⟨⟨vote, hvote⟩, lastPurged, hpurged⟩ := h
  exact ⟨⟨vote, (hmeta _).trans hvote⟩, lastPurged, (hmeta _).trans hpurged⟩

omit [RowFormat] in
/-- A database with readable metadata can be reopened, and the state machine then reports that
nothing has been applied. -/
theorem MetadataReadable.reopen {db : Sled} (h : MetadataReadable db) :
    ∃ raftStorage, DbStore.new db = .ok { storage := db, stateMachine := .new, raftStorage } := by
  obtain ⟨⟨vote, hvote⟩, lastPurged, hpurged⟩ := h
  exact ⟨⟨vote, lastPurged⟩, by rw [DbStore.new, metadata_eq hvote hpurged]⟩

omit [RowFormat] [RaftFormat] in
/-- A command that does not name the metadata tree does not write to it. -/
theorem metadata_outside {e : LogEntry} (he : e.genericTarget ≠ some TREE_RAFT_METADATA) :
    TREE_RAFT_METADATA ∉ e.trees := by
  intro htree
  rcases e.trees_cases _ htree with hdomain | hgeneric
  · exact absurd hdomain (by decide)
  · exact he hgeneric

/-- The metadata stays readable as long as no command writes to the metadata tree directly. -/
theorem MetadataReadable.perform {store : DbStore} (h : MetadataReadable store.storage)
    {op : Operation} (hop : op.AppliesOnly fun e => e.genericTarget ≠ some TREE_RAFT_METADATA) :
    MetadataReadable (store.perform op).storage := by
  cases op with
  | saveVote vote =>
      obtain ⟨-, lastPurged, hpurged⟩ := h
      refine ⟨⟨some vote, (Keyspace.at_put _ _ _ _).trans (if_pos rfl)⟩, lastPurged, ?_⟩
      rw [← hpurged]
      exact (Keyspace.at_put _ _ _ _).trans (if_neg vote_ne_lastPurged)
  | appendToLog entries =>
      exact h.congr fun key => at_batchPut_outside _ _
        (by simp [metadataCell, TREE_RAFT_METADATA, TREE_RAFT_LOG])
  | deleteConflictLogsSince logId =>
      exact h.congr fun key => at_batchRemove_outside _ _
        (by simp [metadataCell, TREE_RAFT_METADATA, TREE_RAFT_LOG])
  | purgeLogsUpto logId =>
      let keys := (rangeUpTo store.storage TREE_RAFT_LOG (Bytes.ofU64 logId.index)).map Prod.fst
      have houtside : ∀ key, (batchRemove store.storage TREE_RAFT_LOG keys).at?
          (metadataCell key) = store.storage.at? (metadataCell key) := fun key =>
        at_batchRemove_outside _ _ (by simp [metadataCell, TREE_RAFT_METADATA, TREE_RAFT_LOG])
      obtain ⟨⟨vote, hvote⟩, -⟩ := h.congr houtside
      refine ⟨⟨vote, ?_⟩, some logId, (Keyspace.at_put _ _ _ _).trans (if_pos rfl)⟩
      rw [← hvote]
      exact (Keyspace.at_put _ _ _ _).trans (if_neg vote_ne_lastPurged.symm)
  | applyToStateMachine entries =>
      obtain ⟨log, hpre, hstorage, -⟩ := store.applyLoop_storage [] entries
      refine h.congr fun key => ?_
      show (store.applyLoop [] entries).2.storage.at? _ = _
      rw [hstorage]
      refine at_applyAll_outside _ fun e he htree => ?_
      exact metadata_outside (hop e (hpre.subset he)) htree

theorem MetadataReadable.performAll {store : DbStore} (h : MetadataReadable store.storage)
    {ops : List Operation}
    (hops : ∀ op ∈ ops, op.AppliesOnly fun e => e.genericTarget ≠ some TREE_RAFT_METADATA) :
    MetadataReadable (store.performAll ops).storage := by
  induction ops generalizing store with
  | nil => exact h
  | cons op ops ih =>
      exact ih (h.perform (hops op List.mem_cons_self))
        fun d hd => hops d (List.mem_cons_of_mem _ hd)

/-! ## Exactly-once application -/

/-- The node stops after `ops`, its store is reopened, and the entries above the last applied one
are applied again, in log order; afterwards the tables, indexes and sequence counters are what
applying each entry of the log once makes of an empty database. The log still holds all entries:
those applied before the stop and the `rest`. -/
def ExactlyOnce (ops : List Operation) (rest : List DbEntry) : Prop :=
  ∃ reopened responses final,
    DbStore.new (DbStore.blank.performAll ops).storage = .ok reopened ∧
    reopened.applyToStateMachine
      (entriesToReapply reopened.lastAppliedState.1 (appliedEntries ops ++ rest)) =
        (.ok responses, final) ∧
    ∀ c : SledCell, c.space ∈ domainTrees →
      final.storage.at? c =
        (applyAll Keyspace.empty (commands (appliedEntries ops ++ rest))).at? c

/-- A restart is a second run of the log on the result of what ran before it. -/
theorem exactlyOnce_iff {ops : List Operation} {rest : List DbEntry}
    (hops : AllAnswered DbStore.blank ops)
    (hmeta : MetadataReadable (DbStore.blank.performAll ops).storage) :
    ExactlyOnce ops rest ↔
      Succeeds (applyAll Keyspace.empty (commands (appliedEntries ops)))
          (commands (appliedEntries ops ++ rest)) ∧
        ∀ c : SledCell, c.space ∈ domainTrees →
          (applyAll (applyAll Keyspace.empty (commands (appliedEntries ops)))
              (commands (appliedEntries ops ++ rest))).at? c =
            (applyAll Keyspace.empty (commands (appliedEntries ops ++ rest))).at? c := by
  obtain ⟨raftStorage, hreopen⟩ := hmeta.reopen
  have hdata := (hasApplied_of_run hops).data
  have hfinal := agree_applyAll hdata (commands (appliedEntries ops ++ rest))
  constructor
  · rintro ⟨reopened, responses, final, hnew, hok, hsame⟩
    obtain rfl := Except.ok.inj (hreopen.symm.trans hnew)
    rw [entriesToReapply_reopened] at hok
    have hsucceeds := DbStore.succeeds_of_ok hok
    refine ⟨(agree_succeeds hdata).mp hsucceeds, fun c hc => ?_⟩
    rw [← hsame c hc, DbStore.store_of_ok hok]
    exact (hfinal c (isData_of_domainTree hc)).symm
  · rintro ⟨hsucceeds, hsame⟩
    let reopened : DbStore := ⟨(DbStore.blank.performAll ops).storage, .new, raftStorage⟩
    obtain ⟨responses, -, hok⟩ : ∃ responses, reopened.AnsweredInOrder _ responses ∧ _ :=
      DbStore.applyToStateMachine_ok ((agree_succeeds hdata).mpr hsucceeds)
    refine ⟨_, responses, _, hreopen, by rw [entriesToReapply_reopened]; exact hok,
      fun c hc => ?_⟩
    rw [← hsame c hc]
    exact hfinal c (isData_of_domainTree hc)

/-- A ticket that was created before the stop is counted twice, so there was none. -/
theorem no_creation_of_exactlyOnce {ops : List Operation} {rest : List DbEntry}
    (hops : AllAnswered DbStore.blank ops)
    (hmeta : MetadataReadable (DbStore.blank.performAll ops).storage)
    (hseq : ∀ e ∈ commands (appliedEntries ops ++ rest), e.genericTarget ≠ some TREE_SEQ)
    (hroom : (commands (appliedEntries ops ++ rest)).countP LogEntry.isCreateTicket < 2 ^ 64 - 1)
    (honce : ExactlyOnce ops rest) :
    ∀ e ∈ commands (appliedEntries ops), e.isCreateTicket = false := by
  have hcommands : commands (appliedEntries ops ++ rest) =
      commands (appliedEntries ops) ++ commands rest := List.filterMap_append
  have happlied : ∀ e ∈ commands (appliedEntries ops), e.genericTarget ≠ some TREE_SEQ :=
    fun e he => hseq e (hcommands ▸ List.mem_append_left _ he)
  have hsame := ((exactlyOnce_iff hops hmeta).mp honce).2 seqCell (by decide)
  -- Both sides are counters: one has counted the creations before the stop twice.
  have hempty : (Keyspace.empty : Sled).at? seqCell = counterBytes 0 := by simp [counterBytes]
  rw [seq_applyAll hseq (by omega) hempty,
    seq_applyAll hseq (by omega) (seq_applyAll happlied (by omega) hempty)] at hsame
  have hcount := counterBytes_inj (by omega) (by omega) hsame
  have hzero : (commands (appliedEntries ops)).countP LogEntry.isCreateTicket = 0 := by omega
  simpa using hzero

/-- The position is lost when a node stops. If no ticket was created before, applying the log
again makes no difference, provided the metadata has not been overwritten by a client and the
store can be reopened. Conversely, in a log that leaves the sequence counters to the creation of
tickets, a ticket created before the stop is created a second time. -/
theorem restart_exactly_once {ops : List Operation} {rest : List DbEntry}
    (hops : AllAnswered DbStore.blank ops)
    (hlog : Succeeds Keyspace.empty (commands (appliedEntries ops ++ rest))) :
    ((∀ e ∈ commands (appliedEntries ops),
        e.isCreateTicket = false ∧ e.genericTarget ≠ some TREE_RAFT_METADATA) →
      ExactlyOnce ops rest) ∧
    ((∀ e ∈ commands (appliedEntries ops ++ rest),
        e.genericTarget ≠ some TREE_RAFT_METADATA ∧ e.genericTarget ≠ some TREE_SEQ) →
      (commands (appliedEntries ops ++ rest)).countP LogEntry.isCreateTicket < 2 ^ 64 - 1 →
      (ExactlyOnce ops rest ↔
        ∀ e ∈ commands (appliedEntries ops), e.isCreateTicket = false)) := by
  have happlies : ∀ p : LogEntry → Prop, (∀ e ∈ commands (appliedEntries ops), p e) →
      ∀ op ∈ ops, op.AppliesOnly p := by
    intro p hp op hop
    cases op with
    | applyToStateMachine entries =>
        intro e he
        refine hp e ?_
        obtain ⟨entry, hentry, hcommand⟩ := List.mem_filterMap.mp he
        exact List.mem_filterMap.mpr ⟨entry, List.mem_flatMap.mpr ⟨_, hop, hentry⟩, hcommand⟩
    | _ => trivial
  have hcommands : commands (appliedEntries ops ++ rest) =
      commands (appliedEntries ops) ++ commands rest := List.filterMap_append
  have hpre := (succeeds_append.mp (hcommands ▸ hlog)).1
  have hblank : MetadataReadable DbStore.blank.storage := .empty
  have hsufficient : (∀ e ∈ commands (appliedEntries ops),
      e.isCreateTicket = false ∧ e.genericTarget ≠ some TREE_RAFT_METADATA) →
        ExactlyOnce ops rest := by
    intro hcond
    have hmeta := hblank.performAll
      (happlies _ fun e he => (hcond e he).2)
    obtain ⟨hagain, hreplay⟩ := replay_without_creations hpre fun e he => (hcond e he).1
    rw [exactlyOnce_iff hops hmeta, hcommands, succeeds_append, applyAll_append, hreplay]
    refine ⟨⟨hagain, (succeeds_append.mp (hcommands ▸ hlog)).2⟩, fun c _ => ?_⟩
    rw [applyAll_append]
  refine ⟨hsufficient, fun hgeneric hroom => ⟨fun honce => ?_, fun hcreate => ?_⟩⟩
  · have hmeta := hblank.performAll (happlies _ fun e he =>
      (hgeneric e (hcommands ▸ List.mem_append_left _ he)).1)
    exact no_creation_of_exactlyOnce hops hmeta (fun e he => (hgeneric e he).2) hroom honce
  · exact hsufficient fun e he =>
      ⟨hcreate e he, (hgeneric e (hcommands ▸ List.mem_append_left _ he)).1⟩

end InfoVulcan.Db

/-! ## Runs on the JSON formats -/

namespace InfoVulcan.Db

open scoped SerdeJson

/-- The first entry creates a user. -/
def createUserFirst : DbEntry :=
  committedAt 1 (.createUser "u" [] ⟨"name", "mail", 0⟩)

/-- The second entry creates a ticket. -/
def createTicketSecond : DbEntry :=
  committedAt 2 (.createTicket [] (accountFields "a"))

/-- A node that stops after creating a user, with the creation of a ticket to come. -/
theorem restart_exactly_once_user :
    ExactlyOnce [.applyToStateMachine [createUserFirst]] [createTicketSecond] := by
  have hops : AllAnswered DbStore.blank [.applyToStateMachine [createUserFirst]] :=
    allAnswered_batch ⟨⟨_, rfl⟩, trivial⟩
  have hlog : Succeeds Keyspace.empty (commands [createUserFirst, createTicketSecond]) :=
    ⟨⟨_, rfl⟩, ⟨_, rfl⟩, trivial⟩
  exact (restart_exactly_once hops hlog).1 (by decide)

/-- A node that stops after creating a ticket creates it a second time. -/
theorem restart_creates_twice : ¬ ExactlyOnce [.applyToStateMachine [createFirst "a"]] [] := by
  intro honce
  have hops : AllAnswered DbStore.blank [.applyToStateMachine [createFirst "a"]] :=
    allAnswered_batch ⟨⟨_, rfl⟩, trivial⟩
  have hmeta : MetadataReadable
      (DbStore.blank.performAll [.applyToStateMachine [createFirst "a"]]).storage := by
    have hblank : MetadataReadable DbStore.blank.storage := .empty
    refine hblank.performAll fun op hop => ?_
    obtain rfl := List.mem_singleton.mp hop
    intro e he
    obtain rfl : e = .createTicket [] (accountFields "a") := List.mem_singleton.mp he
    decide
  exact absurd (no_creation_of_exactlyOnce hops hmeta (by decide) (by decide) honce) (by decide)

end InfoVulcan.Db
