import InfoVulcan.Db.Application
import InfoVulcan.Db.Json
import InfoVulcan.Db.Rows

/-!
# Committed commands and the state machine

A committed command on a row that does not exist surfaces as a storage error, which stops the
node, instead of as a response. `committed_batch_completes_iff` says exactly when a batch of
tickets and user commands is answered in full: every row it changes is stored beforehand or
created by an earlier entry of the batch.
-/

namespace InfoVulcan.Db

open Raft

variable [RowFormat]

/-- The rows a log creates when it finds the ticket counter in `seq`. -/
def createdBy (seq : Option Bytes) : List LogEntry → List Target
  | [] => []
  | e :: log => (e.creates seq).toList ++ createdBy (e.seqAfter seq) log

/-- Every row a command changes is in the store or created earlier in the log. -/
def TargetsExist (db : Sled) (log : List LogEntry) : Prop :=
  ∀ pre e post, log = pre ++ e :: post →
    ∀ t ∈ e.target, Present db t ∨ t ∈ createdBy (db.at? seqCell) pre

/-- The first command changes a row of the store, the others one of the store it leaves. -/
theorem targetsExist_cons {db : Sled} (h : Readable db.at?) {e : LogEntry} (he : e.isDomain)
    (log : List LogEntry) :
    TargetsExist db (e :: log) ↔
      (∀ t ∈ e.target, Present db t) ∧ TargetsExist (e.apply db).2 log := by
  have hseq : e.genericTarget ≠ some TREE_SEQ := by
    simp [LogEntry.genericTarget_of_isDomain he]
  have hmove : ∀ pre t,
      (Present (e.apply db).2 t ∨ t ∈ createdBy ((e.apply db).2.at? seqCell) pre) ↔
        (Present db t ∨ t ∈ createdBy (db.at? seqCell) (e :: pre)) := by
    intro pre t
    rw [present_apply h he, LogEntry.seq_apply hseq, createdBy, List.mem_append, Option.mem_toList,
      or_assoc]
  constructor
  · intro hall
    refine ⟨fun t ht => ?_, fun pre d post hlog t ht => ?_⟩
    · simpa [createdBy] using hall [] e log rfl t ht
    · exact (hmove pre t).mpr (hall (e :: pre) d post (by rw [hlog]; rfl) t ht)
  · rintro ⟨hfirst, hrest⟩ pre d post hlog t ht
    cases pre with
    | nil =>
        obtain ⟨rfl, -⟩ := List.cons.inj hlog
        exact .inl (hfirst t ht)
    | cons d' pre =>
        obtain ⟨rfl, hrest'⟩ := List.cons.inj hlog
        exact (hmove pre t).mp (hrest pre d post hrest' t ht)

/-- A log of domain commands succeeds exactly when the rows it changes exist. -/
theorem succeeds_iff_targetsExist {db : Sled} (h : Readable db.at?) {log : List LogEntry}
    (hlog : ∀ e ∈ log, e.isDomain) : Succeeds db log ↔ TargetsExist db log := by
  induction log generalizing db with
  | nil =>
      refine ⟨fun _ pre e post hnil => ?_, fun _ => trivial⟩
      exact absurd hnil (by simp)
  | cons e log ih =>
      have he := hlog e List.mem_cons_self
      rw [targetsExist_cons h he, Succeeds, apply_ok_iff h he,
        ih (readable_apply h he) fun d hd => hlog d (List.mem_cons_of_mem _ hd)]

/-! ## Reachable stores -/

/-- Rows stay readable under a log of domain commands. -/
theorem readable_applyAll {db : Sled} (h : Readable db.at?) {log : List LogEntry}
    (hlog : ∀ e ∈ log, e.isDomain) : Readable (applyAll db log).at? := by
  induction log generalizing db with
  | nil => exact h
  | cons e log ih =>
      exact ih (readable_apply h (hlog e List.mem_cons_self))
        fun d hd => hlog d (List.mem_cons_of_mem _ hd)

/-- The trees of rows are not trees of Raft. -/
theorem Target.space_outside_raft (t : Target) :
    t.cell.space ≠ TREE_RAFT_METADATA ∧ t.cell.space ≠ TREE_RAFT_LOG := by
  cases t <;>
    simp [Target.cell, Table.rowCell, tickets, users, TREE_TICKETS, TREE_USERS,
      TREE_RAFT_METADATA, TREE_RAFT_LOG]

variable [RaftFormat]

/-- Rows stay readable under any operation that applies domain commands only. -/
theorem readable_perform {store : DbStore} (h : Readable store.storage.at?) {op : Operation}
    (hop : op.AppliesOnly fun e => e.isDomain) : Readable (store.perform op).storage.at? := by
  have hraft : (∀ entries, op ≠ .applyToStateMachine entries) →
      Readable (store.perform op).storage.at? := by
    intro hne t bytes ht
    obtain ⟨hmeta, hlog⟩ := t.space_outside_raft
    rw [at_perform_outside store hne hmeta hlog] at ht
    exact h t bytes ht
  cases op with
  | applyToStateMachine entries =>
      obtain ⟨log, hpre, hstorage, -⟩ := store.applyLoop_storage [] entries
      show Readable (store.applyLoop [] entries).2.storage.at?
      rw [hstorage]
      exact readable_applyAll h fun e he => hop e (hpre.subset he)
  | _ => exact hraft fun entries hentries => by cases hentries

/-- Rows are readable in every store reached by applying domain commands only. -/
theorem readable_performAll {store : DbStore} (h : Readable store.storage.at?)
    {ops : List Operation} (hops : ∀ op ∈ ops, op.AppliesOnly fun e => e.isDomain) :
    Readable (store.performAll ops).storage.at? := by
  induction ops generalizing store with
  | nil => exact h
  | cons op ops ih =>
      exact ih (readable_perform h (hops op List.mem_cons_self))
        fun d hd => hops d (List.mem_cons_of_mem _ hd)

/-! ## Committed batches -/

omit [RaftFormat] in
/-- A batch is answered in full: one response per entry, in order, and the state machine has moved
to the last entry. -/
def Completes (store : DbStore) (entries : List DbEntry) : Prop :=
  ∃ responses store', store.applyToStateMachine entries = (.ok responses, store') ∧
    responses.length = entries.length ∧
    store.AnsweredInOrder entries responses ∧
    store'.stateMachine.lastAppliedLog = lastLogIdOf store.stateMachine.lastAppliedLog entries

omit [RaftFormat] in
/-- A batch is answered in full exactly when its commands succeed. -/
theorem completes_iff_succeeds {store : DbStore} {entries : List DbEntry} :
    Completes store entries ↔ Succeeds store.storage (commands entries) := by
  constructor
  · rintro ⟨responses, store', hok, -⟩
    exact DbStore.succeeds_of_ok hok
  · intro h
    obtain ⟨responses, hanswered, hok⟩ := DbStore.applyToStateMachine_ok h
    exact ⟨responses, _, hok, hanswered.length_eq, hanswered,
      store.advance_lastAppliedLog entries⟩

/-- A batch of domain commands is answered in full exactly when every row it changes is stored
beforehand or created by an earlier entry of the batch. -/
theorem committed_batch_completes_iff {ops : List Operation}
    (hops : ∀ op ∈ ops, op.AppliesOnly fun e => e.isDomain) {entries : List DbEntry}
    (hentries : ∀ e ∈ commands entries, e.isDomain) :
    Completes (DbStore.blank.performAll ops) entries ↔
      TargetsExist (DbStore.blank.performAll ops).storage (commands entries) :=
  completes_iff_succeeds.trans
    (succeeds_iff_targetsExist (readable_performAll readable_empty hops) hentries)

end InfoVulcan.Db

/-! ## Runs on the JSON formats -/

namespace InfoVulcan.Db

open scoped SerdeJson

/-- The node has created a ticket. -/
def firstStored : List Operation :=
  [.applyToStateMachine [createFirst "a"]]

/-- A batch changes that ticket, creates another one and changes it as well. -/
def mixedBatch : List DbEntry :=
  [committedAt 2 (.updateTicket 1 [] (accountFields "b")),
    committedAt 3 (.createTicket [] (accountFields "c")),
    committedAt 4 (.updateTicket 2 [] (accountFields "d"))]

/-- The tickets that the commands change have been created before. -/
theorem targetsExist_mixed :
    TargetsExist Keyspace.empty (commands (createFirst "a" :: mixedBatch)) := by
  have hcommands : commands (createFirst "a" :: mixedBatch) =
      [.createTicket [] (accountFields "a"), .updateTicket 1 [] (accountFields "b"),
        .createTicket [] (accountFields "c"), .updateTicket 2 [] (accountFields "d")] := rfl
  intro pre e post hlog t ht
  rw [hcommands] at hlog
  rcases pre with _ | ⟨e₁, _ | ⟨e₂, _ | ⟨e₃, _ | ⟨e₄, pre⟩⟩⟩⟩ <;>
    simp only [List.nil_append, List.cons_append, List.cons.injEq, List.nil_eq,
      List.append_eq_nil_iff, reduceCtorEq, and_false] at hlog
  · obtain ⟨rfl, -⟩ := hlog
    cases ht
  · obtain ⟨rfl, rfl, -⟩ := hlog
    cases ht
    exact .inr (by decide)
  · obtain ⟨rfl, rfl, rfl, -⟩ := hlog
    cases ht
  · obtain ⟨rfl, rfl, rfl, rfl, -⟩ := hlog
    cases ht
    exact .inr (by decide)

theorem storage_firstStored : (DbStore.blank.performAll firstStored).storage =
    ((LogEntry.createTicket [] (accountFields "a")).apply Keyspace.empty).2 := by
  have hcreated : Succeeds DbStore.blank.storage (commands [createFirst "a"]) :=
    ⟨(apply_ok_iff readable_empty rfl).mpr nofun, trivial⟩
  obtain ⟨responses, -, hok⟩ := DbStore.applyToStateMachine_ok hcreated
  have hstore : (DbStore.blank.performAll firstStored).storage =
      (DbStore.blank.applyToStateMachine [createFirst "a"]).2.storage := rfl
  rw [hstore, hok]
  rfl

/-- The batch is answered in full: one ticket it changes was stored beforehand, and the batch
itself creates the other. -/
theorem committed_batch_completes_create_update :
    Completes (DbStore.blank.performAll firstStored) mixedBatch := by
  have hops : ∀ op ∈ firstStored, op.AppliesOnly fun e => e.isDomain := by
    intro op hop
    obtain rfl := List.mem_singleton.mp hop
    exact fun e he => List.mem_singleton.mp he ▸ rfl
  refine (committed_batch_completes_iff hops (by decide)).mpr ?_
  rw [storage_firstStored]
  exact ((targetsExist_cons readable_empty rfl _).mp targetsExist_mixed).2

/-- A change of a ticket that does not exist is not answered. -/
theorem update_of_missing_ticket_not_completed :
    ¬ Completes (DbStore.blank.performAll [])
      [committedAt 1 (.updateTicket 1 [] (accountFields "a"))] := by
  rw [completes_iff_succeeds]
  rintro ⟨hok, -⟩
  have hpresent := (apply_ok_iff readable_empty rfl).mp hok (.ticket 1) rfl
  simp [Present] at hpresent

end InfoVulcan.Db
