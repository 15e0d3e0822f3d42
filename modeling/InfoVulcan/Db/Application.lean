import InfoVulcan.Db.Raft

/-!
# Applying committed entries

`Succeeds` says that every command of a log succeeds when the commands are applied in turn. It
decides what a call of `applyToStateMachine` does: the call is `ok` exactly then, and it leaves
the store that `advance` computes without looking at outcomes.
-/

namespace InfoVulcan.Db

open Raft

variable [RowFormat]

/-- The command of an entry, if it carries one. -/
def command? (entry : DbEntry) : Option LogEntry :=
  match entry.payload with
  | .normal command => some command
  | _ => none

/-- The commands among committed entries, in order. -/
def commands (entries : List DbEntry) : List LogEntry :=
  entries.filterMap command?

/-- Every command of the log succeeds when they are applied in turn. -/
def Succeeds (db : Sled) : List LogEntry → Prop
  | [] => True
  | e :: log => (∃ payload, (e.apply db).1 = .ok payload) ∧ Succeeds (e.apply db).2 log

theorem succeeds_append {db : Sled} {xs ys : List LogEntry} :
    Succeeds db (xs ++ ys) ↔ Succeeds db xs ∧ Succeeds (applyAll db xs) ys := by
  induction xs generalizing db with
  | nil => simp [Succeeds]
  | cons e xs ih => simp [Succeeds, ih, and_assoc]

/-- The position of the state machine after one more entry. -/
def DbStateMachine.advance (sm : DbStateMachine) (entry : DbEntry) : DbStateMachine where
  lastAppliedLog := some entry.logId
  lastMembership :=
    match entry.payload with
    | .membership config => ⟨some entry.logId, config⟩
    | _ => sm.lastMembership

/-- The log id of the last entry, or `prior` when there is none. -/
def lastLogIdOf (prior : Option LogId) (entries : List DbEntry) : Option LogId :=
  (entries.getLast?.map fun entry => entry.logId).or prior

namespace DbStore

/-- The store after all the entries. -/
def advance (store : DbStore) (entries : List DbEntry) : DbStore :=
  { store with
    storage := applyAll store.storage (commands entries)
    stateMachine := entries.foldl DbStateMachine.advance store.stateMachine }

theorem advance_cons (store : DbStore) (entry : DbEntry) (entries : List DbEntry) :
    store.advance (entry :: entries) = (store.advance [entry]).advance entries := by
  simp only [advance, commands, ← applyAll_append, ← List.filterMap_append]
  rfl

theorem advance_lastAppliedLog (store : DbStore) (entries : List DbEntry) :
    (store.advance entries).stateMachine.lastAppliedLog =
      lastLogIdOf store.stateMachine.lastAppliedLog entries := by
  induction entries using List.reverseRecOn with
  | nil => rfl
  | append_singleton entries entry => simp [advance, DbStateMachine.advance, lastLogIdOf]

/-- The responses answer the entries one by one, each computed on the store its predecessors
left. -/
def AnsweredInOrder (store : DbStore) : List DbEntry → List DbResponse → Prop
  | [], [] => True
  | entry :: entries, response :: responses =>
      (store.applyEntry entry).1 = .ok response ∧
        AnsweredInOrder (store.applyEntry entry).2 entries responses
  | _, _ => False

/-- There is one response per entry. -/
theorem AnsweredInOrder.length_eq {store : DbStore} {entries : List DbEntry}
    {responses : List DbResponse} (h : AnsweredInOrder store entries responses) :
    responses.length = entries.length := by
  induction entries generalizing store responses with
  | nil =>
      cases responses with
      | nil => rfl
      | cons response responses => exact h.elim
  | cons entry entries ih =>
      cases responses with
      | nil => exact h.elim
      | cons response responses => simp [ih h.2]

/-- Applying one entry succeeds when its command does, and always leaves the advanced store. -/
theorem applyEntry_spec (store : DbStore) (entry : DbEntry) :
    ((∃ response, (store.applyEntry entry).1 = .ok response) ↔
        Succeeds store.storage (commands [entry])) ∧
      (store.applyEntry entry).2 = store.advance [entry] := by
  obtain ⟨logId, payload⟩ := entry
  cases payload with
  | blank =>
      simp [applyEntry, commands, List.filterMap_cons, command?, Succeeds, advance,
        DbStateMachine.advance]
  | membership config =>
      simp [applyEntry, commands, List.filterMap_cons, command?, Succeeds, advance,
        DbStateMachine.advance]
  | normal command =>
      simp only [applyEntry, DbStateMachine.apply, commands, command?, Succeeds, advance,
        List.filterMap_cons, List.filterMap_nil, applyAll_cons, applyAll_nil, List.foldl_cons,
        List.foldl_nil, DbStateMachine.advance]
      cases hcmd : command.apply store.storage with
      | mk outcome storage => cases outcome <;> simp

/-- The loop answers every entry when all commands succeed. -/
theorem applyLoop_ok {store : DbStore} {entries : List DbEntry} (acc : List DbResponse)
    (h : Succeeds store.storage (commands entries)) :
    ∃ responses, AnsweredInOrder store entries responses ∧
      store.applyLoop acc entries = (.ok (acc ++ responses), store.advance entries) := by
  induction entries generalizing store acc with
  | nil => exact ⟨[], trivial, by simp [applyLoop, advance, commands]⟩
  | cons entry entries ih =>
      obtain ⟨hok, hnext⟩ := store.applyEntry_spec entry
      rw [← List.singleton_append, commands, List.filterMap_append, succeeds_append] at h
      obtain ⟨response, hresponse⟩ := hok.mpr h.1
      obtain ⟨responses, hanswered, hloop⟩ := @ih (store.advance [entry])
        (acc ++ [response]) h.2
      refine ⟨response :: responses, ⟨hresponse, by rwa [hnext]⟩, ?_⟩
      have hpair : store.applyEntry entry = (.ok response, store.advance [entry]) :=
        Prod.ext hresponse hnext
      rw [applyLoop, hpair, store.advance_cons entry entries]
      simpa using hloop

/-- The loop stops with an error when some command fails. -/
theorem applyLoop_error {store : DbStore} {entries : List DbEntry} (acc : List DbResponse)
    (h : ¬ Succeeds store.storage (commands entries)) :
    ∃ e store', store.applyLoop acc entries = (.error e, store') := by
  induction entries generalizing store acc with
  | nil => exact absurd trivial h
  | cons entry entries ih =>
      obtain ⟨hok, hnext⟩ := store.applyEntry_spec entry
      rw [← List.singleton_append, commands, List.filterMap_append, succeeds_append] at h
      cases hentry : store.applyEntry entry with
      | mk outcome store' =>
          rw [hentry] at hok hnext
          cases outcome with
          | error e => exact ⟨e, store', by rw [applyLoop, hentry]⟩
          | ok response =>
              obtain ⟨e, final, hloop⟩ := @ih store' (acc ++ [response])
                fun hrest => h ⟨hok.mp ⟨response, rfl⟩, by
                  rw [show store' = store.advance [entry] from hnext] at hrest
                  exact hrest⟩
              exact ⟨e, final, by rw [applyLoop, hentry]; exact hloop⟩

/-- A batch whose commands succeed is answered in full. -/
theorem applyToStateMachine_ok {store : DbStore} {entries : List DbEntry}
    (h : Succeeds store.storage (commands entries)) :
    ∃ responses, AnsweredInOrder store entries responses ∧
      store.applyToStateMachine entries = (.ok responses, store.advance entries) :=
  store.applyLoop_ok [] h

/-- A batch is answered only if all its commands succeed. -/
theorem succeeds_of_ok {store store' : DbStore} {entries : List DbEntry}
    {responses : List DbResponse}
    (h : store.applyToStateMachine entries = (.ok responses, store')) :
    Succeeds store.storage (commands entries) := by
  by_contra hfail
  obtain ⟨e, failed, herror⟩ := store.applyLoop_error [] hfail
  rw [applyToStateMachine, herror] at h
  cases h

/-- An answered batch leaves the advanced store. -/
theorem store_of_ok {store store' : DbStore} {entries : List DbEntry}
    {responses : List DbResponse}
    (h : store.applyToStateMachine entries = (.ok responses, store')) :
    store' = store.advance entries := by
  obtain ⟨responses', -, hok⟩ := applyToStateMachine_ok (succeeds_of_ok h)
  rw [h] at hok
  exact (Prod.mk.inj hok).2

/-- Whatever the outcome, some of the commands have been applied, in order. -/
theorem applyLoop_storage (store : DbStore) (acc : List DbResponse) (entries : List DbEntry) :
    ∃ log, log <+: commands entries ∧
      (store.applyLoop acc entries).2.storage = applyAll store.storage log ∧
      (store.applyLoop acc entries).2.raftStorage = store.raftStorage := by
  induction entries generalizing store acc with
  | nil => exact ⟨[], List.nil_prefix, rfl, rfl⟩
  | cons entry entries ih =>
      have hnext := (store.applyEntry_spec entry).2
      have hcommands : commands (entry :: entries) = commands [entry] ++ commands entries := by
        rw [commands, ← List.singleton_append, List.filterMap_append]
        rfl
      rw [hcommands]
      cases hentry : store.applyEntry entry with
      | mk outcome store' =>
          obtain rfl : store' = store.advance [entry] := by rw [← hnext, hentry]
          rw [applyLoop, hentry]
          cases outcome with
          | error e => exact ⟨commands [entry], List.prefix_append _ _, rfl, rfl⟩
          | ok response =>
              obtain ⟨log, hpre, hstorage, hraft⟩ :=
                ih (store.advance [entry]) (acc ++ [response])
              refine ⟨commands [entry] ++ log, (List.prefix_append_right_inj _).mpr hpre, ?_,
                hraft⟩
              rw [applyAll_append]
              exact hstorage

end DbStore

/-! ## Runs of a store -/

/-- What Raft asks of a store. -/
inductive Operation where
  | saveVote (vote : Vote)
  | appendToLog (entries : List DbEntry)
  | deleteConflictLogsSince (logId : LogId)
  | purgeLogsUpto (logId : LogId)
  | applyToStateMachine (entries : List DbEntry)

/-- Whether every command an operation applies satisfies a predicate. -/
def Operation.AppliesOnly (p : LogEntry → Prop) : Operation → Prop
  | .applyToStateMachine entries => ∀ e ∈ commands entries, p e
  | _ => True

namespace DbStore

variable [RaftFormat]

/-- The store after an operation, whether it succeeds or not. -/
def perform (store : DbStore) : Operation → DbStore
  | .saveVote vote => store.saveVote vote
  | .appendToLog entries => store.appendToLog entries
  | .deleteConflictLogsSince logId => store.deleteConflictLogsSince logId
  | .purgeLogsUpto logId => store.purgeLogsUpto logId
  | .applyToStateMachine entries => (store.applyToStateMachine entries).2

/-- The store after a list of operations. -/
def performAll (store : DbStore) (ops : List Operation) : DbStore :=
  ops.foldl perform store

/-- The store of a new node. -/
def blank : DbStore where
  storage := Keyspace.empty
  stateMachine := .new
  raftStorage := ⟨none, none⟩

omit [RowFormat] in
/-- Opening an empty database gives the store of a new node. -/
theorem new_empty : DbStore.new Keyspace.empty = .ok blank := by
  simp [DbStore.new, RaftMetadata.new, get, loadOptional, blank]

end DbStore

/-! ## Raft writes outside the tables -/

omit [RowFormat] in
/-- A batch of removals as writes. -/
theorem batchRemove_eq (db : Sled) (tree : String) (keys : List Bytes) :
    batchRemove db tree keys = db.applyWrites (keys.map fun key => .remove ⟨tree, key⟩) := by
  rw [batchRemove, Keyspace.applyWrites, List.foldl_map]
  rfl

omit [RowFormat] in
/-- A batch of puts stays in its tree. -/
theorem at_batchPut_outside (db : Sled) {tree : String} (pairs : List (Bytes × Bytes))
    {c : SledCell} (h : c.space ≠ tree) : (batchPut db tree pairs).at? c = db.at? c := by
  rw [batchPut_eq, Keyspace.at_applyWrites_of_untouched]
  intro w hw
  obtain ⟨kv, -, rfl⟩ := List.mem_map.mp hw
  exact fun hc => h (congrArg Cell.space hc).symm

omit [RowFormat] in
/-- A batch of removals stays in its tree. -/
theorem at_batchRemove_outside (db : Sled) {tree : String} (keys : List Bytes)
    {c : SledCell} (h : c.space ≠ tree) : (batchRemove db tree keys).at? c = db.at? c := by
  rw [batchRemove_eq, Keyspace.at_applyWrites_of_untouched]
  intro w hw
  obtain ⟨key, -, rfl⟩ := List.mem_map.mp hw
  exact fun hc => h (congrArg Cell.space hc).symm

omit [RowFormat] in
/-- Persisting a vote or a purge marker stays in the metadata tree. -/
theorem at_persistOptional_outside {α : Type} (codec : Codec α) (db : Sled) (key : Bytes)
    (o : Option α) {c : SledCell} (h : c.space ≠ TREE_RAFT_METADATA) :
    (persistOptional codec db key o).at? c = db.at? c := by
  have hc : (⟨TREE_RAFT_METADATA, key⟩ : SledCell) ≠ c := fun hc => h (congrArg Cell.space hc).symm
  cases o with
  | none => exact (Keyspace.at_remove db _ c).trans (if_neg hc)
  | some a => exact (Keyspace.at_put db _ c _).trans (if_neg hc)

/-- An operation other than applying entries writes to the metadata and log trees only. -/
theorem at_perform_outside [RaftFormat] (store : DbStore) {op : Operation}
    (hop : ∀ entries, op ≠ .applyToStateMachine entries) {c : SledCell}
    (hmeta : c.space ≠ TREE_RAFT_METADATA) (hlog : c.space ≠ TREE_RAFT_LOG) :
    (store.perform op).storage.at? c = store.storage.at? c := by
  cases op with
  | saveVote vote => exact at_persistOptional_outside _ _ _ _ hmeta
  | appendToLog entries => exact at_batchPut_outside _ _ hlog
  | deleteConflictLogsSince logId => exact at_batchRemove_outside _ _ hlog
  | purgeLogsUpto logId =>
      exact (at_persistOptional_outside _ _ _ _ hmeta).trans (at_batchRemove_outside _ _ hlog)
  | applyToStateMachine entries => exact absurd rfl (hop entries)

end InfoVulcan.Db
